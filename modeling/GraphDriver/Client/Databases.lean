import GraphDriver.Client.Program

/-!
# Servers and databases of one client

Each operation is one request; its answer has one right shape.
-/

namespace GraphDriver.Client

open Operation (call expect)

/-- The addresses of the members of the deployment, as this server reports them. -/
def servers (client : Nat) : Operation (List String) := do
  expect "servers" (fun | .servers addresses => some addresses | _ => none)
    (← call client .serversAll)

def createDatabase (client : Nat) (name : String) : Operation Unit := do
  expect "database create" (fun | .databaseCreated => some () | _ => none)
    (← call client (.databaseCreate name))

def containsDatabase (client : Nat) (name : String) : Operation Bool := do
  expect "database contains" (fun | .databaseContains contains => some contains | _ => none)
    (← call client (.databaseContains name))

def deleteDatabase (client : Nat) (name : String) : Operation Unit := do
  expect "database delete" (fun | .databaseDeleted => some () | _ => none)
    (← call client (.databaseDelete name))

/-- The names of all databases. -/
def databases (client : Nat) : Operation (List String) := do
  expect "databases all" (fun | .databases names => some names | _ => none)
    (← call client .databasesAll)

/-- The name of a database, if the server has it. -/
def findDatabase (client : Nat) (name : String) : Operation String := do
  if ← containsDatabase client name then return name
  else throw (.databaseNotFound name)

end GraphDriver.Client
