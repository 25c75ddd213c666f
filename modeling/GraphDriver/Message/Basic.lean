import GraphDriver.Schema.Basic

/-!
# Names on the wire

The identifiers that messages carry and the error that a server reports, with the two small choices
that sessions and transactions are opened with.
-/

namespace GraphDriver

/-- Number of a request within its transaction; its answers carry the same number. -/
structure RequestId where
  value : UInt32
deriving DecidableEq, Inhabited

namespace RequestId

instance : LE RequestId := ⟨fun a b => a.value ≤ b.value⟩

instance (a b : RequestId) : Decidable (a ≤ b) := inferInstanceAs (Decidable (a.value ≤ b.value))

/-- How a request is named in messages. -/
def display (id : RequestId) : String := "#" ++ toString id.value.toNat

instance : Described RequestId where
  schema := .named "RequestId" .word
  toCarrier id := id.value
  ofCarrier value := ⟨value⟩
  ofCarrier_toCarrier _ := rfl

end RequestId

/-- Name of a session, chosen by the server. -/
structure SessionId where
  bytes : ByteArray
deriving DecidableEq, Inhabited

instance : Described SessionId where
  schema := .named "SessionId" .bytes
  toCarrier id := id.bytes
  ofCarrier bytes := ⟨bytes⟩
  ofCarrier_toCarrier _ := rfl

/-- What a session may change. -/
inductive SessionType where
  | data
  | schema
deriving DecidableEq, Inhabited

instance : Described SessionType where
  schema := .choice (.unit "Data" (.unit "Schema" .nil))
  toCarrier
    | .data => alt0 ()
    | .schema => alt1 ()
  ofCarrier
    | alt0 _ => .data
    | alt1 _ => .schema
  ofCarrier_toCarrier a := by cases a <;> rfl

/-- Whether a transaction may write. -/
inductive TransactionType where
  | read
  | write
deriving DecidableEq, Inhabited

instance : Described TransactionType where
  schema := .choice (.unit "Read" (.unit "Write" .nil))
  toCarrier
    | .read => alt0 ()
    | .write => alt1 ()
  ofCarrier
    | alt0 _ => .read
    | alt1 _ => .write
  ofCarrier_toCarrier a := by cases a <;> rfl

/-- What kind of failure a server reports. -/
inductive ServerErrorCode where
  | internal
  | notPrimary
  | databaseNotFound
  | sessionNotFound
deriving DecidableEq, Inhabited

instance : Described ServerErrorCode where
  schema := .choice
    (.unit "Internal" <| .unit "NotPrimary" <| .unit "DatabaseNotFound" <|
      .unit "SessionNotFound" .nil)
  toCarrier
    | .internal => alt0 ()
    | .notPrimary => alt1 ()
    | .databaseNotFound => alt2 ()
    | .sessionNotFound => alt3 ()
  ofCarrier
    | alt0 _ => .internal
    | alt1 _ => .notPrimary
    | alt2 _ => .databaseNotFound
    | alt3 _ => .sessionNotFound
  ofCarrier_toCarrier a := by cases a <;> rfl

/-- A failure that a server reports, for one request or for a whole call. -/
structure ServerError where
  code : ServerErrorCode
  message : String
deriving DecidableEq, Inhabited

instance : Described ServerError where
  schema := .record "ServerError"
    (.field "code" (schema ServerErrorCode) (.field "message" .text .nil))
  toCarrier e := (toCarrier e.code, e.message, ())
  ofCarrier c := ⟨ofCarrier c.1, c.2.1⟩
  ofCarrier_toCarrier _ := by simp

end GraphDriver
