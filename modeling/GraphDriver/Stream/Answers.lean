import GraphDriver.Stream.Hub

/-!
# Streamed answers

Reading the parts of a streamed answer, page after page. The markers between the parts are handled
here: on `continue` the next page is asked for, on `done` the answer is complete. An item reader
goes one step further and flattens the parts into single items; an answer reader knows which items
its request is answered with.
-/

namespace GraphDriver

/-- Reads the data parts of one call. -/
structure PartReader where
  call : Call
  finished : Bool := false
deriving DecidableEq, Inhabited

/-- One answer of a query that has many. -/
inductive Answer where
  | conceptMap (answer : ConceptMap)
  | conceptMapGroup (group : ConceptMapGroup)
  | numericGroup (group : NumericGroup)
  | rule (rule : Rule)
deriving DecidableEq, Inhabited

/-- What a streamed request asks for. -/
inductive AnswerKind where
  | match
  | insert
  | update
  | matchGroup
  | matchGroupAggregate
  | rules
deriving DecidableEq, Inhabited

/-- What a part is expected to be called. -/
def AnswerKind.name : AnswerKind → String
  | .match => "match"
  | .insert => "insert"
  | .update => "update"
  | .matchGroup => "match group"
  | .matchGroupAggregate => "match group aggregate"
  | .rules => "get rules"

/-- The answers in a part of the right shape. -/
def AnswerKind.extract (kind : AnswerKind) (part : PartPayload) : Except Error (List Answer) :=
  match kind, part with
  | .match, .query (.match answers) => .ok (answers.map .conceptMap)
  | .insert, .query (.insert answers) => .ok (answers.map .conceptMap)
  | .update, .query (.update answers) => .ok (answers.map .conceptMap)
  | .matchGroup, .query (.matchGroup groups) => .ok (groups.map .conceptMapGroup)
  | .matchGroupAggregate, .query (.matchGroupAggregate groups) =>
    .ok (groups.map .numericGroup)
  | .rules, .logic (.rules found) => .ok (found.map .rule)
  | _, _ => .error (.protocol (.unexpected kind.name (describe part)))

/-- Reads the single items out of the parts of one call. An error of shape does not end the
reading. -/
structure ItemReader (α : Type) where
  parts : PartReader
  /-- Items of a part that was read. -/
  ready : List (Except Error α) := []
deriving DecidableEq, Inhabited

/-- Reads the answers of one call. -/
structure AnswerReader extends ItemReader Answer where
  kind : AnswerKind
deriving DecidableEq, Inhabited

namespace Hub

/-- How many deliveries wait for a call. -/
def backlog (h : Hub) (call : Call) : Nat :=
  ((h.stream call.stream).collector.mailboxes.getD call.mailbox default).waiting.length

/-- Reads at most a number of deliveries in search of the next data part. -/
def nextPartWithin : Nat → Hub → (now : Nat) → PartReader →
    Poll (Except Error PartPayload) × PartReader × Hub
  | 0, h, _, p => (.waiting, p, h)
  | reads + 1, h, now, p =>
    if p.finished then (.ended, p, h)
    else
      let fail (h : Hub) (error : Error) : Poll (Except Error PartPayload) × PartReader × Hub :=
        (.item (.error error), { p with finished := true }, h)
      match h.read p.call with
      | (.waiting, h) => (.waiting, p, h)
      | (.ended, h) => (.ended, { p with finished := true }, h)
      | (.item (.error error), h) => fail h error
      | (.item (.ok (.response response)), h) =>
        match response.result with
        | .error error => fail h (.ofServerError error)
        | .ok _ => fail h (.protocol (.responseForStream p.call.id))
      | (.item (.ok (.responsePart part)), h) =>
        match part.payload with
        | .streamState .continue =>
          match h.askMore now p.call.stream p.call.id with
          | (.error error, h) => fail h error
          | (.ok (), h) => nextPartWithin reads h now p
        | .streamState .done => (.ended, { p with finished := true }, h)
        | payload => (.item (.ok payload), p, h)

/-- The next data part of a call, or its end. Reading goes on until a part is found or every
delivery that waits has been read. -/
def nextPart (h : Hub) (now : Nat) (p : PartReader) :
    Poll (Except Error PartPayload) × PartReader × Hub :=
  nextPartWithin (h.backlog p.call + 2) h now p

/-- Gives up a call whose parts nobody reads any more. -/
def dropParts (h : Hub) (p : PartReader) : Hub := h.forget p.call.stream p.call.id

/-- Looks at most a number of parts ahead for the next item. -/
def nextItemWithin {α : Type} (extract : PartPayload → Except Error (List α)) :
    Nat → Hub → (now : Nat) → ItemReader α → Poll (Except Error α) × ItemReader α × Hub
  | 0, h, _, r => (.waiting, r, h)
  | looks + 1, h, now, r =>
    match r.ready with
    | item :: rest => (.item item, { r with ready := rest }, h)
    | [] =>
      match h.nextPart now r.parts with
      | (.waiting, parts, h) => (.waiting, { r with parts }, h)
      | (.ended, parts, h) => (.ended, { r with parts }, h)
      | (.item (.error error), parts, h) => (.item (.error error), { r with parts }, h)
      | (.item (.ok part), parts, h) =>
        match extract part with
        | .error error => (.item (.error error), { r with parts }, h)
        | .ok items =>
          nextItemWithin extract looks h now { parts, ready := items.map .ok }

/-- The next item of a call, or its end, with a rule that takes the items out of a part. -/
def nextItem {α : Type} (h : Hub) (extract : PartPayload → Except Error (List α)) (now : Nat)
    (r : ItemReader α) : Poll (Except Error α) × ItemReader α × Hub :=
  nextItemWithin extract (h.backlog r.parts.call + 3) h now r

/-- The next answer of a call, or its end. -/
def nextAnswer (h : Hub) (now : Nat) (a : AnswerReader) :
    Poll (Except Error Answer) × AnswerReader × Hub :=
  let (answer, items, h) := h.nextItem a.kind.extract now a.toItemReader
  (answer, { a with toItemReader := items }, h)

/-- Reads at most `count` answers, as far as they can be had. The result is `waiting` if more are to
come, with those that were read so far. -/
def takeAnswers : (count : Nat) → Hub → (now : Nat) → AnswerReader →
    List (Except Error Answer) × Poll Unit × AnswerReader × Hub
  | 0, h, _, a => ([], .item (), a, h)
  | count + 1, h, now, a =>
    match h.nextAnswer now a with
    | (.waiting, a, h) => ([], .waiting, a, h)
    | (.ended, a, h) => ([], .ended, a, h)
    | (.item answer, a, h) =>
      let (answers, outcome, a, h) := takeAnswers count h now a
      (answer :: answers, outcome, a, h)

/-- How many answers and errors can come from the deliveries that wait for a call. -/
def answersAtMost (h : Hub) (a : AnswerReader) : Nat :=
  let weight : Delivery → Nat
    | .ok (.responsePart ⟨_, .query (.match answers)⟩) => answers.length + 1
    | .ok (.responsePart ⟨_, .query (.insert answers)⟩) => answers.length + 1
    | .ok (.responsePart ⟨_, .query (.update answers)⟩) => answers.length + 1
    | .ok (.responsePart ⟨_, .query (.matchGroup groups)⟩) => groups.length + 1
    | .ok (.responsePart ⟨_, .query (.matchGroupAggregate groups)⟩) => groups.length + 1
    | .ok (.responsePart ⟨_, .logic (.rules rules)⟩) => rules.length + 1
    | _ => 1
  let waiting :=
    ((h.stream a.parts.call.stream).collector.mailboxes.getD a.parts.call.mailbox default).waiting
  waiting.foldl (fun n delivery => n + weight delivery) (a.ready.length + 2)

/-- Reads answers as far as they can be had, at most `limit` of them if there is a limit. -/
def drainAnswers (h : Hub) (now : Nat) (limit : Option Nat) (a : AnswerReader) :
    List (Except Error Answer) × Poll Unit × AnswerReader × Hub :=
  h.takeAnswers (limit.getD (h.answersAtMost a)) now a

end Hub

end GraphDriver
