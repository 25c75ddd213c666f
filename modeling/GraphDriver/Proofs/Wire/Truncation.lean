import GraphDriver.Proofs.Wire.Delivery

/-!
# Truncation

A connection may end at any point of the frames that a server sends over it. The reader yields the
messages of the frames that arrived whole. It then ends as if nothing was missing if the connection
ended where a frame ends, and with one error if it ended inside a frame, wherever that was. A frame
that carries an error ends the messages, whatever would follow it.

* §1 frames that a server sends
* §2 the frames before a cut
* §3 the end of the input
-/

namespace GraphDriver

/-! ## §1  Frames that a server sends -/

namespace Frame

variable {kind : UInt16} {flags : UInt8} {label limit : UInt32} {payload : ByteArray} {f : Frame}

theorem ofPayload_eq_ok (h : ofPayload kind flags label limit payload = .ok f) :
    payload.size ≤ limit.toNat ∧
      f = ⟨⟨kind, flags, label, UInt32.ofNat payload.size⟩, payload⟩ := by
  unfold ofPayload at h
  split at h
  · rename_i hshort
    exact ⟨hshort, (Except.ok.inj h).symm⟩
  · cases h

/-- A frame of a transaction that is built without flags that have no meaning is accepted. -/
theorem isSound_of_ofPayload
    (h : ofPayload Header.transactionKind flags label limit payload = .ok f)
    (hflags : f.header.hasFlag Header.reservedFlags = false) : f.IsSound limit := by
  obtain ⟨hshort, rfl⟩ := ofPayload_eq_ok h
  have hlength : (UInt32.ofNat payload.size).toNat = payload.size :=
    UInt32.toNat_ofNat_of_lt' (Nat.lt_of_le_of_lt hshort limit.toNat_lt)
  constructor
  · have hkind : ¬ (Header.transactionKind ≠ Header.unaryKind ∧
        Header.transactionKind ≠ Header.transactionKind) := fun h => h.2 rfl
    have hlimit : ¬ limit < UInt32.ofNat payload.size := by
      rw [UInt32.lt_iff_toNat_lt, hlength]
      exact Nat.not_lt.mpr hshort
    unfold Header.violation?
    rw [if_neg hkind, if_neg hlimit, hflags]
    rfl
  · exact hlength.symm

theorem length_bytes (f : Frame) : f.bytes.length = Header.size + f.payload.size := by
  rw [bytes, List.length_append, Header.length_encode, Array.length_toList, ByteArray.size_data]

/-- The start of a frame holds no frame, and nothing that breaks the protocol. -/
theorem parse_take (h : f.IsSound limit) {n : Nat} (hn : n < f.bytes.length) :
    ∃ tail, parse limit (f.bytes.take n) = ([], tail) ∧ tail.violation? = none := by
  rcases Nat.lt_or_ge n Header.size with hshort | hlong
  · refine ⟨_, parse_of_short ?_, rfl⟩
    rw [List.length_take]
    omega
  · have htake : f.bytes.take n =
        f.header.encode ++ f.payload.data.toList.take (n - Header.size) := by
      rw [bytes, List.take_append, Header.length_encode, List.take_of_length_le]
      rw [Header.length_encode]
      exact hlong
    rw [htake]
    refine ⟨_, parse_of_starved h.inOrder ?_, rfl⟩
    rw [← h.announced, List.length_take, Array.length_toList, ByteArray.size_data]
    rw [length_bytes] at hn
    omega

end Frame

namespace Wire

/-- The payload of a frame that carries a message or an error. -/
def payloadOf : Except ServerError ServerMessage → ByteArray
  | .ok message => encode message
  | .error error => encode error

/-- A frame of a transaction that a server sends. It carries a message, or an error if it is flagged
so; what its header labels it with, and the other flags that have a meaning, are any. -/
structure SentFrame extends Frame where
  content : Except ServerError ServerMessage
  built : Frame.ofPayload Header.transactionKind header.flags header.requestId Header.defaultLimit
    (payloadOf content) = .ok toFrame
  isResponse : header.isResponse = true
  isError : header.isError = !content.isOk
  unreserved : header.hasFlag Header.reservedFlags = false

namespace SentFrame

theorem isSound (f : SentFrame) : f.toFrame.IsSound Header.defaultLimit :=
  Frame.isSound_of_ofPayload f.built f.unreserved

/-- What is sent is what the reader reads: the message, or what the error means to the caller. -/
theorem messageOfFrame_eq (f : SentFrame) :
    messageOfFrame f.toFrame = f.content.mapError .ofServerError := by
  obtain ⟨hshort, hframe⟩ := Frame.ofPayload_eq_ok f.built
  have hpayload : f.payload = payloadOf f.content := congrArg Frame.payload hframe
  have hsize : (payloadOf f.content).size < 0x100000000 :=
    Nat.lt_of_le_of_lt hshort (by decide)
  have herror := f.isError
  unfold messageOfFrame
  rw [f.isResponse, hpayload]
  cases hcontent : f.content with
  | ok message =>
      have hmem : ("ServerMessage", schema ServerMessage) ∈ Catalogue.entries := by
        simp [Catalogue.entries]
      rw [hcontent] at hsize herror
      rw [herror, payloadOf, decode?_of_size hmem hsize]
      rfl
  | error error =>
      have hmem : ("ServerError", schema ServerError) ∈ Catalogue.entries := by
        simp [Catalogue.entries]
      rw [hcontent] at hsize herror
      rw [herror, payloadOf, decode?_of_size hmem hsize]
      rfl

end SentFrame

/-- The bytes of frames that are sent, one after the other. -/
def bytesOf (sent : List SentFrame) : List UInt8 := Frame.allBytes (sent.map (·.toFrame))

/-! ## §2  The frames before a cut -/

/-- The frames that lie wholly before a cut. -/
def wholeBefore : (position : Nat) → List SentFrame → List SentFrame
  | _, [] => []
  | position, f :: rest =>
    if f.bytes.length ≤ position then f :: wholeBefore (position - f.bytes.length) rest else []

variable {f : SentFrame} {sent rest : List SentFrame} {n : Nat} {chunks : List (List UInt8)}

theorem bytesOf_cons : bytesOf (f :: rest) = f.bytes ++ bytesOf rest := rfl

/-- Bytes before a cut are those of whole frames, and then the start of a frame at most. -/
theorem parsed_take (n : Nat) (sent : List SentFrame) :
    ∃ tail, parsed ((bytesOf sent).take n) = ((wholeBefore n sent).map (·.toFrame), tail) ∧
      tail.violation? = none := by
  induction sent generalizing n with
  | nil => exact ⟨_, Frame.parse_of_short (by simp [bytesOf, Frame.allBytes, Header.size]), rfl⟩
  | cons f rest ih =>
      rw [bytesOf_cons, wholeBefore]
      split
      · rename_i hwhole
        obtain ⟨tail, hparse, hhealthy⟩ := ih (n - f.bytes.length)
        refine ⟨tail, ?_, hhealthy⟩
        have htake : (f.bytes ++ bytesOf rest).take n =
            f.bytes ++ (bytesOf rest).take (n - f.bytes.length) := by
          rw [List.take_append, List.take_of_length_le hwhole]
        rw [htake, parsed, Frame.parse_of_isSound f.isSound, ← parsed, hparse]
        rfl
      · rename_i hcut
        have htake : (f.bytes ++ bytesOf rest).take n = f.bytes.take n :=
          List.take_append_of_le_length (Nat.le_of_not_le hcut)
        rw [htake]
        exact Frame.parse_take f.isSound (Nat.lt_of_not_le hcut)

/-- Messages are all yielded. -/
theorem delivered_of_messages {messages : List ServerMessage}
    (h : sent.map (·.content) = messages.map .ok) (ending : List (Except Error ServerMessage)) :
    delivered (sent.map (·.toFrame)) ending = messages.map .ok ++ ending := by
  induction sent generalizing messages with
  | nil =>
      cases messages with
      | nil => rfl
      | cons message messages => cases h
  | cons f rest ih =>
      cases messages with
      | nil => cases h
      | cons message messages =>
          obtain ⟨hfirst, hrest⟩ := List.cons_eq_cons.mp h
          have hcontent : f.content = .ok message := hfirst
          rw [List.map_cons, delivered_cons, f.messageOfFrame_eq, hcontent]
          exact congrArg (.ok message :: ·) (ih hrest)

/-- An error is the last thing that is yielded. -/
theorem delivered_of_error {error : ServerError} (h : f.content = .error error) (rest : List Frame)
    (ending : List (Except Error ServerMessage)) :
    delivered (f.toFrame :: rest) ending = [.error (.ofServerError error)] := by
  rw [delivered_cons, f.messageOfFrame_eq, h]
  rfl

/-! ## §3  The end of the input -/

/-- Reads that find the input at its end: there are none, or the first one gets no bytes. -/
def AtEnd (reads : List (Except Error (List UInt8))) : Prop :=
  ∀ read ∈ reads.head?, read = .ok []

theorem readsOf_append (chunks : List (List UInt8)) (later : List (Except Error (List UInt8))) :
    readsOf (chunks.map .ok ++ later) = (cut chunks).map .ok ++ readsOf later := by
  rw [readsOf, List.flatMap_append, ← readsOf, ← readsOf, readsOf_ok]

theorem readItems_of_atEnd {later : List (Except Error (List UInt8))} (h : AtEnd later)
    (b : FrameBuffer) :
    readItems b (readsOf later) = if b.isEmpty then [] else [.error (.protocol .truncated)] := by
  cases later with
  | nil => rfl
  | cons read later =>
      obtain rfl := h read rfl
      rfl

/-- What a reader knows of the bytes before a cut, however they were read. -/
theorem parsed_cut (hcut : chunks.flatten = (bytesOf sent).take n) :
    ∃ tail, parsed (cut chunks).flatten = ((wholeBefore n sent).map (·.toFrame), tail) ∧
      tail.violation? = none := by
  rw [flatten_cut, hcut]
  exact parsed_take n sent

/-- The frames before the cut are delivered, whatever reads come after it. -/
theorem readServerMessages_of_cut (hchunks : ∀ c ∈ chunks, c ≠ [])
    (hcut : chunks.flatten = (bytesOf sent).take n) (later : List (Except Error (List UInt8))) :
    readServerMessages (chunks.map .ok ++ later) =
      delivered ((wholeBefore n sent).map (·.toFrame))
        (readItems (FrameBuffer.feed {} (cut chunks)) (readsOf later)) := by
  obtain ⟨tail, hparse, hhealthy⟩ := parsed_cut hcut
  have hnone : (parsed (cut chunks).flatten).2.violation? = none := by rw [hparse]; exact hhealthy
  rw [readServerMessages, readsOf_append, readItems_of_healthy (ne_nil_of_mem_cut hchunks) hnone,
    hparse]

/-- The buffer is empty at the cut exactly if nothing but whole frames lies before it. -/
theorem isEmpty_of_cut (hcut : chunks.flatten = (bytesOf sent).take n) :
    (FrameBuffer.feed {} (cut chunks)).isEmpty = true ↔
      (bytesOf sent).take n = bytesOf (wholeBefore n sent) := by
  obtain ⟨tail, hparse, hhealthy⟩ := parsed_cut hcut
  have hnone : (parsed (cut chunks).flatten).2.violation? = none := by rw [hparse]; exact hhealthy
  have hempty := FrameBuffer.isEmpty_feed hnone
  rw [← parsed, hparse, flatten_cut, hcut, Frame.toList_encodeAll] at hempty
  exact hempty

/-- **A truncated input is told from one that ended.** However the bytes before a cut are read, the
reader yields the messages of the frames that lie wholly before the cut. If all of these carry
messages and the input ends at the cut, nothing more comes where a frame ends, and exactly one error
comes inside a frame. If one of them carries an error, the messages before it are followed by what
this error means to the caller, and by nothing more, whatever else is there to be read. -/
theorem truncation_is_detected (sent : List SentFrame) (n : Nat)
    (hchunks : ∀ c ∈ chunks, c ≠ []) (hcut : chunks.flatten = (bytesOf sent).take n)
    (later : List (Except Error (List UInt8))) :
    (∀ messages : List ServerMessage, (wholeBefore n sent).map (·.content) = messages.map .ok →
      AtEnd later → readServerMessages (chunks.map .ok ++ later) =
        messages.map .ok ++ if (bytesOf sent).take n = bytesOf (wholeBefore n sent) then []
          else [.error (.protocol .truncated)]) ∧
    ∀ (messages : List ServerMessage) error more,
      (wholeBefore n sent).map (·.content) = messages.map .ok ++ .error error :: more →
      readServerMessages (chunks.map .ok ++ later) =
        messages.map .ok ++ [.error (.ofServerError error)] := by
  rw [readServerMessages_of_cut hchunks hcut]
  constructor
  · intro messages hmessages hend
    rw [delivered_of_messages hmessages, readItems_of_atEnd hend]
    simp only [isEmpty_of_cut hcut]
  · intro messages error more hcontents
    obtain ⟨before, others, hwhole, hbefore, hothers⟩ := List.map_eq_append_iff.mp hcontents
    obtain ⟨f, rest, rfl, herror, -⟩ := List.map_eq_cons_iff.mp hothers
    rw [hwhole, List.map_append, delivered_append, delivered_of_messages hbefore, List.map_cons,
      delivered_of_error herror]

/-! A message, an error and another message. -/

def openedSent : SentFrame where
  toFrame := openedFrame
  content := .ok openedMessage
  built := by decide +kernel
  isResponse := by decide
  isError := rfl
  unreserved := by decide

/-- The server tells that it is not the one to ask. -/
def refusal : ServerError := ⟨.notPrimary, "go elsewhere"⟩

def refusalSent : SentFrame where
  header := ⟨2, 3, 1, UInt32.ofNat (encode refusal).size⟩
  payload := encode refusal
  content := .error refusal
  built := by decide +kernel
  isResponse := by decide +kernel
  isError := by decide +kernel
  unreserved := by decide +kernel

theorem truncation_is_detected_refused :
    readServerMessages ([openedFrame.bytes ++ [0, 2], [3]].map .ok ++ [.ok [], .ok [9]]) =
        [.ok openedMessage, .error (.protocol .truncated)] ∧
      readServerMessages ([openedFrame.bytes, refusalSent.bytes ++ [0]].map .ok ++ [.ok [9]]) =
        [.ok openedMessage, .error .notPrimary] := by
  let sent := [openedSent, refusalSent, openedSent]
  have hend : AtEnd [.ok [], .ok [9]] := by
    rintro read ⟨⟩
    rfl
  constructor
  · have hcut : [openedFrame.bytes ++ [0, 2], [3]].flatten =
        (bytesOf sent).take (openedFrame.bytes.length + 3) := by decide +kernel
    exact ((truncation_is_detected sent _ (by decide +kernel) hcut _).1
      [openedMessage] rfl hend).trans rfl
  · have hcut : [openedFrame.bytes, refusalSent.bytes ++ [0]].flatten =
        (bytesOf sent).take (openedFrame.bytes.length + refusalSent.bytes.length + 1) := by
      decide +kernel
    exact (truncation_is_detected sent _ (by decide +kernel) hcut _).2
      [openedMessage] refusal [] rfl

end Wire

end GraphDriver
