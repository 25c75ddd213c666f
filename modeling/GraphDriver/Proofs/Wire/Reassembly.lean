import GraphDriver.Wire.FrameBuffer
import GraphDriver.Proofs.Pack.RoundTrip
import GraphDriver.Proofs.Run

/-!
# Reassembly

Frames do not depend on the chunks in which their bytes arrive. `Frame.parse` reads a byte string at
once and tells what is left behind the last whole frame; a buffer that was pushed the bytes in any
chunks has returned the same frames and holds just what is left.

* §1 headers
* §2 the parse of a byte string
* §3 the buffer after a parse
* §4 any chunks
-/

namespace GraphDriver

open Pack (bigEndian ofBigEndian ofBigEndian_bigEndian ofBigEndian_lt bigEndian_ofBigEndian)

/-! ## §1  Headers -/

namespace Header

theorem length_encode (h : Header) : h.encode.length = size := by
  simp [encode, size]

theorem decode?_eq_none_iff {bytes : List UInt8} : decode? bytes = none ↔ bytes.length < size := by
  unfold decode?
  split
  · simp [size]
  · rename_i hshort
    refine ⟨fun _ => Nat.lt_of_not_le fun hlong => ?_, fun _ => rfl⟩
    match bytes, hlong with
    | k1 :: k0 :: flags :: r3 :: r2 :: r1 :: r0 :: l3 :: l2 :: l1 :: l0 :: _, _ =>
      exact hshort _ _ _ _ _ _ _ _ _ _ _ _ rfl

theorem size_le_of_decode? {bytes : List UInt8} {h : Header} (hread : decode? bytes = some h) :
    size ≤ bytes.length := by
  refine Nat.le_of_not_lt fun hshort => ?_
  rw [decode?_eq_none_iff.mpr hshort] at hread
  cases hread

theorem decode?_encode (h : Header) (rest : List UInt8) : decode? (h.encode ++ rest) = some h := by
  have hread : decode? (h.encode ++ rest) = some {
      kind := UInt16.ofNat (ofBigEndian (bigEndian 2 h.kind.toNat))
      flags := h.flags
      requestId := UInt32.ofNat (ofBigEndian (bigEndian 4 h.requestId.toNat))
      payloadLength := UInt32.ofNat (ofBigEndian (bigEndian 4 h.payloadLength.toNat)) } := rfl
  have hkind : h.kind.toNat % 256 ^ 2 = h.kind.toNat := Nat.mod_eq_of_lt h.kind.toNat_lt
  have hword (n : UInt32) : n.toNat % 256 ^ 4 = n.toNat := Nat.mod_eq_of_lt n.toNat_lt
  rw [hread]
  simp only [ofBigEndian_bigEndian, hkind, hword, UInt16.ofNat_toNat, UInt32.ofNat_toNat]

/-- A header that was read is written as the bytes that it was read from. -/
theorem encode_of_decode? {bytes : List UInt8} {h : Header} (hread : decode? bytes = some h) :
    h.encode ++ bytes.drop size = bytes := by
  have hkind (k1 k0 : UInt8) :
      bigEndian 2 (UInt16.ofNat (ofBigEndian [k1, k0])).toNat = [k1, k0] := by
    rw [UInt16.toNat_ofNat_of_lt' (by simpa using ofBigEndian_lt [k1, k0])]
    exact bigEndian_ofBigEndian [k1, k0]
  have hword (b3 b2 b1 b0 : UInt8) :
      bigEndian 4 (UInt32.ofNat (ofBigEndian [b3, b2, b1, b0])).toNat = [b3, b2, b1, b0] := by
    rw [UInt32.toNat_ofNat_of_lt' (by simpa using ofBigEndian_lt [b3, b2, b1, b0])]
    exact bigEndian_ofBigEndian [b3, b2, b1, b0]
  unfold decode? at hread
  split at hread
  · cases hread
    simp only [encode, hkind, hword]
    rfl
  · cases hread

/-- A byte string is too short for a header or starts with one. -/
theorem cut (bytes : List UInt8) :
    bytes.length < size ∨ ∃ (h : Header) (rest : List UInt8), bytes = h.encode ++ rest := by
  cases hread : decode? bytes with
  | none => exact .inl (decode?_eq_none_iff.mp hread)
  | some h => exact .inr ⟨h, bytes.drop size, (encode_of_decode? hread).symm⟩

end Header

/-! ## §2  The parse of a byte string -/

/-- What is left of a byte string behind its last whole frame. -/
inductive Tail where
  /-- Too few bytes for a header. -/
  | header (front : List UInt8)
  /-- A header in order, and too few bytes for its payload. -/
  | payload (header : Header) (front : List UInt8)
  /-- A header that breaks the protocol, with all that follows it. -/
  | broken (violation : Violation) (front : List UInt8)

namespace Tail

/-- The bytes behind the last header that is in order or the last payload. -/
def front : Tail → List UInt8
  | .header front | .payload _ front | .broken _ front => front

/-- All that is left. -/
def bytes : Tail → List UInt8
  | .header front | .broken _ front => front
  | .payload h front => h.encode ++ front

def violation? : Tail → Option Violation
  | .broken violation _ => some violation
  | _ => none

end Tail

namespace Frame

/-- Reads the frames of a byte string, one after the other, while headers are complete and in
order. -/
def parse (limit : UInt32) (bytes : List UInt8) : List Frame × Tail :=
  match _ : Header.decode? bytes with
  | none => ([], .header bytes)
  | some header =>
    match header.violation? limit with
    | some violation => ([], .broken violation bytes)
    | none =>
      let rest := bytes.drop Header.size
      let length := header.payloadLength.toNat
      if rest.length < length then ([], .payload header rest)
      else
        let (frames, tail) := parse limit (rest.drop length)
        (⟨header, (rest.take length).toByteArray⟩ :: frames, tail)
termination_by bytes.length
decreasing_by
  have hlong := Header.size_le_of_decode? ‹Header.decode? bytes = some header›
  simp only [List.length_drop, Header.size] at hlong ⊢
  omega

/-- A frame that a reader accepts: its header is in order and announces its payload. -/
structure IsSound (limit : UInt32) (f : Frame) : Prop where
  inOrder : f.header.violation? limit = none
  announced : f.payload.size = f.header.payloadLength.toNat

/-- The bytes of a frame. -/
def bytes (f : Frame) : List UInt8 := f.header.encode ++ f.payload.data.toList

variable {limit : UInt32} {bytes front : List UInt8} {header : Header} {violation : Violation}
  {f : Frame}

theorem parse_of_short (h : bytes.length < Header.size) :
    parse limit bytes = ([], .header bytes) := by
  have hread := Header.decode?_eq_none_iff.mpr h
  unfold parse
  split
  · rfl
  · rename_i header hheader
    rw [hread] at hheader
    cases hheader

theorem parse_of_header (header : Header) (rest : List UInt8) :
    parse limit (header.encode ++ rest) =
      match header.violation? limit with
      | some violation => ([], .broken violation (header.encode ++ rest))
      | none =>
        if rest.length < header.payloadLength.toNat then ([], .payload header rest)
        else
          (⟨header, (rest.take header.payloadLength.toNat).toByteArray⟩ ::
            (parse limit (rest.drop header.payloadLength.toNat)).1,
            (parse limit (rest.drop header.payloadLength.toNat)).2) := by
  have hread := header.decode?_encode rest
  have hdrop : (header.encode ++ rest).drop Header.size = rest :=
    List.drop_left' header.length_encode
  rw [parse]
  split
  · rename_i hnone
    rw [hread] at hnone
    cases hnone
  · rename_i other hother
    obtain rfl : header = other := Option.some.inj (hread.symm.trans hother)
    rw [hdrop]

theorem parse_of_violation (h : header.violation? limit = some violation) (rest : List UInt8) :
    parse limit (header.encode ++ rest) = ([], .broken violation (header.encode ++ rest)) := by
  rw [parse_of_header, h]

theorem parse_of_starved (hinOrder : header.violation? limit = none)
    (h : front.length < header.payloadLength.toNat) :
    parse limit (header.encode ++ front) = ([], .payload header front) := by
  rw [parse_of_header, hinOrder]
  exact if_pos h

theorem parse_of_isSound (h : f.IsSound limit) (rest : List UInt8) :
    parse limit (f.bytes ++ rest) = (f :: (parse limit rest).1, (parse limit rest).2) := by
  have hlength : f.payload.data.toList.length = f.header.payloadLength.toNat := by
    rw [Array.length_toList, ByteArray.size_data, h.announced]
  have hlong : ¬ (f.payload.data.toList ++ rest).length < f.header.payloadLength.toNat := by
    rw [List.length_append, hlength]
    omega
  have hpayload : f.payload.data.toList.toByteArray = f.payload := ByteArray.ext (by simp)
  rw [bytes, List.append_assoc, parse_of_header, h.inOrder]
  dsimp only
  rw [if_neg hlong, List.take_left' hlength, List.drop_left' hlength, hpayload]

/-- A byte string is too short for a header, or starts with a header that breaks the protocol, with
one whose payload is missing, or with a whole frame. -/
theorem parse_induction {motive : List UInt8 → Prop} (limit : UInt32)
    (short : ∀ bytes, bytes.length < Header.size → motive bytes)
    (broken : ∀ (header : Header) (violation : Violation) (rest : List UInt8),
      header.violation? limit = some violation → motive (header.encode ++ rest))
    (starved : ∀ (header : Header) (front : List UInt8), header.violation? limit = none →
      front.length < header.payloadLength.toNat → motive (header.encode ++ front))
    (whole : ∀ (f : Frame) (rest : List UInt8), f.IsSound limit → motive rest →
      motive (f.bytes ++ rest)) :
    ∀ bytes, motive bytes := by
  intro bytes
  induction hlength : bytes.length using Nat.strongRecOn generalizing bytes with
  | ind length ih =>
      cases hread : Header.decode? bytes with
      | none => exact short bytes (Header.decode?_eq_none_iff.mp hread)
      | some header =>
          have hlong := Header.size_le_of_decode? hread
          rw [← Header.encode_of_decode? hread]
          generalize hrest : bytes.drop Header.size = rest
          cases hinOrder : header.violation? limit with
          | some violation => exact broken header violation rest hinOrder
          | none =>
              rcases Nat.lt_or_ge rest.length header.payloadLength.toNat with hshort | hfull
              · exact starved header rest hinOrder hshort
              · -- a whole frame: what follows it is shorter by a header at least
                let f : Frame := ⟨header, (rest.take header.payloadLength.toNat).toByteArray⟩
                have hsound : f.IsSound limit := ⟨hinOrder, by simp [f, hfull]⟩
                have hsplit : header.encode ++ rest =
                    f.bytes ++ rest.drop header.payloadLength.toNat := by
                  simp [f, Frame.bytes]
                rw [hsplit]
                refine whole f _ hsound (ih _ ?_ _ rfl)
                rw [← hlength, List.length_drop, ← hrest, List.length_drop]
                simp only [Header.size] at hlong ⊢
                omega

/-- The bytes of frames, in order. -/
def allBytes (frames : List Frame) : List UInt8 := frames.flatMap Frame.bytes

theorem allBytes_cons (f : Frame) (rest : List Frame) :
    allBytes (f :: rest) = f.bytes ++ allBytes rest := rfl

theorem allBytes_append (frames later : List Frame) :
    allBytes (frames ++ later) = allBytes frames ++ allBytes later := List.flatMap_append

theorem toList_encode (f : Frame) : f.encode.data.toList = f.bytes := by
  simp [encode, Frame.bytes]

theorem toList_encodeAll (frames : List Frame) :
    (encodeAll frames).data.toList = allBytes frames := by
  have hfold (start : ByteArray) :
      (frames.foldl (fun bytes f => bytes ++ f.encode) start).data.toList =
        start.data.toList ++ allBytes frames := by
    induction frames generalizing start with
    | nil => simp [allBytes]
    | cons f rest ih =>
        rw [List.foldl_cons, ih, ByteArray.toList_data_append, toList_encode, allBytes_cons,
          List.append_assoc]
  rw [encodeAll, hfold]
  rfl

/-- A parse loses nothing. -/
theorem allBytes_parse (limit : UInt32) (bytes : List UInt8) :
    allBytes (parse limit bytes).1 ++ (parse limit bytes).2.bytes = bytes := by
  induction bytes using parse_induction limit with
  | short bytes h => rw [parse_of_short h]; rfl
  | broken header violation rest h => rw [parse_of_violation h]; rfl
  | starved header front hinOrder h => rw [parse_of_starved hinOrder h]; rfl
  | whole f rest h ih => rw [parse_of_isSound h, allBytes_cons, List.append_assoc, ih]

/-- Bytes that follow are parsed with what was left. -/
theorem parse_append (limit : UInt32) (bytes more : List UInt8) :
    parse limit (bytes ++ more) =
      ((parse limit bytes).1 ++ (parse limit ((parse limit bytes).2.bytes ++ more)).1,
        (parse limit ((parse limit bytes).2.bytes ++ more)).2) := by
  induction bytes using parse_induction limit with
  | short bytes h => rw [parse_of_short h]; rfl
  | broken header violation rest h => rw [parse_of_violation h]; rfl
  | starved header front hinOrder h => rw [parse_of_starved hinOrder h]; rfl
  | whole f rest h ih => rw [List.append_assoc, parse_of_isSound h, parse_of_isSound h, ih]; rfl

theorem parse_allBytes {frames : List Frame} (h : ∀ f ∈ frames, f.IsSound limit) :
    parse limit (allBytes frames) = (frames, .header []) := by
  induction frames with
  | nil => exact parse_of_short (by decide)
  | cons f rest ih =>
      obtain ⟨hfirst, hrest⟩ := List.forall_mem_cons.mp h
      rw [allBytes_cons, parse_of_isSound hfirst, ih hrest]

/-- Behind a header that breaks the protocol there is no frame, whatever follows. -/
theorem parse_append_of_violation (h : (parse limit bytes).2.violation? = some violation)
    (more : List UInt8) :
    (parse limit (bytes ++ more)).1 = (parse limit bytes).1 ∧
      (parse limit (bytes ++ more)).2.violation? = some violation := by
  induction bytes using parse_induction limit with
  | short bytes hshort =>
      rw [parse_of_short hshort] at h
      cases h
  | broken header other rest hother =>
      rw [parse_of_violation hother] at h ⊢
      rw [List.append_assoc, parse_of_violation hother]
      exact ⟨rfl, h⟩
  | starved header front hinOrder hstarved =>
      rw [parse_of_starved hinOrder hstarved] at h
      cases h
  | whole f rest hsound ih =>
      rw [parse_of_isSound hsound] at h ⊢
      rw [List.append_assoc, parse_of_isSound hsound]
      exact ⟨congrArg (f :: ·) (ih h).1, (ih h).2⟩

theorem healthy_of_append {more : List UInt8}
    (h : (parse limit (bytes ++ more)).2.violation? = none) :
    (parse limit bytes).2.violation? = none := by
  cases hviolation : (parse limit bytes).2.violation? with
  | none => rfl
  | some violation =>
      rw [(parse_append_of_violation hviolation more).2] at h
      cases h

/-- A violation is one of a header. -/
theorem exists_header_of_violation (h : (parse limit bytes).2.violation? = some violation) :
    ∃ header : Header, header.violation? limit = some violation := by
  induction bytes using parse_induction limit with
  | short bytes hshort =>
      rw [parse_of_short hshort] at h
      cases h
  | broken header other rest hother =>
      rw [parse_of_violation hother] at h
      cases h
      exact ⟨header, hother⟩
  | starved header front hinOrder hstarved =>
      rw [parse_of_starved hinOrder hstarved] at h
      cases h
  | whole f rest hsound ih =>
      rw [parse_of_isSound hsound] at h
      exact ih h

/-- A header that waits for its payload is in order. -/
theorem inOrder_of_parse (h : (parse limit bytes).2 = .payload header front) :
    header.violation? limit = none := by
  induction bytes using parse_induction limit with
  | short bytes hshort =>
      rw [parse_of_short hshort] at h
      cases h
  | broken other violation rest hother =>
      rw [parse_of_violation hother] at h
      cases h
  | starved other rest hinOrder hstarved =>
      rw [parse_of_starved hinOrder hstarved] at h
      cases h
      exact hinOrder
  | whole f rest hsound ih =>
      rw [parse_of_isSound hsound] at h
      exact ih h

end Frame

/-! ## §3  The buffer after a parse -/

namespace FrameBuffer

open GraphDriver.Frame (parse parse_of_short parse_of_violation parse_of_header parse_append
  parse_append_of_violation allBytes allBytes_parse parse_allBytes)

variable {limit : UInt32} {bytes front data : List UInt8} {header : Header} {tail : Tail}

/-- The buffer that holds what is left. -/
def ofTail (limit : UInt32) : Tail → FrameBuffer
  | .header front | .broken _ front => { pending := front, awaited := none, limit }
  | .payload header front => { pending := front, awaited := some header, limit }

/-- What a push answers whose bytes are parsed. -/
def answer (parsed : List Frame × Tail) : Except Violation (List Frame) :=
  match parsed.2.violation? with
  | some violation => .error violation
  | none => .ok parsed.1

/-- What a push answers and leaves. -/
def outcome (limit : UInt32) (parsed : List Frame × Tail) :
    Except Violation (List Frame) × FrameBuffer :=
  (answer parsed, ofTail limit parsed.2)

theorem advance_of_short (h : bytes.length < Header.size) :
    advance { pending := bytes, limit } = .starved { pending := bytes, limit } := by
  have hread := Header.decode?_eq_none_iff.mpr h
  simp only [advance, hread]

theorem advance_of_header (limit : UInt32) (header : Header) (rest : List UInt8) :
    advance { pending := header.encode ++ rest, limit } =
      match header.violation? limit with
      | some violation => .broken violation
      | none => takePayload limit header rest := by
  have hread := header.decode?_encode rest
  have hdrop : (header.encode ++ rest).drop Header.size = rest :=
    List.drop_left' header.length_encode
  cases hinOrder : header.violation? limit with
  | none => simp [advance, hread, hdrop, hinOrder]
  | some violation => simp [advance, hread, hinOrder]

/-- A buffer whose next bytes are the payload of a header takes that payload, and then what later
turns would take from the bytes behind it. -/
theorem takeFrames_of_payload {b : FrameBuffer} {count : Nat}
    (hadvance : b.advance = takePayload limit header bytes)
    (hinOrder : header.violation? limit = none)
    (hlater : ∀ later : List UInt8, later.length ≤ bytes.length →
      takeFrames count { pending := later, limit } = outcome limit (parse limit later)) :
    takeFrames (count + 1) b = outcome limit (parse limit (header.encode ++ bytes)) := by
  rw [takeFrames, hadvance, parse_of_header, hinOrder, takePayload]
  dsimp only
  rcases Nat.lt_or_ge bytes.length header.payloadLength.toNat with hstarved | hfull
  · have hfront : (bytes.take header.payloadLength.toNat).length ≠ header.payloadLength.toNat := by
      rw [List.length_take]
      omega
    rw [if_neg hfront, if_pos hstarved]
    rfl
  · have hfront : (bytes.take header.payloadLength.toNat).length = header.payloadLength.toNat := by
      rw [List.length_take]
      omega
    have hrest := hlater (bytes.drop header.payloadLength.toNat)
      (by rw [List.length_drop]; omega)
    rw [if_pos hfront, if_neg (Nat.not_lt_of_ge hfull)]
    dsimp only
    rw [hrest]
    cases hviolation : (parse limit (bytes.drop header.payloadLength.toNat)).2.violation? with
    | none => simp [outcome, answer, hviolation]
    | some violation => simp [outcome, answer, hviolation]

/-- Taking frames from the front of bytes is parsing them, since each frame takes a header. -/
theorem takeFrames_pending (count : Nat) (bytes : List UInt8) (h : bytes.length ≤ count) :
    takeFrames count { pending := bytes, limit } = outcome limit (parse limit bytes) := by
  induction count generalizing bytes with
  | zero =>
      obtain rfl := List.length_eq_zero_iff.mp (Nat.le_zero.mp h)
      rw [parse_of_short (by decide)]
      rfl
  | succ count ih =>
      rcases Header.cut bytes with hshort | ⟨header, rest, rfl⟩
      · rw [takeFrames, advance_of_short hshort, parse_of_short hshort]
        rfl
      · have hadvance := advance_of_header limit header rest
        cases hinOrder : header.violation? limit with
        | some violation =>
            rw [hinOrder] at hadvance
            rw [takeFrames, hadvance, parse_of_violation hinOrder]
            rfl
        | none =>
            rw [hinOrder] at hadvance
            refine takeFrames_of_payload hadvance hinOrder fun later hlater => ih later ?_
            rw [List.length_append, header.length_encode, Header.size] at h
            omega

/-- A push parses what was left together with the new bytes. -/
theorem push_ofTail (hinOrder : ∀ header front, tail = .payload header front →
    header.violation? limit = none) (data : List UInt8) :
    (ofTail limit tail).push data = outcome limit (parse limit (tail.bytes ++ data)) := by
  cases tail with
  | header front => exact takeFrames_pending _ _ (Nat.le_succ _)
  | broken violation front => exact takeFrames_pending _ _ (Nat.le_succ _)
  | payload header front =>
      rw [Tail.bytes, List.append_assoc]
      exact takeFrames_of_payload rfl (hinOrder header front rfl)
        fun later hlater => takeFrames_pending _ later hlater

/-! ## §4  Any chunks -/

/-- The buffer after some pushes. -/
def feed (b : FrameBuffer) (chunks : List (List UInt8)) : FrameBuffer :=
  chunks.foldl (fun b data => (b.push data).2) b

/-- What some pushes answer, in order. -/
def answers (b : FrameBuffer) (chunks : List (List UInt8)) :
    List (Except Violation (List Frame)) :=
  Run.log (fun b data => (b.push data).2) (fun b data => [(b.push data).1]) b chunks

theorem feed_snoc (b : FrameBuffer) (chunks : List (List UInt8)) (data : List UInt8) :
    b.feed (chunks ++ [data]) = ((b.feed chunks).push data).2 := by
  simp [feed]

theorem answers_snoc (b : FrameBuffer) (chunks : List (List UInt8)) (data : List UInt8) :
    b.answers (chunks ++ [data]) = b.answers chunks ++ [((b.feed chunks).push data).1] :=
  Run.log_snoc b chunks data

/-- A buffer holds what a parse of all its bytes leaves. -/
theorem feed_eq (limit : UInt32) (chunks : List (List UInt8)) :
    feed { limit } chunks = ofTail limit (parse limit chunks.flatten).2 := by
  induction chunks using List.reverseRecOn with
  | nil =>
      rw [List.flatten_nil, parse_of_short (by decide)]
      rfl
  | append_singleton chunks data ih =>
      rw [feed_snoc, ih, push_ofTail fun _ _ => Frame.inOrder_of_parse, List.flatten_append,
        List.flatten_singleton, parse_append limit chunks.flatten data]
      rfl

/-- A push answers the frames that the parse of all bytes has more than the one before. -/
theorem push_feed (limit : UInt32) (chunks : List (List UInt8)) (data : List UInt8) :
    ((feed { limit } chunks).push data).1 =
      answer (parse limit ((parse limit chunks.flatten).2.bytes ++ data)) := by
  rw [feed_eq, push_ofTail fun _ _ => Frame.inOrder_of_parse]
  rfl

/-- While no header breaks the protocol every push succeeds, and the frames are the parsed ones. -/
theorem answers_of_healthy {chunks : List (List UInt8)}
    (h : (parse limit chunks.flatten).2.violation? = none) :
    ∃ given : List (List Frame), answers { limit } chunks = given.map .ok ∧
      given.flatten = (parse limit chunks.flatten).1 := by
  induction chunks using List.reverseRecOn with
  | nil => exact ⟨[], rfl, by rw [List.flatten_nil, parse_of_short (by decide)]⟩
  | append_singleton chunks data ih =>
      rw [List.flatten_append, List.flatten_singleton] at h ⊢
      obtain ⟨given, hgiven, hframes⟩ := ih (Frame.healthy_of_append h)
      rw [parse_append] at h ⊢
      have hanswer := push_feed limit chunks data
      rw [answer, h] at hanswer
      refine ⟨given ++ [(parse limit ((parse limit chunks.flatten).2.bytes ++ data)).1], ?_, ?_⟩
      · rw [answers_snoc, hgiven, hanswer, List.map_append, List.map_singleton]
      · rw [List.flatten_append, List.flatten_singleton, hframes]

/-- The first push that completes a header that breaks the protocol answers the violation, and so
does every later one. -/
theorem answers_of_violation {chunks : List (List UInt8)} {data : List UInt8}
    {violation : Violation}
    (h : (parse limit (chunks.flatten ++ data)).2.violation? = some violation)
    (later : List (List UInt8)) :
    answers { limit } (chunks ++ data :: later) =
      answers { limit } chunks ++ List.replicate (later.length + 1) (.error violation) := by
  induction later using List.reverseRecOn with
  | nil =>
      rw [parse_append] at h
      rw [answers_snoc, push_feed, answer, h]
      rfl
  | append_singleton later more ih =>
      have hstays := (parse_append_of_violation h (later.flatten ++ more)).2
      have hpush := push_feed limit (chunks ++ data :: later) more
      have hbytes : chunks.flatten ++ data ++ (later.flatten ++ more) =
          (chunks ++ data :: later).flatten ++ more := by simp
      rw [hbytes, parse_append] at hstays
      rw [answer, hstays] at hpush
      rw [← List.cons_append, ← List.append_assoc, answers_snoc, ih, hpush, List.append_assoc,
        List.length_append, List.length_singleton]
      exact congrArg _ List.replicate_succ'.symm

theorem isEmpty_ofTail (h : tail.violation? = none) :
    (ofTail limit tail).isEmpty = true ↔ tail.bytes = [] := by
  cases tail with
  | header front => simp [ofTail, isEmpty, Tail.bytes]
  | payload header front => simp [ofTail, isEmpty, Tail.bytes, Header.encode]
  | broken violation front => cases h

theorem size_ofTail (limit : UInt32) (tail : Tail) :
    (ofTail limit tail).size = tail.front.length := by
  cases tail <;> rfl

/-- While no header breaks the protocol, a buffer is empty where a frame ends. -/
theorem isEmpty_feed {chunks : List (List UInt8)}
    (h : (parse limit chunks.flatten).2.violation? = none) :
    (feed { limit } chunks).isEmpty = true ↔
      chunks.flatten = (Frame.encodeAll (parse limit chunks.flatten).1).data.toList := by
  have hall := allBytes_parse limit chunks.flatten
  rw [feed_eq, isEmpty_ofTail h, Frame.toList_encodeAll]
  constructor
  · intro hnothing
    rw [hnothing, List.append_nil] at hall
    exact hall.symm
  · intro hwhole
    rw [← hwhole] at hall
    exact List.append_right_eq_self.mp hall

/-- Frames that a reader accepts come back from their bytes in any chunks. -/
theorem answers_of_isSound {frames : List Frame} (hsound : ∀ f ∈ frames, f.IsSound limit)
    {chunks : List (List UInt8)} (h : chunks.flatten = (Frame.encodeAll frames).data.toList) :
    (∃ given : List (List Frame), answers { limit } chunks = given.map .ok ∧
      given.flatten = frames) ∧ (feed { limit } chunks).isEmpty = true := by
  have hparse : parse limit chunks.flatten = (frames, .header []) := by
    rw [h, Frame.toList_encodeAll, parse_allBytes hsound]
  have hhealthy : (parse limit chunks.flatten).2.violation? = none := by rw [hparse]; rfl
  have hanswers := answers_of_healthy hhealthy
  refine ⟨by rwa [hparse] at hanswers, (isEmpty_feed hhealthy).mpr ?_⟩
  rw [hparse]
  exact h

/-- **Frames do not depend on chunks.** While no header breaks the protocol, the bytes so far are
those of the parsed frames and what is left; every push succeeds, the pushes have answered the
parsed frames, the buffer is empty exactly where a frame ends, and it holds as many bytes as follow
the last header or payload. The first push that completes a header which breaks the protocol answers
the violation, and so does every later one. Frames that the reader accepts come back unchanged from
their bytes. -/
theorem reassembly_is_a_parse (limit : UInt32) :
    (∀ chunks : List (List UInt8), (parse limit chunks.flatten).2.violation? = none →
      (Frame.encodeAll (parse limit chunks.flatten).1).data.toList ++
        (parse limit chunks.flatten).2.bytes = chunks.flatten ∧
      (∃ given : List (List Frame), answers { limit } chunks = given.map .ok ∧
        given.flatten = (parse limit chunks.flatten).1) ∧
      ((feed { limit } chunks).isEmpty = true ↔
        chunks.flatten = (Frame.encodeAll (parse limit chunks.flatten).1).data.toList) ∧
      (feed { limit } chunks).size = (parse limit chunks.flatten).2.front.length) ∧
    (∀ (chunks : List (List UInt8)) (data : List UInt8) (later : List (List UInt8))
      (violation : Violation),
      (parse limit (chunks.flatten ++ data)).2.violation? = some violation →
      answers { limit } (chunks ++ data :: later) =
        answers { limit } chunks ++ List.replicate (later.length + 1) (.error violation)) ∧
    (∀ (chunks : List (List UInt8)) (frames : List Frame), (∀ f ∈ frames, f.IsSound limit) →
      chunks.flatten = (Frame.encodeAll frames).data.toList →
      (∃ given : List (List Frame), answers { limit } chunks = given.map .ok ∧
        given.flatten = frames) ∧ (feed { limit } chunks).isEmpty = true) := by
  refine ⟨fun chunks h => ⟨?bytes, answers_of_healthy h, isEmpty_feed h, ?size⟩,
    fun chunks data later violation h => answers_of_violation h later,
    fun chunks frames hsound h => answers_of_isSound hsound h⟩
  case bytes => rw [Frame.toList_encodeAll, allBytes_parse]
  case size => rw [feed_eq, size_ofTail]

/-- A frame without a payload. -/
def bareFrame : Frame := ⟨⟨1, 0, 7, 0⟩, .empty⟩

/-- The bytes of a frame without a payload, cut behind the second one, and then the start of a
header of a kind that is not spoken. -/
def cutChunks : List (List UInt8) := [[0, 1], [], [0, 0, 0, 0, 7, 0, 0, 0, 0, 0, 9]]

theorem reassembly_is_a_parse_cut :
    ((parse 5 cutChunks.flatten).2.violation? = none ∧
      (∃ given : List (List Frame), answers { limit := 5 } cutChunks = given.map .ok ∧
        given.flatten = [bareFrame]) ∧
      (feed { limit := 5 } cutChunks).size = 2) ∧
    ((parse 5 (cutChunks.flatten ++ bareFrame.bytes)).2.violation? = some (.unknownKind 9) ∧
      answers { limit := 5 } (cutChunks ++ bareFrame.bytes :: [[], [3]]) =
        answers { limit := 5 } cutChunks ++ List.replicate 3 (.error (.unknownKind 9))) ∧
    ((∀ f ∈ [bareFrame], f.IsSound 5) ∧
      [[0, 1], [0, 0, 0, 0, 7, 0, 0, 0, 0]].flatten =
        (Frame.encodeAll [bareFrame]).data.toList ∧
      (feed { limit := 5 } [[0, 1], [0, 0, 0, 0, 7, 0, 0, 0, 0]]).isEmpty = true) := by
  obtain ⟨hhealthy, hbroken, hwhole⟩ := reassembly_is_a_parse 5
  have hcut : (parse 5 cutChunks.flatten).2.violation? = none := by decide +kernel
  have hkind : (parse 5 (cutChunks.flatten ++ bareFrame.bytes)).2.violation? =
      some (.unknownKind 9) := by decide +kernel
  have hsound : ∀ f ∈ [bareFrame], f.IsSound 5 := by
    intro f hf
    obtain rfl := List.mem_singleton.mp hf
    exact ⟨by decide, by decide⟩
  have hbytes : [[0, 1], [0, 0, 0, 0, 7, 0, 0, 0, 0]].flatten =
      (Frame.encodeAll [bareFrame]).data.toList := by decide +kernel
  obtain ⟨-, ⟨given, hgiven, hframes⟩, -, hsize⟩ := hhealthy cutChunks hcut
  refine ⟨⟨hcut, ⟨given, hgiven, ?frames⟩, ?size⟩, ⟨hkind, hbroken cutChunks _ _ _ hkind⟩,
    hsound, hbytes, (hwhole _ [bareFrame] hsound hbytes).2⟩
  case frames =>
    rw [hframes]
    decide +kernel
  case size =>
    rw [hsize]
    decide +kernel

end FrameBuffer

end GraphDriver
