import GraphDriver.Wire.Inbound
import GraphDriver.Proofs.Schema.Messages
import GraphDriver.Proofs.Wire.Reassembly

/-!
# Delivery

What a reader of server messages yields over any reads. `arriving` tells it from the bytes alone:
the messages of their frames, then how the bytes end. Reads leave their mark in one case only. The
read that completes a header which breaks the protocol yields the violation in place of the frames
that it has completed before; the same bytes in smaller reads deliver them.

* §1 frames and what comes behind them
* §2 reads
* §3 bytes without a violation
* §4 the read that breaks the protocol
* §5 an answer that is lost
-/

namespace GraphDriver.Wire

/-! ## §1  Frames and what comes behind them -/

/-- What frames yield when something comes behind them: the first error is the last item. -/
def delivered (frames : List Frame) (ending : List (Except Error ServerMessage)) :
    List (Except Error ServerMessage) :=
  match itemsOfFrames frames with
  | (items, true) => items ++ ending
  | (items, false) => items

theorem delivered_cons (f : Frame) (rest : List Frame)
    (ending : List (Except Error ServerMessage)) :
    delivered (f :: rest) ending =
      match messageOfFrame f with
      | .error error => [.error error]
      | .ok message => .ok message :: delivered rest ending := by
  rw [delivered, itemsOfFrames]
  cases messageOfFrame f with
  | error error => rfl
  | ok message =>
      dsimp only
      rw [delivered]
      rcases itemsOfFrames rest with ⟨items, _ | _⟩ <;> rfl

theorem delivered_append (frames later : List Frame)
    (ending : List (Except Error ServerMessage)) :
    delivered (frames ++ later) ending = delivered frames (delivered later ending) := by
  induction frames with
  | nil => rfl
  | cons f rest ih =>
      rw [List.cons_append, delivered_cons, delivered_cons, ih]

/-- What comes behind frames shows unless one of them is an error. -/
theorem delivered_inj {frames : List Frame} {e₁ e₂ : List (Except Error ServerMessage)} :
    delivered frames e₁ = delivered frames e₂ ↔ ((itemsOfFrames frames).2 = true → e₁ = e₂) := by
  unfold delivered
  rcases itemsOfFrames frames with ⟨items, _ | _⟩ <;> simp

/-- No frame yields the violation of a header. -/
theorem messageOfFrame_ne {header : Header} {limit : UInt32} {violation : Violation}
    (h : header.violation? limit = some violation) (f : Frame) :
    messageOfFrame f ≠ .error (.protocol violation) := by
  have hkinds : ∀ flags, violation ≠ .notFromServer flags := by
    rintro flags rfl
    unfold Header.violation? at h
    split at h
    · cases h
    split at h
    · cases h
    split at h
    · cases h
    · cases h
  unfold messageOfFrame
  split
  · intro heq
    cases heq
    exact hkinds _ rfl
  split
  · split
    · rename_i error _
      obtain ⟨code, message⟩ := error
      cases code <;> simp [Error.ofServerError]
    · simp
  · split <;> simp

theorem delivered_ne {header : Header} {limit : UInt32} {violation : Violation}
    (h : header.violation? limit = some violation) (f : Frame) (rest : List Frame) :
    delivered (f :: rest) [.error (.protocol violation)] ≠ [.error (.protocol violation)] := by
  rw [delivered_cons]
  intro heq
  cases hmessage : messageOfFrame f with
  | error error =>
      rw [hmessage] at heq
      cases heq
      exact messageOfFrame_ne h f hmessage
  | ok message =>
      rw [hmessage] at heq
      cases heq

/-- In front of a violation further frames show, unless they are not reached. -/
theorem delivered_eq_iff {header : Header} {limit : UInt32} {violation : Violation}
    (h : header.violation? limit = some violation) (frames more : List Frame) :
    delivered frames [.error (.protocol violation)] =
        delivered (frames ++ more) [.error (.protocol violation)] ↔
      ((itemsOfFrames frames).2 = true → more = []) := by
  rw [delivered_append, delivered_inj]
  refine forall_congr' fun _ => ?_
  cases more with
  | nil => exact ⟨fun _ => rfl, fun _ => rfl⟩
  | cons f rest => exact ⟨fun heq => absurd heq.symm (delivered_ne h f rest), nofun⟩

/-! ## §2  Reads -/

/-- The reads that it takes to get some chunks. -/
def cut (chunks : List (List UInt8)) : List (List UInt8) :=
  chunks.flatMap fun bytes => pieces readSize (bytes.length + 1) bytes

theorem readsOf_ok (chunks : List (List UInt8)) :
    readsOf (chunks.map .ok) = (cut chunks).map .ok := by
  rw [readsOf, cut, List.flatMap_map, List.map_flatMap]

theorem cut_of_short {chunks : List (List UInt8)} (h : ∀ c ∈ chunks, c.length ≤ readSize) :
    cut chunks = chunks := by
  induction chunks with
  | nil => rfl
  | cons bytes rest ih =>
      obtain ⟨hfirst, hrest⟩ := List.forall_mem_cons.mp h
      rw [cut, List.flatMap_cons, ← cut, ih hrest, pieces, if_pos hfirst, List.singleton_append]

theorem flatten_pieces {size : Nat} (hsize : 0 < size) {count : Nat} {bytes : List UInt8}
    (h : bytes.length < count) : (pieces size count bytes).flatten = bytes := by
  induction count generalizing bytes with
  | zero => exact absurd h (Nat.not_lt_zero _)
  | succ count ih =>
      rw [pieces]
      split
      · simp
      · rename_i hlong
        rw [List.flatten_cons, ih (by rw [List.length_drop]; omega), List.take_append_drop]

theorem ne_nil_of_mem_pieces {size : Nat} (hsize : 0 < size) {count : Nat}
    {bytes piece : List UInt8} (h : bytes ≠ []) (hpiece : piece ∈ pieces size count bytes) :
    piece ≠ [] := by
  induction count generalizing bytes with
  | zero => cases hpiece
  | succ count ih =>
      rw [pieces] at hpiece
      split at hpiece
      · rwa [List.mem_singleton.mp hpiece]
      · rename_i hlong
        rcases List.mem_cons.mp hpiece with rfl | hlater
        · refine List.ne_nil_of_length_pos ?_
          rw [List.length_take]
          omega
        · refine ih (List.ne_nil_of_length_pos ?_) hlater
          rw [List.length_drop]
          omega

theorem flatten_cut (chunks : List (List UInt8)) : (cut chunks).flatten = chunks.flatten := by
  induction chunks with
  | nil => rfl
  | cons bytes rest ih =>
      rw [cut, List.flatMap_cons, List.flatten_append, ← cut, ih, List.flatten_cons,
        flatten_pieces (by decide) (Nat.lt_succ_self _)]

theorem ne_nil_of_mem_cut {chunks : List (List UInt8)} (h : ∀ c ∈ chunks, c ≠ []) :
    ∀ data ∈ cut chunks, data ≠ [] := by
  intro data hdata
  obtain ⟨bytes, hbytes, hpiece⟩ := List.mem_flatMap.mp hdata
  exact ne_nil_of_mem_pieces (by decide) (h bytes hbytes) hpiece

/-- The frames of some bytes and what is left, as a reader sees them. -/
def parsed (bytes : List UInt8) : List Frame × Tail := Frame.parse Header.defaultLimit bytes

variable {before reads : List (List UInt8)} {data : List UInt8}
  {rest : List (Except Error (List UInt8))} {violation : Violation}

theorem frames_append (bytes more : List UInt8) :
    (parsed (bytes ++ more)).1 =
      (parsed bytes).1 ++ (parsed ((parsed bytes).2.bytes ++ more)).1 :=
  congrArg (·.1) (Frame.parse_append Header.defaultLimit bytes more)

theorem tail_append (bytes more : List UInt8) :
    (parsed (bytes ++ more)).2 = (parsed ((parsed bytes).2.bytes ++ more)).2 :=
  congrArg (·.2) (Frame.parse_append Header.defaultLimit bytes more)

/-- One read of bytes, after others. -/
theorem readItems_read (hdata : data ≠ []) (before : List (List UInt8))
    (rest : List (Except Error (List UInt8))) :
    readItems (FrameBuffer.feed {} before) (.ok data :: rest) =
      match (parsed (before.flatten ++ data)).2.violation? with
      | some violation => [.error (.protocol violation)]
      | none => delivered (parsed ((parsed before.flatten).2.bytes ++ data)).1
          (readItems (FrameBuffer.feed {} (before ++ [data])) rest) := by
  have hanswer : ((FrameBuffer.feed {} before).push data).1 =
      FrameBuffer.answer (parsed ((parsed before.flatten).2.bytes ++ data)) :=
    FrameBuffer.push_feed Header.defaultLimit before data
  rw [readItems, FrameBuffer.feed_snoc, tail_append]
  swap
  · exact hdata
  generalize (FrameBuffer.feed {} before).push data = pushed at hanswer
  obtain ⟨answered, b⟩ := pushed
  obtain rfl := hanswer
  rw [FrameBuffer.answer]
  cases (parsed ((parsed before.flatten).2.bytes ++ data)).2.violation? with
  | some violation => rfl
  | none => rfl

/-! ## §3  Bytes without a violation -/

/-- Reads of which no header breaks the protocol yield the messages of their frames and then what
later reads yield. -/
theorem readItems_of_healthy (hreads : ∀ data ∈ before, data ≠ [])
    (h : (parsed before.flatten).2.violation? = none) (rest : List (Except Error (List UInt8))) :
    readItems {} (before.map .ok ++ rest) =
      delivered (parsed before.flatten).1 (readItems (FrameBuffer.feed {} before) rest) := by
  induction before using List.reverseRecOn generalizing rest with
  | nil =>
      rw [List.flatten_nil, parsed, Frame.parse_of_short (by decide)]
      rfl
  | append_singleton before data ih =>
      obtain ⟨hbefore, hdata⟩ := List.forall_mem_append.mp hreads
      rw [List.flatten_append, List.flatten_singleton] at h ⊢
      rw [List.map_append, List.map_singleton, List.append_assoc, List.singleton_append,
        ih hbefore (Frame.healthy_of_append h), readItems_read (hdata data List.mem_cons_self), h,
        frames_append before.flatten data, delivered_append]

/-- How bytes end for a reader: at the end of a frame, with a violation, or cut short. -/
def ending (tail : Tail) : List (Except Error ServerMessage) :=
  match tail.violation? with
  | some violation => [.error (.protocol violation)]
  | none => if tail.bytes = [] then [] else [.error (.protocol .truncated)]

/-- What bytes yield by themselves. -/
def arriving (bytes : List UInt8) : List (Except Error ServerMessage) :=
  delivered (parsed bytes).1 (ending (parsed bytes).2)

theorem readItems_eq_arriving (hreads : ∀ data ∈ reads, data ≠ [])
    (h : (parsed reads.flatten).2.violation? = none) :
    readItems {} (reads.map .ok) = arriving reads.flatten := by
  have hitems := readItems_of_healthy hreads h []
  have hempty : (FrameBuffer.feed {} reads).isEmpty = true ↔
      (parsed reads.flatten).2.bytes = [] := by
    have hfeed := FrameBuffer.feed_eq Header.defaultLimit reads
    rw [hfeed]
    exact FrameBuffer.isEmpty_ofTail h
  rw [List.append_nil] at hitems
  rw [hitems, arriving, ending, h, readItems]
  simp only [hempty]

/-! ## §4  The read that breaks the protocol -/

/-- Bytes that break the protocol do so in one read. -/
theorem exists_read_of_violation (h : (parsed reads.flatten).2.violation? = some violation) :
    ∃ (before : List (List UInt8)) (data : List UInt8) (later : List (List UInt8)),
      reads = before ++ data :: later ∧ (parsed before.flatten).2.violation? = none ∧
        (parsed (before.flatten ++ data)).2.violation? = some violation := by
  induction reads using List.reverseRecOn with
  | nil =>
      rw [List.flatten_nil, parsed, Frame.parse_of_short (by decide)] at h
      cases h
  | append_singleton before data ih =>
      rw [List.flatten_append, List.flatten_singleton] at h
      cases hbefore : (parsed before.flatten).2.violation? with
      | none => exact ⟨before, data, [], rfl, hbefore, h⟩
      | some earlier =>
          have hstays := (Frame.parse_append_of_violation hbefore data).2
          obtain rfl : earlier = violation := Option.some.inj (hstays.symm.trans h)
          obtain ⟨front, first, later, rfl, hfront, hfirst⟩ := ih hbefore
          exact ⟨front, first, later ++ [data], by simp, hfront, hfirst⟩

/-- The read that completes a header which breaks the protocol yields the violation alone. -/
theorem readItems_of_violation {later : List (List UInt8)}
    (hreads : ∀ read ∈ before ++ data :: later, read ≠ [])
    (hbefore : (parsed before.flatten).2.violation? = none)
    (h : (parsed (before.flatten ++ data)).2.violation? = some violation) :
    readItems {} ((before ++ data :: later).map .ok) =
      delivered (parsed before.flatten).1 [.error (.protocol violation)] := by
  obtain ⟨hfront, hrest⟩ := List.forall_mem_append.mp hreads
  rw [List.map_append, List.map_cons, readItems_of_healthy hfront hbefore,
    readItems_read (hrest data List.mem_cons_self), h]

theorem readServerMessages_of_violation (before : List (List UInt8)) (data : List UInt8)
    (later : List (List UInt8))
    (hreads : ∀ read ∈ before ++ data :: later, read ≠ [] ∧ read.length ≤ readSize)
    (hbefore : (parsed before.flatten).2.violation? = none)
    (h : (parsed (before.flatten ++ data)).2.violation? = some violation) :
    readServerMessages ((before ++ data :: later).map .ok) =
      delivered (parsed before.flatten).1 [.error (.protocol violation)] := by
  rw [readServerMessages, readsOf_ok, cut_of_short fun read hread => (hreads read hread).2]
  exact readItems_of_violation (fun read hread => (hreads read hread).1) hbefore h

/-- Whether one of some reads is reached that completes frames and then a header which breaks the
protocol. -/
def Loses (reads : List (List UInt8)) : Prop :=
  ∃ (before : List (List UInt8)) (data : List UInt8) (later : List (List UInt8))
    (violation : Violation), reads = before ++ data :: later ∧
      (itemsOfFrames (parsed before.flatten).1).2 = true ∧
      (parsed before.flatten).2.violation? = none ∧
      (parsed (before.flatten ++ data)).2.violation? = some violation ∧
      (parsed (before.flatten ++ data)).1 ≠ (parsed before.flatten).1

/-- A read that completes a header which breaks the protocol leaves a mark if it has completed
frames that are reached. -/
theorem readItems_eq_arriving_iff {later : List (List UInt8)}
    (hreads : ∀ read ∈ before ++ data :: later, read ≠ [])
    (hbefore : (parsed before.flatten).2.violation? = none)
    (h : (parsed (before.flatten ++ data)).2.violation? = some violation) :
    readItems {} ((before ++ data :: later).map .ok) =
        arriving (before ++ data :: later).flatten ↔
      ((itemsOfFrames (parsed before.flatten).1).2 = true →
        (parsed (before.flatten ++ data)).1 = (parsed before.flatten).1) := by
  obtain ⟨header, hheader⟩ := Frame.exists_header_of_violation h
  obtain ⟨hframes, hstays⟩ := Frame.parse_append_of_violation h later.flatten
  have hbytes : (before ++ data :: later).flatten = before.flatten ++ data ++ later.flatten := by
    simp
  have harriving : arriving (before ++ data :: later).flatten =
      delivered (parsed (before.flatten ++ data)).1 [.error (.protocol violation)] := by
    rw [hbytes, arriving, ending, parsed, hstays, hframes, parsed]
  rw [readItems_of_violation hreads hbefore h, harriving, frames_append,
    delivered_eq_iff hheader]
  exact forall_congr' fun _ => List.append_right_eq_self.symm

/-- **Reads show only where they lose frames.** Over any reads a reader yields what the bytes yield
by themselves, unless the read that completes a header which breaks the protocol has completed
frames before it. Then these frames are lost, and the violation stands in their place. -/
theorem reads_show_iff_frames_are_lost {chunks : List (List UInt8)}
    (hchunks : ∀ c ∈ chunks, c ≠ []) :
    (readServerMessages (chunks.map .ok) = arriving chunks.flatten ↔ ¬ Loses (cut chunks)) ∧
    ∀ (before : List (List UInt8)) (data : List UInt8) (later : List (List UInt8))
      (violation : Violation), cut chunks = before ++ data :: later →
      (parsed before.flatten).2.violation? = none →
      (parsed (before.flatten ++ data)).2.violation? = some violation →
      readServerMessages (chunks.map .ok) =
        delivered (parsed before.flatten).1 [.error (.protocol violation)] := by
  have hreads := ne_nil_of_mem_cut hchunks
  have hflatten := flatten_cut chunks
  rw [readServerMessages, readsOf_ok, ← hflatten]
  generalize cut chunks = reads at hreads
  refine ⟨⟨?loses, ?keeps⟩, ?stops⟩
  case loses =>
    rintro heq ⟨before, data, later, violation, rfl, hhealthy, hbefore, hviolation, hframes⟩
    exact hframes ((readItems_eq_arriving_iff hreads hbefore hviolation).mp heq hhealthy)
  case keeps =>
    intro hkeeps
    cases hviolation : (parsed reads.flatten).2.violation? with
    | none => exact readItems_eq_arriving hreads hviolation
    | some violation =>
        obtain ⟨before, data, later, rfl, hbefore, hbreak⟩ := exists_read_of_violation hviolation
        refine (readItems_eq_arriving_iff hreads hbefore hbreak).mpr fun hhealthy => ?_
        refine Decidable.byContradiction fun hframes => hkeeps ?_
        exact ⟨before, data, later, violation, rfl, hhealthy, hbefore, hbreak, hframes⟩
  case stops =>
    rintro before data later violation rfl
    exact readItems_of_violation hreads

/-! ## §5  An answer that is lost -/

/-- The answer to the first request of a transaction. -/
def openedMessage : ServerMessage := .response ⟨⟨1⟩, .ok .opened⟩

def openedFrame : Frame := ⟨⟨2, 1, 0, 33⟩, encode openedMessage⟩

/-- A header of a kind that is not spoken. -/
def strayHeader : Header := ⟨0, 1, 1, 0⟩

theorem parsed_openedFrame (rest : List UInt8) :
    parsed (openedFrame.bytes ++ rest) = (openedFrame :: (parsed rest).1, (parsed rest).2) :=
  Frame.parse_of_isSound ⟨by decide, by decide +kernel⟩ rest

theorem parsed_strayHeader :
    parsed strayHeader.encode = ([], .broken (.unknownKind 0) strayHeader.encode) := by
  have hkind : strayHeader.violation? Header.defaultLimit = some (.unknownKind 0) := by decide
  exact Frame.parse_of_violation hkind []

theorem messageOfFrame_openedFrame : messageOfFrame openedFrame = .ok openedMessage := by
  have hmem : ("ServerMessage", schema ServerMessage) ∈ Catalogue.entries := by
    simp [Catalogue.entries]
  have hread := (decode?_of_catalogue hmem (by decide +kernel : Fits openedMessage) .empty).1
  have hresponse : openedFrame.header.isResponse = true := by decide
  have herror : openedFrame.header.isError = false := by decide
  rw [ByteArray.append_empty] at hread
  rw [messageOfFrame, hresponse, herror]
  simp [openedFrame, hread]

theorem reads_show_iff_frames_are_lost_opened :
    (∀ c ∈ [openedFrame.bytes ++ strayHeader.encode], c ≠ []) ∧
      Loses (cut [openedFrame.bytes ++ strayHeader.encode]) ∧
      readServerMessages ([openedFrame.bytes ++ strayHeader.encode].map .ok) ≠
        arriving [openedFrame.bytes ++ strayHeader.encode].flatten := by
  have hchunks : ∀ c ∈ [openedFrame.bytes ++ strayHeader.encode], c ≠ [] := by
    simp [strayHeader, Header.encode]
  have hcut : cut [openedFrame.bytes ++ strayHeader.encode] =
      [openedFrame.bytes ++ strayHeader.encode] := cut_of_short (by decide +kernel)
  have hnothing : parsed [] = ([], .header []) := Frame.parse_of_short (by decide)
  have hloses : Loses (cut [openedFrame.bytes ++ strayHeader.encode]) := by
    rw [hcut]
    refine ⟨[], _, [], .unknownKind 0, rfl, ?_, ?_, ?_, ?_⟩
    · rw [List.flatten_nil, hnothing]
      rfl
    · rw [List.flatten_nil, hnothing]
      rfl
    · rw [List.flatten_nil, List.nil_append, parsed_openedFrame, parsed_strayHeader]
      rfl
    · rw [List.flatten_nil, List.nil_append, parsed_openedFrame, hnothing]
      exact List.cons_ne_nil _ _
  exact ⟨hchunks, hloses, fun heq =>
    (reads_show_iff_frames_are_lost hchunks).1.mp heq hloses⟩

/-- **Two reads deliver an answer that one read loses.** -/
theorem one_read_loses_what_two_deliver :
    [openedFrame.bytes, strayHeader.encode].flatten =
        [openedFrame.bytes ++ strayHeader.encode].flatten ∧
      readServerMessages ([openedFrame.bytes, strayHeader.encode].map .ok) =
        [.ok openedMessage, .error (.protocol (.unknownKind 0))] ∧
      readServerMessages ([openedFrame.bytes ++ strayHeader.encode].map .ok) =
        [.error (.protocol (.unknownKind 0))] := by
  have hnothing : parsed [] = ([], .header []) := Frame.parse_of_short (by decide)
  have hopened : parsed [openedFrame.bytes].flatten = ([openedFrame], .header []) := by
    rw [List.flatten_singleton, ← List.append_nil openedFrame.bytes, parsed_openedFrame, hnothing]
  have hboth : (parsed (openedFrame.bytes ++ strayHeader.encode)).2.violation? =
      some (.unknownKind 0) := by
    rw [parsed_openedFrame, parsed_strayHeader]
    rfl
  have hhealthy : (parsed [openedFrame.bytes].flatten).2.violation? = none := by
    rw [hopened]
    rfl
  have htwo := readServerMessages_of_violation [openedFrame.bytes] strayHeader.encode []
    (by decide +kernel) hhealthy (by rwa [List.flatten_singleton])
  have hone := readServerMessages_of_violation [] (openedFrame.bytes ++ strayHeader.encode) []
    (by decide +kernel) (by rw [List.flatten_nil, hnothing]; rfl) hboth
  refine ⟨by simp, htwo.trans ?_, hone.trans ?_⟩
  · rw [hopened, delivered_cons, messageOfFrame_openedFrame]
    rfl
  · rw [List.flatten_nil, hnothing]
    rfl

end GraphDriver.Wire
