import GraphDriver.Wire.Outbound
import GraphDriver.Proofs.Schema.Messages
import GraphDriver.Proofs.Stream.Registry
import GraphDriver.Proofs.Wire.Reassembly

/-!
# Writing a queue

What a writer sends is what was queued. However the socket cuts the writes, the bytes that it has
taken are always a front part of the frames of the batches in order, and a run that nothing disturbs
takes all of them.

* §1 slices
* §2 one group
* §3 the batches of a group
* §4 a whole queue
* §5 what arrives
-/

namespace GraphDriver.Wire

open GraphDriver.Frame (allBytes allBytes_cons allBytes_append)

/-! ## §1  Slices -/

/-- The bytes of slices, in order. -/
def joined (slices : List ByteArray) : List UInt8 := slices.flatMap (·.data.toList)

theorem joined_cons (slice : ByteArray) (rest : List ByteArray) :
    joined (slice :: rest) = slice.data.toList ++ joined rest := rfl

theorem length_joined (slices : List ByteArray) : (joined slices).length = offered slices := by
  induction slices with
  | nil => rfl
  | cons slice rest ih =>
      rw [joined_cons, List.length_append, ih, offered, Array.length_toList, ByteArray.size_data]

theorem joined_partsOf (frames : List Frame) : joined (partsOf frames) = allBytes frames := by
  induction frames with
  | nil => rfl
  | cons f rest ih =>
      rw [partsOf, List.flatMap_cons, ← partsOf, joined, List.flatMap_append, ← joined, ← joined,
        ih, allBytes_cons]
      simp [joined, Frame.bytes]

/-- What is left after some bytes is all but these bytes. -/
theorem joined_slicesAfter (skip offset : Nat) (parts : List ByteArray) :
    joined (slicesAfter skip offset parts) = (joined parts).drop (skip - offset) := by
  induction parts generalizing offset with
  | nil => simp [slicesAfter, joined]
  | cons part rest ih =>
      have hlength : part.data.toList.length = part.size := by
        rw [Array.length_toList, ByteArray.size_data]
      have hstop : skip - (offset + part.size) = skip - offset - part.size := by omega
      rw [slicesAfter, joined_cons, List.drop_append, hlength]
      split
      · rename_i hpart
        have hextract : (part.extract (skip - offset) part.size).data.toList =
            part.data.toList.drop (skip - offset) := by
          simp [List.take_of_length_le]
        rw [joined_cons, ih, hstop, hextract]
      · rename_i hpart
        have hskipped : part.data.toList.drop (skip - offset) = [] := by
          refine List.drop_eq_nil_of_le ?_
          rw [hlength]
          omega
        rw [ih, hstop, hskipped, List.nil_append]

/-- A write takes bytes from the front of what it is offered. -/
theorem toList_gather (taken : Nat) (slices : List ByteArray) :
    (gather taken slices).data.toList = (joined slices).take taken := by
  induction slices generalizing taken with
  | nil => simp [gather, joined]
  | cons slice rest ih =>
      have hlength : slice.data.toList.length = slice.size := by
        rw [Array.length_toList, ByteArray.size_data]
      rw [gather, joined_cons, List.take_append, hlength]
      split
      · rename_i hwithin
        rw [Nat.sub_eq_zero_of_le hwithin, List.take_zero, List.append_nil]
        simp
      · rename_i hbeyond
        have hslice : slice.data.toList.take taken = slice.data.toList :=
          List.take_of_length_le (by rw [hlength]; omega)
        rw [ByteArray.toList_data_append, ih, hslice]

/-! ## §2  One group -/

variable {socket : Socket} {messages : List ClientMessage} {t : Transcript} {e : Error}

/-- No write and no flush has failed so far, and every write has taken something. -/
structure Calm (socket : Socket) (t : Transcript) : Prop where
  answered : t.attempts = t.writes.length
  taken : ∀ w ∈ t.writes, w.2 ≠ 0
  flushed : ∀ i < t.flushes.length, socket.flush i = none

/-- Why a writer of some messages has failed. -/
inductive Fault (socket : Socket) (messages : List ClientMessage) (t : Transcript) : Error → Prop
  | refused {m : ClientMessage} {e : Error} (hmem : m ∈ messages) (h : Frame.ofBatch m = .error e) :
      Fault socket messages t e
  | write {offered : Nat} {e : Error} (hlast : t.attempts = t.writes.length + 1)
      (h : socket.write t.writes.length offered = .error e) : Fault socket messages t e
  | stalled {offered : Nat} (h : (offered, 0) ∈ t.writes) :
      Fault socket messages t (.io "write_vectored returned 0")
  | flush {number : Nat} {e : Error} (hlast : number < t.flushes.length)
      (h : socket.flush number = some e) : Fault socket messages t e
  | shutdown {e : Error} (h : socket.shutdownError = some e) : Fault socket messages t e

/-- What has been written since, and where it was flushed, with no shutdown in between. -/
structure Wrote (t : Transcript) (sent : List UInt8) (flushed : List Nat) (t' : Transcript) :
    Prop where
  bytes : t'.bytes.data.toList = t.bytes.data.toList ++ sent
  flushes : t'.flushes = t.flushes ++ flushed
  shutdowns : t'.shutdowns = t.shutdowns

theorem Wrote.refl (t : Transcript) : Wrote t [] [] t :=
  ⟨(List.append_nil _).symm, (List.append_nil _).symm, rfl⟩

theorem Wrote.trans {t₁ t₂ t₃ : Transcript} {sent more : List UInt8} {flushed later : List Nat}
    (h₁ : Wrote t₁ sent flushed t₂) (h₂ : Wrote t₂ more later t₃) :
    Wrote t₁ (sent ++ more) (flushed ++ later) t₃ where
  bytes := by rw [h₂.bytes, h₁.bytes, List.append_assoc]
  flushes := by rw [h₂.flushes, h₁.flushes, List.append_assoc]
  shutdowns := h₂.shutdowns.trans h₁.shutdowns

theorem Wrote.size {sent : List UInt8} {flushed : List Nat} {t' : Transcript}
    (h : Wrote t sent flushed t') : t'.bytes.size = t.bytes.size + sent.length := by
  have hlength := congrArg List.length h.bytes
  simpa [ByteArray.size_data] using hlength

/-- What becomes of bytes that are due with some flushes: all are written and flushed, or a front of
them is written and then there is a fault. -/
inductive Served (socket : Socket) (messages : List ClientMessage) (t : Transcript)
    (due : List UInt8) (flushes : List Nat) : Except Error Unit × Transcript → Prop
  | whole {t' : Transcript} (hwrote : Wrote t due flushes t') (hcalm : Calm socket t') :
      Served socket messages t due flushes (.ok (), t')
  | cut {sent : List UInt8} {flushed : List Nat} {t' : Transcript} {e : Error}
      (hwrote : Wrote t sent flushed t') (hfront : sent <+: due)
      (hfault : Fault socket messages t' e) : Served socket messages t due flushes (.error e, t')

/-- What is written before counts as served. -/
theorem Served.after {t₁ t₂ : Transcript} {sent due : List UInt8} {flushes : List Nat}
    {result : Except Error Unit × Transcript} (hwrote : Wrote t₁ sent [] t₂)
    (h : Served socket messages t₂ due flushes result) :
    Served socket messages t₁ (sent ++ due) flushes result := by
  cases h with
  | whole hmore hcalm => exact .whole (hwrote.trans hmore) hcalm
  | cut hmore hfront hfault =>
      exact .cut (hwrote.trans hmore) ((List.prefix_append_right_inj sent).mpr hfront) hfault

/-- The transcript after one write of bytes, out of some number that were offered. -/
def afterWrite (t : Transcript) (offered taken : Nat) (gathered : ByteArray) : Transcript :=
  { t with
    attempts := t.attempts + 1
    writes := t.writes ++ [(offered, taken)]
    bytes := t.bytes ++ gathered }

theorem Calm.afterWrite (h : Calm socket t) {taken : Nat} (htaken : taken ≠ 0) (offered : Nat)
    (gathered : ByteArray) : Calm socket (afterWrite t offered taken gathered) where
  answered := by simp [Wire.afterWrite, h.answered]
  taken := by
    intro w hw
    rcases List.mem_append.mp hw with hw | hw
    · exact h.taken w hw
    · rwa [List.mem_singleton.mp hw]
  flushed := h.flushed

/-- Writing serves what is left of some parts. -/
theorem writeFrom_spec (parts : List ByteArray) (messages : List ClientMessage) {written : Nat}
    {t : Transcript} (hcalm : Calm socket t) (hwritten : written ≤ (joined parts).length) :
    Served socket messages t ((joined parts).drop written) []
      (writeFrom socket parts (joined parts).length written t) := by
  -- by what is left: a write that is not the last one leaves less
  induction hleft : (joined parts).length - written using Nat.strongRecOn
    generalizing written t with
  | ind left ih =>
      rw [writeFrom]
      split
      · rename_i hmore
        have hslices : joined (slicesAfter written 0 parts) = (joined parts).drop written :=
          joined_slicesAfter written 0 parts
        have hoffered : offered (slicesAfter written 0 parts) =
            (joined parts).length - written := by
          rw [← length_joined, hslices, List.length_drop]
        generalize slicesAfter written 0 parts = slices at hslices hoffered
        dsimp only
        split
        · -- the write fails and has no entry among the writes
          rename_i e herror
          rw [hcalm.answered] at herror
          have hwrote : Wrote t [] [] { t with attempts := t.attempts + 1 } := by
            exact ⟨(List.append_nil _).symm, (List.append_nil _).symm, rfl⟩
          exact .cut hwrote List.nil_prefix (.write (congrArg (· + 1) hcalm.answered) herror)
        · rename_i limit hlimit
          have hle : min limit (offered slices) ≤ (joined parts).length - written :=
            hoffered ▸ Nat.min_le_right _ _
          generalize min limit (offered slices) = taken at hle
          have hwrote : Wrote t (((joined parts).drop written).take taken) []
              (afterWrite t (offered slices) taken (gather taken slices)) := by
            refine ⟨?_, (List.append_nil _).symm, rfl⟩
            rw [afterWrite, ByteArray.toList_data_append, toList_gather, hslices]
          split
          · rename_i hnone
            subst hnone
            have hlast : (offered slices, 0) ∈ t.writes ++ [(offered slices, 0)] := by simp
            exact .cut hwrote List.nil_prefix (.stalled hlast)
          · rename_i hsome
            have hlater := ih ((joined parts).length - (written + taken)) (by omega)
              (hcalm.afterWrite hsome (offered slices) (gather taken slices)) (by omega) rfl
            have hserved := hlater.after hwrote
            -- what was taken and what is left after it are what was left before
            rwa [← List.drop_drop, List.take_append_drop] at hserved
      · rename_i hdone
        have hrest : (joined parts).drop written = [] := List.drop_eq_nil_of_le (by omega)
        rw [hrest]
        exact .whole (.refl t) hcalm

/-- The size of a group is that of its bytes. -/
theorem totalSize_eq (frames : List Frame) : totalSize frames = (allBytes frames).length := by
  induction frames with
  | nil => rfl
  | cons f rest ih =>
      rw [totalSize, ih, allBytes_cons, List.length_append]
      simp [Frame.size, Frame.bytes, Header.length_encode, ByteArray.size_data]

/-- One flush, after which nothing has failed. -/
theorem Calm.flush (h : Calm socket t) (hflush : socket.flush t.flushes.length = none) :
    Calm socket { t with flushes := t.flushes ++ [t.bytes.size] } where
  answered := h.answered
  taken := h.taken
  flushed := by
    intro i hi
    rw [List.length_append, List.length_singleton] at hi
    rcases Nat.lt_succ_iff_lt_or_eq.mp hi with hbefore | rfl
    · exact h.flushed i hbefore
    · exact hflush

/-- Writing a group serves its frames and then one flush. -/
theorem writeGroup_spec (frames : List Frame) (messages : List ClientMessage)
    (hcalm : Calm socket t) :
    Served socket messages t (allBytes frames) [t.bytes.size + (allBytes frames).length]
      (writeGroup socket frames t) := by
  have hserved := writeFrom_spec (partsOf frames) messages hcalm (Nat.zero_le _)
  rw [List.drop_zero, joined_partsOf] at hserved
  rw [writeGroup, totalSize_eq]
  generalize writeFrom socket (partsOf frames) (allBytes frames).length 0 t = result at hserved
  cases hserved with
  | cut hwrote hfront hfault => exact .cut hwrote hfront hfault
  | @whole t' hwrote hcalm' =>
      have hflushed : Wrote t (allBytes frames) [t.bytes.size + (allBytes frames).length]
          { t' with flushes := t'.flushes ++ [t'.bytes.size] } := by
        refine ⟨hwrote.bytes, ?_, hwrote.shutdowns⟩
        rw [hwrote.size, hwrote.flushes, List.append_nil]
      dsimp only
      split
      · rename_i e hflush
        exact .cut hflushed (List.prefix_refl _) (.flush (by simp) hflush)
      · rename_i hflush
        exact .whole hflushed (hcalm'.flush hflush)

/-! ## §3  The batches of a group -/

/-- The frames of batches up to the first one that no frame can carry. -/
def sendable : List ClientMessage → List Frame
  | [] => []
  | m :: rest =>
    match Frame.ofBatch m with
    | .ok f => f :: sendable rest
    | .error _ => []

/-- Each batch has its frame. -/
def Framed (messages : List ClientMessage) (frames : List Frame) : Prop :=
  List.Forall₂ (fun m f => Frame.ofBatch m = .ok f) messages frames

theorem sendable_append {frames : List Frame} (h : Framed messages frames)
    (later : List ClientMessage) : sendable (messages ++ later) = frames ++ sendable later := by
  induction h with
  | nil => rfl
  | cons hfirst _ ih => rw [List.cons_append, sendable, hfirst, List.cons_append, ih]

/-- Taking a group takes the frames of the next batches, or meets a batch without one. -/
theorem takeGroup_spec (count : Nat) (q : RequestQueue) :
    (∃ frames, takeGroup count q = (.ok frames, { q with batches := q.batches.drop count }) ∧
      Framed (q.batches.take count) frames) ∨
    ∃ e q', takeGroup count q = (.error e, q') ∧ q'.abandoned = q.abandoned ∧
      ∃ m ∈ q.batches, Frame.ofBatch m = .error e := by
  induction count generalizing q with
  | zero => exact .inl ⟨[], rfl, .nil⟩
  | succ count ih =>
      obtain ⟨batches, ended, abandoned, failure⟩ := q
      cases batches with
      | nil =>
          -- an empty queue gives an empty group, whether it has ended or not
          refine .inl ⟨[], ?_, .nil⟩
          cases ended <;> cases abandoned <;> rfl
      | cons m rest =>
          cases hframe : Frame.ofBatch m with
          | error e =>
              refine .inr ⟨e, ⟨rest, ended, abandoned, failure⟩, ?_, rfl, m, List.mem_cons_self,
                hframe⟩
              simp only [takeGroup, RequestQueue.pull, hframe]
          | ok f =>
              rcases ih ⟨rest, ended, abandoned, failure⟩ with
                ⟨frames, hgroup, hframes⟩ | ⟨e, q', hgroup, habandoned, other, hother, herror⟩
              · refine .inl ⟨f :: frames, ?_, .cons hframe hframes⟩
                simp only [takeGroup, RequestQueue.pull, hframe, hgroup, List.drop_succ_cons]
              · refine .inr ⟨e, q', ?_, habandoned, other, List.mem_cons_of_mem _ hother, herror⟩
                simp only [takeGroup, RequestQueue.pull, hframe, hgroup]

/-! ## §4  A whole queue -/

/-- How many bytes are written when each of some groups is flushed. -/
def totals : (start : Nat) → List (List Frame) → List Nat
  | _, [] => []
  | start, group :: rest =>
    (start + (allBytes group).length) :: totals (start + (allBytes group).length) rest

/-- What becomes of the batches of a queue that has ended. -/
inductive Ran (socket : Socket) (messages : List ClientMessage) (t : Transcript) :
    WriterState × RequestQueue × Transcript → Prop
  /-- All frames are written in groups, and the socket is shut down. -/
  | finished (groups : List (List Frame)) {q : RequestQueue} {t' : Transcript}
      (hgroups : ∀ group ∈ groups, group ≠ [] ∧ group.length ≤ groupSize)
      (hframed : Framed messages groups.flatten)
      (hwrote : Wrote t (allBytes groups.flatten) (totals t.bytes.size groups) t')
      (hcalm : Calm socket t') (hshutdown : socket.shutdownError = none) :
      Ran socket messages t
        (.finished, q, { t' with shutdowns := t'.shutdowns ++ [t'.bytes.size] })
  /-- A front of what can be sent is written, and there is a fault. -/
  | failed (sent : List UInt8) {e : Error} {q : RequestQueue} {t' : Transcript}
      (hbytes : t'.bytes.data.toList = t.bytes.data.toList ++ sent)
      (hfront : sent <+: allBytes (sendable messages)) (hfault : Fault socket messages t' e)
      (hheld : q.abandoned = false) : Ran socket messages t (.failed e, q, t')

theorem Fault.mono {more : List ClientMessage} (hmore : ∀ m ∈ messages, m ∈ more)
    (h : Fault socket messages t e) : Fault socket more t e := by
  cases h with
  | refused hmem hrefused => exact .refused (hmore _ hmem) hrefused
  | write hlast hfailed => exact .write hlast hfailed
  | stalled hlast => exact .stalled hlast
  | flush hlast hfailed => exact .flush hlast hfailed
  | shutdown hfailed => exact .shutdown hfailed

/-- A group in front of a run. -/
theorem Ran.after {frames : List Frame} {later : List ClientMessage} {t' : Transcript}
    {result : WriterState × RequestQueue × Transcript} (hsome : frames ≠ [])
    (hsmall : frames.length ≤ groupSize) (hframed : Framed messages frames)
    (hwrote : Wrote t (allBytes frames) [t.bytes.size + (allBytes frames).length] t')
    (h : Ran socket later t' result) : Ran socket (messages ++ later) t result := by
  have hsize := hwrote.size
  cases h with
  | finished groups hgroups hrest hmore hcalm hshutdown =>
      have hall : allBytes (frames :: groups).flatten =
          allBytes frames ++ allBytes groups.flatten := by
        rw [List.flatten_cons, allBytes_append]
      refine .finished (frames :: groups) ?_ ?_ ?_ hcalm hshutdown
      · intro group hgroup
        rcases List.mem_cons.mp hgroup with rfl | hgroup
        · exact ⟨hsome, hsmall⟩
        · exact hgroups group hgroup
      · exact List.rel_append hframed hrest
      · rw [hall, totals, ← hsize]
        rw [← hsize] at hwrote
        exact hwrote.trans hmore
  | failed sent hbytes hfront hfault hheld =>
      refine .failed (allBytes frames ++ sent) ?_ ?_
        (hfault.mono fun m hm => List.mem_append_right _ hm) hheld
      · rw [hbytes, hwrote.bytes, List.append_assoc]
      · rw [sendable_append hframed, allBytes_append]
        exact (List.prefix_append_right_inj _).mpr hfront

/-- A writer with a turn for each batch and one more ends a queue that has ended. -/
theorem writeGroups_spec (count : Nat) (q : RequestQueue) (hended : q.ended = true)
    (hheld : q.abandoned = false) (hcount : q.batches.length < count) (hcalm : Calm socket t) :
    Ran socket q.batches t (writeGroups socket count q t) := by
  induction count generalizing q t with
  | zero => exact absurd hcount (Nat.not_lt_zero _)
  | succ count ih =>
      have hclosed : q.isClosed = true := by simp [RequestQueue.isClosed, hended]
      cases hbatches : q.batches with
      | nil =>
          rw [writeGroups, hbatches, List.isEmpty_nil, if_pos rfl, if_pos hclosed]
          dsimp only
          split
          · rename_i e hshutdown
            exact .failed [] (List.append_nil _).symm List.nil_prefix
              (.shutdown hshutdown) hheld
          · rename_i hshutdown
            exact .finished [] (by simp) .nil (.refl t) hcalm hshutdown
      | cons first rest =>
          have hsome : ¬ q.batches.isEmpty = true := by simp [hbatches]
          rw [writeGroups, if_neg hsome, ← hbatches]
          have hsplit := List.take_append_drop groupSize q.batches
          rcases takeGroup_spec groupSize q with
            ⟨frames, hgroup, hframed⟩ | ⟨e, q', hgroup, habandoned, m, hm, herror⟩
          · have hlength : frames.length = min groupSize q.batches.length := by
              rw [← hframed.length_eq, List.length_take]
            have hpositive : 0 < q.batches.length := by simp [hbatches]
            have hserved := writeGroup_spec frames q.batches hcalm
            rw [hgroup]
            dsimp only
            generalize writeGroup socket frames t = result at hserved
            cases hserved with
            | cut hwrote hfront hfault =>
                refine .failed _ hwrote.bytes ?_ hfault hheld
                rw [← hsplit, sendable_append hframed, allBytes_append]
                exact hfront.trans (List.prefix_append _ _)
            | whole hwrote hcalm' =>
                have hlater := ih { q with batches := q.batches.drop groupSize } hended hheld
                  (by simp only [List.length_drop, groupSize]; omega) hcalm'
                have hsome : frames ≠ [] := by
                  refine List.ne_nil_of_length_pos ?_
                  simp only [hlength, groupSize]
                  omega
                have hran := Ran.after hsome (hlength ▸ Nat.min_le_left _ _) hframed hwrote hlater
                rwa [hsplit] at hran
          · rw [hgroup]
            exact .failed [] (List.append_nil _).symm List.nil_prefix
              (.refused hm herror) (habandoned.trans hheld)

/-- Some batches in a queue that has ended. -/
def queued (messages : List ClientMessage) : RequestQueue :=
  (messages.foldl (fun (q : RequestQueue) m => (q.put m).2) {}).close

theorem queued_eq (messages : List ClientMessage) :
    queued messages = { batches := messages, ended := true } := by
  have hputs : messages.foldl (fun (q : RequestQueue) m => (q.put m).2) {} =
      { batches := messages } := by
    induction messages using List.reverseRecOn with
    | nil => rfl
    | append_singleton earlier m ih =>
        rw [List.foldl_append, ih, List.foldl_cons, List.foldl_nil,
          RequestQueue.put_of_open rfl rfl]
  rw [queued, hputs]
  rfl

/-- Nothing disturbs a writer: no write takes nothing, nothing fails, and each batch has a frame. -/
structure Unharmed (socket : Socket) (messages : List ClientMessage) (t : Transcript) : Prop
    extends Calm socket t where
  shutdown : socket.shutdownError = none
  encodable : ∀ m ∈ messages, ∃ f, Frame.ofBatch m = .ok f

theorem Fault.not_unharmed (h : Fault socket messages t e) : ¬ Unharmed socket messages t := by
  intro hunharmed
  cases h with
  | refused hmem hrefused =>
      obtain ⟨f, hframe⟩ := hunharmed.encodable _ hmem
      rw [hrefused] at hframe
      cases hframe
  | write hlast _ => exact absurd hunharmed.answered (by omega)
  | stalled hlast => exact hunharmed.taken _ hlast rfl
  | flush hlast hfailed =>
      rw [hunharmed.flushed _ hlast] at hfailed
      cases hfailed
  | shutdown hfailed =>
      rw [hunharmed.shutdown] at hfailed
      cases hfailed

/-! ## §5  What arrives -/

/-- A frame carries a batch: it is labelled with the number of the first request, and the batch is
read back from it. -/
structure Carries (m : ClientMessage) (f : Frame) : Prop where
  kind : f.header.kind = Header.transactionKind
  flags : f.header.flags = Header.batchFlag
  label : f.header.requestId = (m.requests.head?.map (·.id.value)).getD 0
  message : decode? ClientMessage f.payload = some m

theorem ofBatch_spec {m : ClientMessage} {f : Frame} (h : Frame.ofBatch m = .ok f) :
    f.IsSound Header.defaultLimit ∧ Carries m f := by
  unfold Frame.ofBatch Frame.ofMessage Frame.ofPayload at h
  split at h
  · rename_i hsize
    have hlimit : (encode m).size ≤ 67108864 := hsize
    have hannounced : (UInt32.ofNat (encode m).size).toNat = (encode m).size :=
      UInt32.toNat_ofNat_of_lt' (Nat.lt_of_le_of_lt hlimit (by decide))
    have hmem : ("ClientMessage", schema ClientMessage) ∈ Catalogue.entries := by
      simp [Catalogue.entries]
    cases h
    refine ⟨⟨?inOrder, hannounced.symm⟩, rfl, rfl, rfl, decode?_of_size hmem (by omega)⟩
    case inOrder =>
      have hkind : ¬ (Header.transactionKind ≠ Header.unaryKind ∧
          Header.transactionKind ≠ Header.transactionKind) := by decide
      have hlength : ¬ Header.defaultLimit < UInt32.ofNat (encode m).size := by
        rw [UInt32.lt_iff_toNat_lt, hannounced]
        exact Nat.not_lt_of_ge hlimit
      have hflags : Header.batchFlag &&& Header.reservedFlags = 0 := by decide
      rw [Header.violation?, if_neg hkind, if_neg hlength]
      simp [Header.hasFlag, hflags]
  · cases h

theorem framed_spec {frames : List Frame} (h : Framed messages frames) :
    (∀ f ∈ frames, f.IsSound Header.defaultLimit) ∧ List.Forall₂ Carries messages frames := by
  induction h with
  | nil => exact ⟨nofun, .nil⟩
  | cons hframe _ ih =>
      obtain ⟨hsound, hcarries⟩ := ofBatch_spec hframe
      exact ⟨List.forall_mem_cons.mpr ⟨hsound, ih.1⟩, .cons hcarries ih.2⟩

theorem sendable_of_framed {frames : List Frame} (h : Framed messages frames) :
    sendable messages = frames := by
  have happend := sendable_append h []
  rwa [List.append_nil, sendable, List.append_nil] at happend

theorem encodable_of_framed {frames : List Frame} (h : Framed messages frames) :
    ∀ m ∈ messages, ∃ f, Frame.ofBatch m = .ok f := by
  induction h with
  | nil => exact nofun
  | cons hframe _ ih => exact List.forall_mem_cons.mpr ⟨⟨_, hframe⟩, ih⟩

/-- **What is sent is what was queued.** Whatever the socket does, the bytes that it takes are a
front of the frames of the batches in order, up to the first batch that no frame can carry. A writer
that nothing disturbs finishes: all frames are written in groups of at most `groupSize`, with a
flush behind each group and one shutdown behind the last byte, and from the bytes in any chunks a
reader gets a frame for each batch that carries it. In every other case the writer fails with the
error of a fault, and gives the queue up with that error. -/
theorem queue_is_what_is_sent (socket : Socket) (messages : List ClientMessage) :
    ∃ state q t, writeMessages socket (queued messages) = (state, q, t) ∧
      t.bytes.data.toList <+: (Frame.encodeAll (sendable messages)).data.toList ∧
      (Unharmed socket messages t →
        state = .finished ∧ t.bytes = Frame.encodeAll (sendable messages) ∧
        (∃ groups : List (List Frame), groups.flatten = sendable messages ∧
          (∀ group ∈ groups, group ≠ [] ∧ group.length ≤ groupSize) ∧
          t.flushes = totals 0 groups) ∧
        t.shutdowns = [t.bytes.size] ∧
        ∀ chunks : List (List UInt8), chunks.flatten = t.bytes.data.toList →
          ∃ given : List (List Frame), FrameBuffer.answers {} chunks = given.map .ok ∧
            List.Forall₂ Carries messages given.flatten ∧
            (FrameBuffer.feed {} chunks).isEmpty = true) ∧
      (¬ Unharmed socket messages t → ∃ e, Fault socket messages t e ∧ state = .failed e ∧
        q.failure = some e ∧ q.abandoned = true) := by
  have hcalm : Calm socket {} := ⟨rfl, nofun, nofun⟩
  have hran := writeGroups_spec (messages.length + 1) { batches := messages, ended := true } rfl rfl
    (Nat.lt_succ_self _) hcalm
  rw [queued_eq, writeMessages]
  generalize writeGroups socket _ _ {} = result at hran ⊢
  cases hran with
  | @finished groups q t hgroups hframed hwrote hcalm' hshutdown =>
      have hsendable := sendable_of_framed hframed
      obtain ⟨hsound, hcarries⟩ := framed_spec hframed
      have hbytes : t.bytes.data.toList = (Frame.encodeAll (sendable messages)).data.toList := by
        rw [hwrote.bytes, Frame.toList_encodeAll, hsendable]
        rfl
      have hunharmed : Unharmed socket messages { t with
          shutdowns := t.shutdowns ++ [t.bytes.size] } :=
        ⟨⟨hcalm'.answered, hcalm'.taken, hcalm'.flushed⟩, hshutdown, encodable_of_framed hframed⟩
      refine ⟨.finished, q.abandon, _, rfl, ?front,
        fun _ => ⟨rfl, ?all, ⟨groups, hsendable.symm, hgroups, ?flushes⟩, ?shutdown, ?chunks⟩,
        fun hharmed => absurd hunharmed hharmed⟩
      case front => exact hbytes ▸ List.prefix_refl _
      case all => exact ByteArray.ext (Array.toList_inj.mp hbytes)
      case flushes =>
        rw [hwrote.flushes]
        rfl
      case shutdown =>
        rw [hwrote.shutdowns]
        rfl
      case chunks =>
        intro chunks hchunks
        rw [hsendable] at hbytes
        obtain ⟨⟨given, hgiven, hframes⟩, hempty⟩ :=
          FrameBuffer.answers_of_isSound hsound (hchunks.trans hbytes)
        exact ⟨given, hgiven, hframes ▸ hcarries, hempty⟩
  | @failed sent e q t hbytes hfront hfault hheld =>
      refine ⟨.failed e, q.fail e, t, rfl, ?front,
        fun hunharmed => absurd hunharmed hfault.not_unharmed,
        fun _ => ⟨e, hfault, rfl, ?failure, ?abandoned⟩⟩
      case front =>
        rw [hbytes, Frame.toList_encodeAll]
        exact hfront
      case failure => simp [RequestQueue.fail, hheld]
      case abandoned => exact RequestQueue.abandoned_fail q e

/-- A batch of one request, and a batch of none. -/
def twoBatches : List ClientMessage := [⟨[⟨⟨7⟩, .commit⟩]⟩, ⟨[]⟩]

/-- A socket that first takes one byte, and then always leaves two if it can. -/
def haltingSocket : Socket :=
  { write := fun number offered => .ok (if number = 0 then 1 else max 1 (offered - 2)) }

/-- A socket that takes three bytes and then nothing more. -/
def stallingSocket : Socket := { write := fun number _ => .ok (if number = 0 then 3 else 0) }

theorem encodable_twoBatches : ∀ m ∈ twoBatches, ∃ f, Frame.ofBatch m = .ok f := by
  have hshort : ∀ m ∈ twoBatches, (encode m).size ≤ Header.defaultLimit.toNat := by
    decide +kernel
  intro m hm
  exact ⟨_, if_pos (hshort m hm)⟩

theorem queue_is_what_is_sent_halting :
    (∃ state q t, writeMessages haltingSocket (queued twoBatches) = (state, q, t) ∧
      Unharmed haltingSocket twoBatches t ∧ state = .finished ∧
      t.bytes = Frame.encodeAll (sendable twoBatches) ∧ t.shutdowns = [t.bytes.size]) ∧
    ∃ state q t, writeMessages stallingSocket (queued twoBatches) = (state, q, t) ∧
      ¬ Unharmed stallingSocket twoBatches t ∧
      ∃ e, Fault stallingSocket twoBatches t e ∧ state = .failed e ∧ q.failure = some e := by
  constructor
  · obtain ⟨state, q, t, hrun, -, hwhole, -⟩ := queue_is_what_is_sent haltingSocket twoBatches
    have ht : t = (writeMessages haltingSocket (queued twoBatches)).2.2 := by rw [hrun]
    have hunharmed : Unharmed haltingSocket twoBatches t := by
      subst ht
      exact ⟨⟨by decide +kernel, by decide +kernel, fun _ _ => rfl⟩, rfl, encodable_twoBatches⟩
    obtain ⟨hstate, hbytes, -, hshutdown, -⟩ := hwhole hunharmed
    exact ⟨state, q, t, hrun, hunharmed, hstate, hbytes, hshutdown⟩
  · obtain ⟨state, q, t, hrun, -, -, hcut⟩ := queue_is_what_is_sent stallingSocket twoBatches
    have ht : t = (writeMessages stallingSocket (queued twoBatches)).2.2 := by rw [hrun]
    have hharmed : ¬ Unharmed stallingSocket twoBatches t := by
      intro hunharmed
      have hnone : ∃ w ∈ t.writes, w.2 = 0 := by
        subst ht
        decide +kernel
      obtain ⟨w, hw, hzero⟩ := hnone
      exact hunharmed.taken w hw hzero
    obtain ⟨e, hfault, hstate, hfailure, -⟩ := hcut hharmed
    exact ⟨state, q, t, hrun, hharmed, e, hfault, hstate, hfailure⟩

end GraphDriver.Wire
