import GraphDriver.Proofs.Wire.Writing
import Mathlib.Algebra.Ring.Nat

/-!
# Grouping requests

Requests may leave one by one or many in a batch. The peer reads the same requests in the same
order, as long as every batch fits into a frame. A batch takes the bytes of its requests and a few
more, so requests that fit into a frame each need not fit into one together.

* §1 how many bytes a batch takes
* §2 a socket that goes on
* §3 what the peer reads
* §4 groupings
-/

namespace GraphDriver

/-! ## §1  How many bytes a batch takes -/

namespace Pack

theorem size_encode_ofString (text : String) :
    (Value.ofString text).encode.size =
      (textHead text.utf8ByteSize).length + text.utf8ByteSize := by
  rw [Value.ofString, Value.encode, ByteArray.size_append, List.size_toByteArray,
    String.toUTF8_eq_toByteArray, String.size_toByteArray]

theorem size_encodeItems (items : List Value) :
    (encodeItems items).size = (items.map fun item => item.encode.size).sum := by
  induction items with
  | nil => rfl
  | cons item rest ih =>
      rw [encodeItems, ByteArray.size_append, ih, List.map_cons, List.sum_cons]

theorem size_encode_array (items : List Value) :
    (Value.array items).encode.size =
      (arrayHead items.length).length + (items.map fun item => item.encode.size).sum := by
  rw [Value.encode, ByteArray.size_append, List.size_toByteArray, size_encodeItems]

theorem size_encodeEntries (entries : List (Value × Value)) :
    (encodeEntries entries).size =
      (entries.map fun e => e.1.encode.size + e.2.encode.size).sum := by
  induction entries with
  | nil => rfl
  | cons e rest ih =>
      rw [encodeEntries, ByteArray.size_append, ByteArray.size_append, ih, List.map_cons,
        List.sum_cons, Nat.add_assoc]

/-- A record of few fields takes one byte beside their names and values. -/
theorem size_encode_record {entries : List (Value × Value)} (h : entries.length < 16) :
    (Value.map entries).encode.size =
      1 + (entries.map fun e => e.1.encode.size + e.2.encode.size).sum := by
  rw [Value.encode, ByteArray.size_append, List.size_toByteArray, size_encodeEntries, mapHead,
    if_pos h, List.length_singleton]

end Pack

namespace Wire

/-- How many bytes a batch of requests takes: those of the requests, and those of the record and the
list around them. -/
def batchSize (requests : List Request) : Nat :=
  10 + (Pack.arrayHead requests.length).length + (requests.map fun r => (encode r).size).sum

theorem size_encode_batch (requests : List Request) :
    (encode (⟨requests⟩ : ClientMessage)).size = batchSize requests := by
  have hvalue : (schema ClientMessage).toValue (toCarrier (⟨requests⟩ : ClientMessage)) =
      .map [(.ofString "requests",
        .array ((requests.map toCarrier).map (schema Request).toValue))] := rfl
  have hkey : (Pack.Value.ofString "requests").encode.size = 9 := by decide +kernel
  have hitems : ((requests.map toCarrier).map (schema Request).toValue).map
      (fun item => item.encode.size) = requests.map fun r => (encode r).size := by
    rw [List.map_map, List.map_map]
    rfl
  rw [encode, Schema.encode, hvalue, Pack.size_encode_record (by simp), List.map_singleton,
    List.sum_singleton, hkey, Pack.size_encode_array, hitems, List.length_map, List.length_map,
    batchSize]
  omega

/-- A batch has a frame if and only if it is within the limit. -/
theorem ofBatch_of_fits {requests : List Request} (h : batchSize requests ≤ 67108864) :
    ∃ f, Frame.ofBatch ⟨requests⟩ = .ok f :=
  ⟨_, if_pos (Nat.le_trans (Nat.le_of_eq (size_encode_batch requests)) h)⟩

theorem ofBatch_of_exceeds {requests : List Request} (h : 67108864 < batchSize requests) :
    Frame.ofBatch ⟨requests⟩ =
      .error (.protocol (.unsendable (batchSize requests) Header.defaultLimit)) := by
  rw [← size_encode_batch] at h ⊢
  exact if_neg (Nat.not_le_of_lt h)

end Wire

namespace Wire

variable {socket : Socket}

/-! ## §2  A socket that goes on -/

/-- A socket that takes something of whatever it is offered, and fails at nothing. -/
structure Willing (socket : Socket) : Prop where
  write : ∀ number offered, ∃ limit, socket.write number offered = .ok limit ∧
    (offered ≠ 0 → limit ≠ 0)
  flush : ∀ number, socket.flush number = none
  shutdown : socket.shutdownError = none

theorem willing_default : Willing {} := ⟨fun _ offered => ⟨offered, rfl, id⟩, fun _ => rfl, rfl⟩

theorem writeFrom_of_willing (h : Willing socket) (parts : List ByteArray) (written : Nat)
    (t : Transcript) :
    (writeFrom socket parts (joined parts).length written t).1 = .ok () := by
  -- by what is left: each write takes something of it
  induction hleft : (joined parts).length - written using Nat.strongRecOn
    generalizing written t with
  | ind left ih =>
      rw [writeFrom]
      split
      · rename_i hmore
        have hoffered : offered (slicesAfter written 0 parts) ≠ 0 := by
          rw [← length_joined, joined_slicesAfter, List.length_drop]
          omega
        obtain ⟨limit, hwrite, hlimit⟩ := h.write t.attempts (offered (slicesAfter written 0 parts))
        have hsome := hlimit hoffered
        dsimp only
        rw [hwrite]
        dsimp only
        rw [dif_neg (by omega)]
        exact ih ((joined parts).length - (written + min limit _)) (by omega) _ _ rfl
      · rfl

theorem writeGroup_of_willing (h : Willing socket) (frames : List Frame) (t : Transcript) :
    (writeGroup socket frames t).1 = .ok () := by
  have hwritten := writeFrom_of_willing h (partsOf frames) 0 t
  rw [joined_partsOf, ← totalSize_eq] at hwritten
  rw [writeGroup]
  generalize writeFrom socket (partsOf frames) (totalSize frames) 0 t = result at hwritten ⊢
  obtain ⟨written, t'⟩ := result
  obtain rfl : written = .ok () := hwritten
  dsimp only
  rw [h.flush]

/-- Over such a socket a writer fails only for a batch without a frame. -/
theorem refused_of_failed (h : Willing socket) (count : Nat) (q : RequestQueue) (t : Transcript)
    {e : Error} (hfailed : (writeGroups socket count q t).1 = .failed e) :
    ∃ m ∈ q.batches, Frame.ofBatch m = .error e := by
  induction count generalizing q t with
  | zero => cases hfailed
  | succ count ih =>
      rw [writeGroups] at hfailed
      split at hfailed
      · split at hfailed
        · rw [h.shutdown] at hfailed
          cases hfailed
        · cases hfailed
      · rcases takeGroup_spec groupSize q with
          ⟨frames, hgroup, -⟩ | ⟨e', q', hgroup, -, m, hm, hrefused⟩
        · have hgone := writeGroup_of_willing h frames t
          rw [hgroup] at hfailed
          dsimp only at hfailed
          generalize writeGroup socket frames t = result at hgone hfailed
          obtain ⟨written, t'⟩ := result
          obtain rfl : written = .ok () := hgone
          obtain ⟨m, hm, hrefused⟩ := ih _ _ hfailed
          exact ⟨m, List.mem_of_mem_drop hm, hrefused⟩
        · rw [hgroup] at hfailed
          cases hfailed
          exact ⟨m, hm, hrefused⟩

/-! ## §3  What the peer reads -/

/-- The requests that a reader finds in the frames of some chunks, in order; none if a chunk breaks
the protocol or a frame holds no batch. -/
def requestsIn? (chunks : List (List UInt8)) : Option (List Request) :=
  ((FrameBuffer.answers {} chunks).mapM Except.toOption).bind fun given =>
    (given.flatten.mapM fun f => decode? ClientMessage f.payload).map fun messages =>
      messages.flatMap (·.requests)

theorem requestsIn?_of_framed {messages : List ClientMessage} {frames : List Frame}
    (h : Framed messages frames) {chunks : List (List UInt8)}
    (hchunks : chunks.flatten = Frame.allBytes frames) :
    requestsIn? chunks = some (messages.flatMap (·.requests)) := by
  obtain ⟨hsound, hcarries⟩ := framed_spec h
  rw [← Frame.toList_encodeAll] at hchunks
  obtain ⟨⟨given, hgiven, hframes⟩, -⟩ := FrameBuffer.answers_of_isSound hsound hchunks
  have hanswers : FrameBuffer.answers {} chunks = given.map .ok := hgiven
  have hgood : (FrameBuffer.answers {} chunks).mapM Except.toOption = some given := by
    rw [hanswers]
    refine mapM_of_forall₂ (List.forall₂_map_right_iff.mpr ?_)
    exact List.forall₂_same.mpr fun _ _ => rfl
  have hmessages : frames.mapM (fun f => decode? ClientMessage f.payload) = some messages :=
    mapM_of_forall₂ (hcarries.imp fun _ _ hcarries => hcarries.message)
  rw [requestsIn?, hgood, Option.bind_some, hframes, hmessages, Option.map_some]

/-! ## §4  Groupings -/

/-- What a run of a writer brings to the peer: the writer has finished, and from the bytes in any
chunks the peer reads some requests. -/
def Delivers (run : WriterState × RequestQueue × Transcript) (requests : List Request) : Prop :=
  run.1 = .finished ∧ ∀ chunks : List (List UInt8),
    chunks.flatten = run.2.2.bytes.data.toList → requestsIn? chunks = some requests

/-- What becomes of batches over a willing socket: if each is within the limit, the writer finishes
and the peer reads their requests; if not, it fails with the size of one that is not. -/
theorem writeMessages_of_willing (h : Willing socket) (batches : List (List Request)) :
    let run := writeMessages socket (queued (batches.map .mk))
    ((∀ batch ∈ batches, batchSize batch ≤ 67108864) → Delivers run batches.flatten) ∧
      (∀ batch ∈ batches, 67108864 < batchSize batch →
        ∃ large ∈ batches, 67108864 < batchSize large ∧
          let error : Error := .protocol (.unsendable (batchSize large) Header.defaultLimit)
          run.1 = .failed error ∧ run.2.1.failure = some error) := by
  intro run
  have hcalm : Calm socket {} := ⟨rfl, nofun, nofun⟩
  have hran := writeGroups_spec ((batches.map ClientMessage.mk).length + 1)
    { batches := batches.map .mk, ended := true } rfl rfl (Nat.lt_succ_self _) hcalm
  have hrefused := fun e => refused_of_failed (e := e) h ((batches.map ClientMessage.mk).length + 1)
    { batches := batches.map .mk, ended := true } {}
  have hrun : run = writeMessages socket { batches := batches.map .mk, ended := true } := by
    rw [← queued_eq]
  rw [hrun, writeMessages]
  generalize writeGroups socket _ _ {} = result at hran hrefused ⊢
  cases hran with
  | @finished groups q t hgroups hframed hwrote hcalm' hshutdown =>
      refine ⟨fun _ => ⟨rfl, fun chunks hchunks => ?_⟩, fun batch hbatch hlarge => ?_⟩
      · rw [hwrote.bytes] at hchunks
        rw [requestsIn?_of_framed hframed hchunks, List.flatMap_map]
        simp [List.flatMap_id']
      · obtain ⟨f, hframe⟩ := encodable_of_framed hframed ⟨batch⟩ (List.mem_map_of_mem hbatch)
        rw [ofBatch_of_exceeds hlarge] at hframe
        cases hframe
  | @failed sent e q t hbytes hfront hfault hheld =>
      obtain ⟨m, hm, herror⟩ := hrefused e rfl
      obtain ⟨large, hmem, rfl⟩ := List.mem_map.mp hm
      by_cases hfits : batchSize large ≤ 67108864
      · obtain ⟨f, hframe⟩ := ofBatch_of_fits hfits
        rw [hframe] at herror
        cases herror
      · have hlarge := Nat.lt_of_not_le hfits
        rw [ofBatch_of_exceeds hlarge] at herror
        cases herror
        refine ⟨fun hall => absurd (hall large hmem) hfits, fun _ _ _ => ?_⟩
        exact ⟨large, hmem, hlarge, rfl, by simp [RequestQueue.fail, hheld]⟩

theorem delivers_alone (h : Willing socket) {requests : List Request}
    (hsizes : ∀ r ∈ requests, batchSize [r] ≤ 67108864) :
    Delivers (writeMessages socket (queued (requests.map fun r => ⟨[r]⟩))) requests := by
  have hsingles : ∀ batch ∈ requests.map fun r => [r], batchSize batch ≤ 67108864 := by
    intro batch hbatch
    obtain ⟨r, hr, rfl⟩ := List.mem_map.mp hbatch
    exact hsizes r hr
  have hflat : (requests.map fun r => [r]).flatten = requests := by
    rw [← List.flatMap_def, List.flatMap_singleton']
  have hdelivered := (writeMessages_of_willing h (requests.map fun r => [r])).1 hsingles
  rw [List.map_map, hflat] at hdelivered
  exact hdelivered

/-- **Grouping shows only in its size.** Let requests be given that all have a frame when they are
sent alone, and any grouping of them into batches, over any socket that always takes something and
fails at nothing. Sent alone, the requests are delivered in order. In batches they are delivered
just the same if and only if every batch is within the limit, where a batch takes the bytes of its
requests, ten more, and the head of a list; and otherwise the writer fails with the size of a batch
that is not, and gives the queue up with that error. -/
theorem grouping_shows_iff_a_batch_exceeds (h : Willing socket) (batches : List (List Request))
    (halone : ∀ r ∈ batches.flatten, ∃ f, Frame.ofBatch ⟨[r]⟩ = .ok f) :
    let requests := batches.flatten
    let alone := writeMessages socket (queued (requests.map fun r => ⟨[r]⟩))
    let grouped := writeMessages socket (queued (batches.map .mk))
    Delivers alone requests ∧
      (Delivers grouped requests ↔ ∀ batch ∈ batches, batchSize batch ≤ 67108864) ∧
      (¬ Delivers grouped requests → ∃ large ∈ batches, 67108864 < batchSize large ∧
        let error : Error := .protocol (.unsendable (batchSize large) Header.defaultLimit)
        grouped.1 = .failed error ∧ grouped.2.1.failure = some error) := by
  intro requests alone grouped
  obtain ⟨hsmall, hlarge⟩ := writeMessages_of_willing h batches
  have hexceeds : ¬ (∀ batch ∈ batches, batchSize batch ≤ 67108864) →
      ∃ batch ∈ batches, 67108864 < batchSize batch := by
    intro hnot
    simpa using hnot
  refine ⟨?_, ⟨?_, hsmall⟩, ?_⟩
  · refine delivers_alone h fun r hr => ?_
    by_contra hover
    obtain ⟨f, hframe⟩ := halone r hr
    rw [ofBatch_of_exceeds (Nat.lt_of_not_le hover)] at hframe
    cases hframe
  · intro hdelivered
    by_contra hover
    obtain ⟨batch, hbatch, hsize⟩ := hexceeds hover
    obtain ⟨large, -, -, hfailed, -⟩ := hlarge batch hbatch hsize
    have hfinished : grouped.1 = .finished := hdelivered.1
    rw [show grouped.1 = _ from hfailed] at hfinished
    cases hfinished
  · intro hnot
    obtain ⟨batch, hbatch, hsize⟩ := hexceeds fun hall => hnot (hsmall hall)
    exact hlarge batch hbatch hsize

/-- Three requests in two batches, over a socket that first takes one byte and then always leaves
two if it can. -/
theorem grouping_shows_iff_a_batch_exceeds_three :
    let requests : List Request := [⟨⟨1⟩, .commit⟩, ⟨⟨2⟩, .rollback⟩, ⟨⟨3⟩, .commit⟩]
    let batches : List (List Request) := [requests.take 2, requests.drop 2]
    (∀ r ∈ batches.flatten, ∃ f, Frame.ofBatch ⟨[r]⟩ = .ok f) ∧
      Delivers (writeMessages haltingSocket (queued (requests.map fun r => ⟨[r]⟩))) requests ∧
      Delivers (writeMessages haltingSocket (queued (batches.map .mk))) requests := by
  intro requests batches
  have hwilling : Willing haltingSocket := by
    refine ⟨fun number offered => ⟨_, rfl, ?_⟩, fun _ => rfl, rfl⟩
    intro _
    split <;> omega
  have halone : ∀ r ∈ batches.flatten, ∃ f, Frame.ofBatch ⟨[r]⟩ = .ok f := by
    intro r hr
    have hsizes : ∀ r ∈ batches.flatten, batchSize [r] ≤ 67108864 := by decide +kernel
    exact ofBatch_of_fits (hsizes r hr)
  obtain ⟨hdelivered, hgrouped, -⟩ :=
    grouping_shows_iff_a_batch_exceeds hwilling batches halone
  exact ⟨halone, hdelivered, hgrouped.mpr (by decide +kernel)⟩

/-- A query without options. -/
def matchQuery (id : UInt32) (text : String) : Request := ⟨⟨id⟩, .query (.match text) {}⟩

theorem size_encode_matchQuery (id : UInt32) (text : String) :
    (encode (matchQuery id text)).size =
      (Pack.unsignedHead id.toNat).length + (Pack.textHead text.utf8ByteSize).length +
        text.utf8ByteSize + 222 := by
  have hvalue : (schema Request).toValue (toCarrier (matchQuery id text)) =
      .map [(.ofString "id", .unsigned id.toUInt64),
        (.ofString "payload", .map [(.ofString "Query",
          .map [(.ofString "query", .map [(.ofString "Match", .ofString text)]),
            (.ofString "options", (schema Options).toValue (toCarrier ({} : Options)))])])] := rfl
  have hnames : (Pack.Value.ofString "id").encode.size = 3 ∧
      (Pack.Value.ofString "payload").encode.size = 8 ∧
      (Pack.Value.ofString "Query").encode.size = 6 ∧
      (Pack.Value.ofString "query").encode.size = 6 ∧
      (Pack.Value.ofString "Match").encode.size = 6 ∧
      (Pack.Value.ofString "options").encode.size = 8 ∧
      ((schema Options).toValue (toCarrier ({} : Options))).encode.size = 181 := by
    decide +kernel
  obtain ⟨hid, hpayload, hquery, hfield, hmatch, hoptions, hnone⟩ := hnames
  have hnumber : (Pack.Value.unsigned id.toUInt64).encode.size =
      (Pack.unsignedHead id.toNat).length := by
    rw [Pack.Value.encode, List.size_toByteArray, UInt32.toNat_toUInt64]
  rw [encode, Schema.encode, hvalue]
  simp only [Pack.size_encode_record, List.map_cons, List.map_nil, List.sum_cons, List.sum_nil,
    List.length_cons, List.length_nil, Nat.reduceAdd, Nat.reduceLT, hid, hpayload, hquery, hfield,
    hmatch, hoptions, hnone, hnumber, Pack.size_encode_ofString text]
  omega

theorem utf8ByteSize_letters (n : Nat) :
    (String.ofList (List.replicate n 'a')).utf8ByteSize = n := by
  induction n with
  | zero => rfl
  | succ n ih =>
      rw [List.replicate_succ, String.ofList_cons, String.utf8ByteSize_append, ih,
        String.utf8ByteSize_singleton, Nat.add_comm]
      rfl

/-- A text of half of the bytes that a frame can carry. -/
def longText : String := String.ofList (List.replicate 33554432 'a')

theorem utf8ByteSize_longText : longText.utf8ByteSize = 33554432 := utf8ByteSize_letters _

theorem two_long_queries (text : String) (htext : text.utf8ByteSize = 33554432) :
    let requests := [matchQuery 1 text, matchQuery 2 text]
    let grouped := writeMessages {} (queued [⟨requests⟩])
    (∀ r ∈ requests, ∃ f, Frame.ofBatch ⟨[r]⟩ = .ok f) ∧
      Delivers (writeMessages {} (queued (requests.map fun r => ⟨[r]⟩))) requests ∧
      grouped.1 = .failed (.protocol (.unsendable 67109331 Header.defaultLimit)) := by
  intro requests grouped
  have hsizes : (encode (matchQuery 1 text)).size = 33554660 ∧
      (encode (matchQuery 2 text)).size = 33554660 := by
    rw [size_encode_matchQuery, size_encode_matchQuery, htext]
    decide
  have hsingle : ∀ r ∈ requests, batchSize [r] ≤ 67108864 := by
    intro r hr
    rcases List.mem_pair.mp hr with rfl | rfl
    · simp [batchSize, hsizes, Pack.arrayHead]
    · simp [batchSize, hsizes, Pack.arrayHead]
  have hboth : batchSize requests = 67109331 := by
    simp [requests, batchSize, hsizes, Pack.arrayHead]
  refine ⟨fun r hr => ofBatch_of_fits (hsingle r hr), ?_, ?_⟩
  · exact delivers_alone willing_default hsingle
  · obtain ⟨large, hlarge, -, hfailed, -⟩ :=
      (writeMessages_of_willing willing_default [requests]).2 requests (by simp)
        (by rw [hboth]; decide)
    rw [List.mem_singleton.mp hlarge, hboth] at hfailed
    exact hfailed

/-- Two queries of `2 ^ 25` letters are delivered when each is sent alone, and not in one batch. -/
theorem two_long_queries_do_not_group :
    let requests := [matchQuery 1 longText, matchQuery 2 longText]
    let grouped := writeMessages {} (queued [⟨requests⟩])
    (∀ r ∈ requests, ∃ f, Frame.ofBatch ⟨[r]⟩ = .ok f) ∧
      Delivers (writeMessages {} (queued (requests.map fun r => ⟨[r]⟩))) requests ∧
      grouped.1 = .failed (.protocol (.unsendable 67109331 Header.defaultLimit)) :=
  two_long_queries longText utf8ByteSize_longText

end Wire

end GraphDriver
