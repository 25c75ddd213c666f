import GraphDriver.Proofs.Stream.Iteration

/-!
# Flattening

Reading a streamed answer item by item. Behind it there is an iteration over the parts of the
answer, the items of which are given one after the other. Two kinds of errors come out of it: one of
the iteration, which finishes it, and one of a part that has not the shape of the answer, which does
not.

* §1 the items of parts
* §2 a reading is an iteration
* §3 lists that stop at their first error
* §4 answers of the wrong shape
-/

namespace GraphDriver

variable {α : Type} {extract : PartPayload → Except Error (List α)} {call : Call}
  {turns : List Turn}

/-! ## §1  The items of parts -/

/-- What an iteration has found, item by item. -/
def itemsIn (extract : PartPayload → Except Error (List α)) :
    Except Error PartPayload → List (Except Error α)
  | .error error => [.error error]
  | .ok part =>
    match extract part with
    | .error error => [.error error]
    | .ok items => items.map .ok

theorem itemsIn_ok {part : PartPayload} {items : List α} (hshape : extract part = .ok items) :
    itemsIn extract (.ok part) = items.map .ok := by
  rw [itemsIn, hshape]

theorem itemsIn_error {part : PartPayload} {error : Error} (hshape : extract part = .error error) :
    itemsIn extract (.ok part) = [.error error] := by
  rw [itemsIn, hshape]

/-- Only a part of the right shape without items gives nothing. -/
theorem itemsIn_eq_nil_iff {part : PartPayload} :
    itemsIn extract (.ok part) = [] ↔ extract part = .ok [] := by
  cases hshape : extract part with
  | error error => simp [itemsIn_error hshape]
  | ok items => simp [itemsIn_ok hshape]

/-! ## §2  A reading is an iteration -/

namespace Iteration

theorem run_append (x : Iteration) (xs ys : List Turn) : x.run (xs ++ ys) = (x.run xs).run ys :=
  List.foldl_append

theorem told_append (x : Iteration) (xs ys : List Turn) :
    x.told (xs ++ ys) = x.told xs ++ (x.run xs).told ys :=
  Run.log_append x xs ys

end Iteration

theorem telling_look (h : Hub) (p : PartReader) (now : Nat) :
    Iteration.telling ⟨h, p⟩ (.look now) = (h.nextPart now p).1.item?.toList := rfl

/-- A look for an item is some looks for parts. -/
theorem nextItemWithin_iterates (extract : PartPayload → Except Error (List α)) (looks : Nat)
    (h : Hub) (now : Nat) (r : ItemReader α) :
    let out := Hub.nextItemWithin extract looks h now r
    let x : Iteration := ⟨h, r.parts⟩
    ∃ k, x.run (.replicate k (.look now)) = ⟨out.2.2, out.2.1.parts⟩ ∧
      r.ready ++ (x.told (.replicate k (.look now))).flatMap (itemsIn extract) =
        out.1.item?.toList ++ out.2.1.ready := by
  induction looks generalizing h r with
  | zero => exact ⟨0, rfl, List.append_nil _⟩
  | succ looks ih =>
      intro out x
      have hone : ∀ found, (h.nextPart now r.parts).1 = found →
          x.told (.replicate 1 (.look now)) = found.item?.toList := by
        rintro found rfl
        exact List.append_nil _
      rcases Hub.nextItemWithin_cases extract looks h now r with
        ⟨item, rest, hready, hout⟩ | ⟨hready, ⟨hpart, hout⟩ | ⟨hpart, hout⟩ | ⟨error, hpart, hout⟩ |
          ⟨payload, items, hpart, hshape, hout⟩⟩
      · rw [show out = _ from hout]
        exact ⟨0, rfl, by rw [hready]; exact List.append_nil _⟩
      · rw [show out = _ from hout, hready]
        exact ⟨1, rfl, by rw [hone _ hpart]; rfl⟩
      · rw [show out = _ from hout, hready]
        exact ⟨1, rfl, by rw [hone _ hpart]; rfl⟩
      · rw [show out = _ from hout, hready]
        refine ⟨1, rfl, ?_⟩
        rcases hpart with hpart | ⟨payload, hpart, hshape⟩
        · rw [hone _ hpart]
          simp [Poll.item?, itemsIn]
        · rw [hone _ hpart]
          simp [Poll.item?, itemsIn_error hshape]
      · obtain ⟨k, hrun, htold⟩ := ih (h.nextPart now r.parts).2.2
          { parts := (h.nextPart now r.parts).2.1, ready := items.map .ok }
        rw [show out = _ from hout, hready]
        refine ⟨k + 1, hrun, ?_⟩
        rw [← htold, List.replicate_succ, Iteration.told, Run.log, telling_look, hpart,
          List.flatMap_append, ← itemsIn_ok hshape]
        show [] ++ ([.ok payload].flatMap (itemsIn extract) ++ _) = _
        rw [List.nil_append, List.flatMap_singleton]
        rfl

/-- Items are ready behind an item that was given: a look that finds a part gives the first item of
it. -/
theorem nextItemWithin_ready (extract : PartPayload → Except Error (List α)) {due : Due} {n : Nat}
    (looks : Nat) (h : Hub) (now : Nat)
    {r : ItemReader α} (hcall : r.parts.call = call) (wf : h.WellFormed)
    (hs : call.stream < h.streams.length)
    (hf : Collector.Follows (h.stream call.stream).collector call.mailbox call.id due n)
    (hlooks : due.messages.length - n < looks) {items : List α} (hready : r.ready = items.map .ok) :
    let out := Hub.nextItemWithin extract looks h now r
    ∃ rest : List α, out.2.1.ready = rest.map .ok ∧
      (rest ≠ [] → ∃ item, out.1 = .item (.ok item)) := by
  induction looks generalizing h r n items with
  | zero => exact absurd hlooks (Nat.not_lt_zero _)
  | succ looks ih =>
      intro out
      rcases Hub.nextItemWithin_cases extract looks h now r with
        ⟨item, rest, hhead, hout⟩ | ⟨hnone, ⟨-, hout⟩ | ⟨-, hout⟩ | ⟨error, -, hout⟩ |
          ⟨payload, items', hpart, -, hout⟩⟩
      · rw [hready] at hhead
        obtain ⟨item', rest', rfl, rfl, rfl⟩ := List.map_eq_cons_iff.mp hhead
        rw [show out = _ from hout]
        exact ⟨rest', rfl, fun _ => ⟨item', rfl⟩⟩
      · rw [show out = _ from hout]
        exact ⟨[], hnone, fun hne => absurd rfl hne⟩
      · rw [show out = _ from hout]
        exact ⟨[], hnone, fun hne => absurd rfl hne⟩
      · rw [show out = _ from hout]
        exact ⟨[], hnone, fun hne => absurd rfl hne⟩
      · have hreading : r.parts = ⟨call, false⟩ := by
          refine PartReader.ext hcall ?_
          cases hfinished : r.parts.finished with
          | false => rfl
          | true =>
              rw [Hub.nextPart_of_finished hfinished] at hpart
              cases hpart
        rw [hreading] at hpart hout
        obtain ⟨n', hfinds, hparts, hfollows⟩ := Hub.nextPart_finds now hs hf
        obtain ⟨wf', hs', -⟩ := Hub.isOpen_nextPart now ⟨call, false⟩ wf hs
        rw [hpart] at hfinds
        have hgone := hfinds.lt_of_part
        rw [show out = _ from hout]
        exact ih _ (congrArg PartReader.call hparts) wf' hs' hfollows (by omega) rfl

/-- What is done between the looks. -/
def others (turns : List Turn) : List Hub.Op :=
  turns.filterMap fun
    | .other op => some op
    | .look _ => none

theorem mem_others {op : Hub.Op} : op ∈ others turns ↔ .other op ∈ turns := by
  rw [others, List.mem_filterMap]
  constructor
  · rintro ⟨turn, hmem, hturn⟩
    cases turn with
    | other op' =>
        obtain rfl : op' = op := Option.some.inj hturn
        exact hmem
    | look now => cases hturn
  · exact fun hmem => ⟨_, hmem, rfl⟩

theorem others_append (xs ys : List Turn) : others (xs ++ ys) = others xs ++ others ys :=
  List.filterMap_append

theorem others_looks (k now : Nat) : others (.replicate k (.look now)) = [] := by
  rw [others, List.filterMap_replicate_of_none rfl]

/-- What arrives for a call is done between the looks. -/
theorem arrived_eq_others (call : Call) (turns : List Turn) :
    arrived call turns = (others turns).flatMap fun op => arrived call [.other op] := by
  induction turns with
  | nil => rfl
  | cons turn turns ih =>
      have hcons : arrived call (turn :: turns) = arrived call [turn] ++ arrived call turns := by
        simp [arrived]
      rw [hcons, ih]
      cases turn with
      | other op => rfl
      | look now => rfl

theorem IsOwn.of_others {turns' : List Turn} (hown : IsOwn call turns)
    (hothers : others turns' = others turns) : IsOwn call turns' := fun other hmem =>
  hown other (mem_others.mp (hothers ▸ mem_others.mpr hmem))

/-- How a reading stands to an iteration: the same reader of parts at the same hub, and the items of
what the iteration told, of which those are ready that come last. -/
structure Flattens (extract : PartPayload → Except Error (List α)) (x : Reading α)
    (told : List (Except Error α)) (y : Iteration) (found : List (Except Error PartPayload)) : Prop
    where
  same : y = ⟨x.hub, x.reader.parts⟩
  items : told ++ x.reader.ready = found.flatMap (itemsIn extract)
  ready : ∃ rest : List α, x.reader.ready = rest.map .ok ∧
    (rest ≠ [] → ∃ front item, told = front ++ [.ok item])

/-- A look for an item in a reading that flattens an iteration. -/
theorem Flattens.look {x : Reading α} {told : List (Except Error α)} {y : Iteration}
    {found : List (Except Error PartPayload)} {partTold : List (Except Error PartPayload)}
    {due : Due} {n : Nat} {error : Option Error} (hflat : Flattens extract x told y found)
    (hsound : y.Sound call turns partTold due n error) (now : Nat) :
    ∃ k, Flattens extract (x.step extract (.look now)) (told ++ x.telling extract (.look now))
      (y.run (.replicate k (.look now))) (found ++ y.told (.replicate k (.look now))) := by
  obtain ⟨rfl, htold, rest, hready, -⟩ := hflat
  have hlooks : due.messages.length - n < x.hub.backlog x.reader.parts.call + 3 := by
    have hbacklog := Hub.length_le_backlog hsound.follows
    rw [show x.reader.parts.call = call from hsound.reader]
    dsimp only at hbacklog
    omega
  obtain ⟨k, hrun, hitems⟩ := nextItemWithin_iterates extract
    (x.hub.backlog x.reader.parts.call + 3) x.hub now x.reader
  obtain ⟨rest', hready', hfirst⟩ := nextItemWithin_ready extract _ x.hub now
    hsound.reader hsound.wellFormed hsound.lt hsound.follows hlooks hready
  refine ⟨k, hrun, ?_, rest', hready', fun hne => ?_⟩
  · rw [List.flatMap_append, ← htold, List.append_assoc, List.append_assoc, hitems]
    rfl
  · obtain ⟨item, hitem⟩ := hfirst hne
    refine ⟨told, item, ?_⟩
    rw [Reading.telling, show (x.look extract now).1 = _ from hitem]
    rfl

/-- **A reading is an iteration.** What the owner of a reading gets in a run are the items of what
an iteration tells among the same operations. -/
theorem flattens_run (extract : PartPayload → Except Error (List α)) {h : Hub}
    (wf : h.WellFormed) (hs : call.stream < h.streams.length)
    (hf : Collector.Follows (h.stream call.stream).collector call.mailbox call.id {} 0)
    (hown : IsOwn call turns) :
    ∃ turns', others turns' = others turns ∧
      Flattens extract ((Reading.start h call).run extract turns)
        ((Reading.start h call).told extract turns)
        ((Iteration.start h call).run turns') ((Iteration.start h call).told turns') := by
  induction turns using List.reverseRecOn with
  | nil => exact ⟨[], rfl, rfl, rfl, [], rfl, fun hne => absurd rfl hne⟩
  | append_singleton turns turn ih =>
      obtain ⟨turns', hothers, hflat⟩ := ih hown.init
      rw [Reading.run_snoc, Reading.told_snoc]
      cases turn with
      | other op =>
          refine ⟨turns' ++ [.other op], ?_, ?_⟩
          · rw [others_append, others_append, hothers]
          · obtain ⟨hsame, htold, hready⟩ := hflat
            rw [Iteration.run_snoc, Iteration.told_snoc, Reading.telling, Iteration.telling,
              List.append_nil, List.append_nil]
            exact ⟨by rw [hsame]; rfl, htold, hready⟩
      | look now =>
          obtain ⟨due, n, error, hsound⟩ :=
            Iteration.sound_run wf hs hf (hown.init.of_others hothers)
          obtain ⟨k, hflat'⟩ := hflat.look hsound now
          refine ⟨turns' ++ .replicate k (.look now), ?_, ?_⟩
          · rw [others_append, others_append, hothers, others_looks]
            rfl
          · rw [Iteration.run_append, Iteration.told_append]
            exact hflat'

/-! ## §3  Lists that stop at their first error -/

/-- There is at most one error, and nothing behind it. -/
def Stops (told : List (Except Error α)) : Prop :=
  ∀ front error rest, told = front ++ .error error :: rest → rest = []

theorem stops_nil : Stops ([] : List (Except Error α)) := by
  intro front error rest h
  simp at h

theorem stops_error_cons {error : Error} {told : List (Except Error α)} :
    Stops (.error error :: told) ↔ told = [] := by
  refine ⟨fun hstops => hstops [] error told rfl, ?_⟩
  rintro rfl front error' rest h
  cases front with
  | nil => exact (List.cons.inj h).2.symm
  | cons item front => simp at h

theorem stops_map_ok_append {items : List α} {told : List (Except Error α)} :
    Stops (items.map .ok ++ told) ↔ Stops told := by
  induction items with
  | nil => exact Iff.rfl
  | cons item items ih =>
      rw [List.map_cons, List.cons_append, ← ih]
      constructor
      · intro hstops front error rest h
        exact hstops (.ok item :: front) error rest (congrArg (.ok item :: ·) h)
      · intro hstops front error rest h
        cases front with
        | nil => cases (List.cons.inj h).1
        | cons first front => exact hstops front error rest (List.cons.inj h).2

/-- Items behind an item do not change whether a list stops at its first error. -/
theorem stops_append_map_ok {told : List (Except Error α)} {items : List α}
    (hlast : items ≠ [] → ∃ front item, told = front ++ [.ok item]) :
    Stops (told ++ items.map .ok) ↔ Stops told := by
  constructor
  · intro hstops front error rest h
    have hall := hstops front error (rest ++ items.map .ok) (by rw [h]; simp)
    exact (List.append_eq_nil_iff.mp hall).1
  · intro hstops front error rest h
    have hno : .error error ∉ items.map (.ok : α → Except Error α) := by simp
    rcases List.append_eq_append_iff.mp h with ⟨more, -, hmore⟩ | ⟨more, htold, hmore⟩
    · exact absurd (hmore ▸ List.mem_append_right _ List.mem_cons_self) hno
    · cases more with
      | nil =>
          rw [List.nil_append] at hmore
          exact absurd (hmore ▸ List.mem_cons_self) hno
      | cons first more =>
          obtain ⟨rfl, rfl⟩ := List.cons.inj hmore
          obtain rfl := hstops front error more htold
          -- what was told ends with the error, so no items are ready
          obtain rfl : items = [] := by
            by_contra hne
            obtain ⟨front', item, htold'⟩ := hlast hne
            cases (List.append_inj' (htold.symm.trans htold') rfl).2
          rfl

/-- The items of parts, and perhaps an error behind them, stop at the first error if and only if
what comes after the first part of the wrong shape gives nothing. -/
theorem stops_iff {parts : List PartPayload} {error : Option Error} :
    Stops (parts.flatMap (fun part => itemsIn extract (.ok part)) ++ error.toList.map .error) ↔
      ∀ front part rest, parts = front ++ part :: rest → (extract part).isOk = false →
        (∀ other ∈ rest, extract other = .ok []) ∧ error = none := by
  induction parts with
  | nil =>
      refine ⟨fun _ front part rest h => by simp at h, fun _ => ?_⟩
      cases error with
      | none => exact stops_nil
      | some error => exact stops_error_cons.mpr rfl
  | cons part parts ih =>
      rw [List.flatMap_cons, List.append_assoc]
      cases hshape : extract part with
      | ok items =>
          rw [itemsIn_ok hshape, stops_map_ok_append, ih]
          constructor
          · intro hrest front wrong rest h hwrong
            cases front with
            | nil =>
                obtain ⟨rfl, -⟩ := List.cons.inj h
                rw [hshape] at hwrong
                cases hwrong
            | cons first front => exact hrest front wrong rest (List.cons.inj h).2 hwrong
          · intro hrest front wrong rest h
            exact hrest (part :: front) wrong rest (congrArg (part :: ·) h)
      | error refusal =>
          rw [itemsIn_error hshape, List.singleton_append, stops_error_cons,
            List.append_eq_nil_iff, List.flatMap_eq_nil_iff]
          constructor
          · rintro ⟨hnothing, hnone⟩ front wrong rest h hwrong
            have herror : error = none := by
              cases error with
              | none => rfl
              | some error => cases hnone
            refine ⟨fun other hother => itemsIn_eq_nil_iff.mp (hnothing other ?_), herror⟩
            cases front with
            | nil =>
                rw [(List.cons.inj h).2]
                exact hother
            | cons first front =>
                rw [(List.cons.inj h).2]
                exact List.mem_append_right _ (List.mem_cons_of_mem _ hother)
          · intro hrest
            obtain ⟨hnothing, rfl⟩ := hrest [] part parts rfl (by rw [hshape]; rfl)
            exact ⟨fun other hother => itemsIn_eq_nil_iff.mpr (hnothing other hother), rfl⟩

/-! ## §4  Answers of the wrong shape -/

/-- **Answers stop at an error of the stream, not at an error of shape.** For each kind of streamed
answer, whatever parts and responses come under the number of the call, and whatever closes the
stream: what the owner of the reader has got, with what is ready for it, are the answers of the
parts that were read, in order, with an error in place of each part of the wrong shape, and behind
them perhaps an error of the iteration, after which every look tells the end. So the owner gets at
most one error and nothing after it if and only if, of what was read, nothing that gives an answer
or an error comes after a part of the wrong shape. -/
theorem answers_stop_iff (kind : AnswerKind) (config : TransmitterConfig) (before : List Hub.Op)
    (now s : Nat) (payload : RequestPayload) (call : Call) (h : Hub)
    (hs : s < ((Hub.new config).run before).streams.length)
    (hsend : ((Hub.new config).run before).send now s payload true = (.ok call, h))
    (turns : List Turn) (hown : IsOwn call turns) :
    let extract := kind.extract
    let x := (Reading.start h call).run extract turns
    let told := (Reading.start h call).told extract turns
    ∃ (parts : List PartPayload) (error : Option Error),
      parts <+: dataIn (arrived call turns) ∧
        told ++ x.reader.ready =
          parts.flatMap (fun part => itemsIn extract (.ok part)) ++ error.toList.map .error ∧
        (error ≠ none → ∀ now,
          (x.hub.nextAnswer now { toItemReader := x.reader, kind }).1 = .ended) ∧
        (Stops told ↔
          ∀ front part rest, parts = front ++ part :: rest → (extract part).isOk = false →
            (∀ other ∈ rest, extract other = .ok []) ∧ error = none) := by
  intro extract x told
  have wf := (Hub.wellFormed_new config).run before
  obtain ⟨rfl, hf⟩ := Hub.begun_of_send hs hsend
  obtain ⟨wfh, hsh⟩ := wf.of_send hs hsend
  obtain ⟨turns', hothers, hsame, hitems, ready, hready, hlast⟩ :=
    flattens_run extract wfh hsh hf hown
  obtain ⟨due, n, error, hsound⟩ :=
    Iteration.sound_run wfh hsh hf (hown.of_others hothers)
  have harrived : arrived call turns' = arrived call turns := by
    rw [arrived_eq_others, hothers, ← arrived_eq_others]
  have hparts : told ++ x.reader.ready =
      (dataIn (due.messages.take n)).flatMap (fun part => itemsIn extract (.ok part)) ++
        error.toList.map .error := by
    rw [hitems, hsound.told, List.flatMap_append, List.flatMap_map]
    cases error <;> rfl
  refine ⟨dataIn (due.messages.take n), error, ?_, hparts, fun herror now => ?_, ?_⟩
  · rw [← harrived]
    exact ((List.take_prefix n _).trans hsound.came).filterMap _
  · obtain ⟨refusal, rfl⟩ := Option.ne_none_iff_exists'.mp herror
    have hfinished : x.reader.parts.finished = true := by
      by_contra hgoing
      have hreading := hsound.reading
      rw [hsame] at hreading
      cases hreading (by simpa using hgoing)
    -- nothing is ready, as the error is the last that came
    have hnone : ready = [] := by
      rcases ready.eq_nil_or_concat with hnil | ⟨front, item, rfl⟩
      · exact hnil
      · rw [hready, List.concat_eq_append, List.map_append, ← List.append_assoc] at hparts
        cases (List.append_inj' hparts rfl).2
    rw [hnone] at hready
    have hlook : x.look extract now = (.ended, x) := Reading.look_of_finished hfinished hready now
    exact congrArg Prod.fst hlook
  · rw [← stops_iff, ← hparts, hready]
    exact (stops_append_map_ok hlast).symm

/-- Parts of the right shape in front of a connection that fails. -/
theorem answers_stop_iff_failed :
    let rule (label : String) : Rule := ⟨label, "", ""⟩
    let part (labels : List String) : PartPayload := .logic (.rules (labels.map rule))
    let extract := AnswerKind.rules.extract
    let config : TransmitterConfig := {}
    let before : List Hub.Op := [.reserve, .attach 0 "server"]
    let call : Call := ⟨0, 0, ⟨1⟩⟩
    let h := (((Hub.new config).run before).send 0 0 (.logic .getRules) true).2
    let brings (payload : PartPayload) : Turn :=
      .other (.receive 0 (.message (call.message payload)))
    let turns : List Turn :=
      [brings (part ["a", "b"]), .look 0, .other (.receive 0 (.failed (.io "connection reset"))),
        .look 1, .look 2, .look 3]
    let told := (Reading.start h call).told extract turns
    told = [.ok (.rule (rule "a")), .ok (.rule (rule "b")), .error (.io "connection reset")] ∧
      Stops told := by
  intro rule part extract config before call h brings turns told
  have hsend : ((Hub.new config).run before).send 0 0 (.logic .getRules) true = (.ok call, h) :=
    Prod.ext (by decide +kernel) rfl
  have hown : IsOwn call turns := by
    intro other hmem
    simp [turns, brings] at hmem
  obtain ⟨parts, error, hparts, -, -, hstops⟩ := answers_stop_iff .rules config before 0 0
    (.logic .getRules) call h (by decide +kernel) hsend turns hown
  refine ⟨by decide +kernel, hstops.mpr ?_⟩
  rintro front wrong rest rfl hwrong
  have harrived : dataIn (arrived call turns) = [part ["a", "b"]] := by decide +kernel
  have hmem : wrong ∈ dataIn (arrived call turns) :=
    hparts.subset (List.mem_append_right _ List.mem_cons_self)
  rw [harrived, List.mem_singleton] at hmem
  rw [hmem] at hwrong
  cases hwrong

/-- Behind a part of the wrong shape the reading goes on, to an answer and to a second error. -/
theorem wrong_parts_do_not_stop :
    let rule (label : String) : Rule := ⟨label, "", ""⟩
    let wrong : PartPayload := .query (.insert [])
    let extract := AnswerKind.rules.extract
    let call : Call := ⟨0, 0, ⟨1⟩⟩
    let h := (((Hub.new {}).run [.reserve, .attach 0 "server"]).send 0 0 (.logic .getRules) true).2
    let brings (payload : PartPayload) : Turn :=
      .other (.receive 0 (.message (call.message payload)))
    let turns : List Turn :=
      [brings wrong, brings (.logic (.rules [rule "a"])), brings wrong, .look 0, .look 1, .look 2]
    let told := (Reading.start h call).told extract turns
    let refusal : Error := .protocol (.unexpected "get rules" (describe wrong))
    told = [.error refusal, .ok (.rule (rule "a")), .error refusal] ∧ ¬ Stops told := by
  intro rule wrong extract call h brings turns told refusal
  have htold : told = [.error refusal, .ok (.rule (rule "a")), .error refusal] := by
    decide +kernel
  refine ⟨htold, fun hstops => ?_⟩
  cases hstops [] refusal _ htold

end GraphDriver
