import GraphDriver.Proofs.Client.Errands

/-!
# Sessions that live

How a session stands between the turns of its errands: once it is closed it does not pulse, as long
as it is open it is held and there is no farewell of it, and there is at most one farewell ever. So
the server may be told at most once that it is closed, and whatever happens this never becomes more.

* §1 what becomes of a session
* §2 a session and its errands
* §3 runs
-/

namespace GraphDriver

namespace Lifecycle

/-! ## §1  What becomes of a session -/

/-- How a session lives: one that is closed does not pulse, one that is open is held and has no
farewell to be said, and there is one farewell at most. -/
structure Lives (s : Nat) (f : Farewell) (c : Connections) : Prop where
  known : s < c.sessions.length
  farewell : c.farewellOf s = f
  idle : (c.session s).isOpen = false → (c.session s).pulsing = false
  kept : (c.session s).isOpen = true → 0 < (c.session s).holders
  silent : (c.session s).isOpen = true → f ∉ c.farewells
  once : c.farewells.count f ≤ 1

/-- How often the server may yet be told that the session is closed. -/
def mayTell (s : Nat) (c : Connections) : Nat :=
  if (c.session s).isOpen then 1 else c.farewells.count (c.farewellOf s)

section Living

variable {s : Nat} {f : Farewell} {c c' : Connections} {move : Move} {said : List SessionId}

theorem mayTell_of_open (hopen : (c.session s).isOpen = true) : mayTell s c = 1 := by
  rw [mayTell, if_pos hopen]

theorem mayTell_of_closed (hclosed : (c.session s).isOpen = false) :
    mayTell s c = c.farewells.count (c.farewellOf s) := by
  rw [mayTell, hclosed, if_neg Bool.false_ne_true]

theorem Lives.beside (h : Lives s f c) (hbeside : Beside s c c') : Lives s f c' where
  known := Nat.lt_of_lt_of_le h.known hbeside.known
  farewell := hbeside.farewellOf.trans h.farewell
  idle := hbeside.session ▸ h.idle
  kept := hbeside.session ▸ h.kept
  silent hopen := by
    have hcount := hbeside.farewells
    rw [h.farewell, List.count_eq_zero.mpr (h.silent (hbeside.session ▸ hopen))] at hcount
    exact List.count_eq_zero.mp hcount
  once := by
    have hcount := hbeside.farewells
    rw [h.farewell] at hcount
    exact hcount ▸ h.once

theorem mayTell_beside (hbeside : Beside s c c') : mayTell s c' = mayTell s c := by
  rw [mayTell, mayTell, hbeside.session, hbeside.farewellOf, hbeside.farewells]

/-- The session is changed, and it stays the same session. -/
theorem Lives.modify (h : Lives s f c) {g : Session → Session}
    (hsame : ∀ x, (g x).client = x.client ∧ (g x).id = x.id)
    (hclosed : ∀ x, (g x).isOpen = true → x.isOpen = true)
    (hidle : (g (c.session s)).isOpen = false → (g (c.session s)).pulsing = false)
    (hkept : (g (c.session s)).isOpen = true → 0 < (g (c.session s)).holders) :
    Lives s f (c.modifySession s g) := by
  have hself : (c.modifySession s g).session s = g (c.session s) :=
    (Connections.alters_modifySession h.known g).self
  refine ⟨?_, ?_, hself ▸ hidle, hself ▸ hkept, fun hopen => ?_, h.once⟩
  · rw [Connections.length_modifySession]
    exact h.known
  · rw [Connections.farewellOf, hself, (hsame _).1, (hsame _).2]
    exact h.farewell
  · rw [hself] at hopen
    exact h.silent (hclosed _ hopen)

/-- A hold of the session is let go of. The last one closes it and leaves a farewell, if it was
open. -/
theorem release_cases (hs : s < c.sessions.length) :
    let x := c.session s
    let less : Session := { x with holders := x.holders - 1 }
    (c.releaseSession s).session s = less ∧ (c.releaseSession s).farewells = c.farewells ∧
        (x.isOpen = true → x.holders - 1 ≠ 0) ∨
      x.isOpen = true ∧ x.holders - 1 = 0 ∧ (c.releaseSession s).session s = less.shut ∧
        (c.releaseSession s).farewells = c.farewells ++ [c.farewellOf s] := by
  intro x less
  have hself := (Connections.alters_releaseSession hs).self
  rcases Connections.releaseSession_cases hs with
    ⟨hmore, h⟩ | ⟨hlast, hopen, h⟩ | ⟨hlast, hclosed, h⟩
  · refine .inl ⟨hself.trans (if_neg fun hnot => hmore hnot.1), ?_, fun _ => hmore⟩
    rw [h]
    rfl
  · refine .inr ⟨hopen, hlast, hself.trans (if_pos ⟨hlast, hopen⟩), ?_⟩
    rw [h]
    rfl
  · refine .inl ⟨hself.trans (if_neg fun hnot => ?_), ?_, fun hopen => ?_⟩
    · exact absurd (hclosed.symm.trans hnot.2) Bool.noConfusion
    · rw [h, (Connections.calm_releaseClient _).farewells]
      rfl
    · exact absurd (hclosed.symm.trans hopen) Bool.noConfusion

theorem Lives.release (h : Lives s f c) :
    Lives s f (c.releaseSession s) ∧ mayTell s (c.releaseSession s) ≤ mayTell s c := by
  have hlength := (Connections.alters_releaseSession h.known).length
  rcases release_cases h.known with ⟨hself, hsaid, hmore⟩ | ⟨hopen, -, hself, hsaid⟩
  · have hfarewell : (c.releaseSession s).farewellOf s = c.farewellOf s := by
      rw [Connections.farewellOf, hself, Connections.farewellOf]
    refine ⟨⟨hlength ▸ h.known, hfarewell.trans h.farewell, ?_, ?_, ?_, ?_⟩, ?_⟩
    · rw [hself]
      exact h.idle
    · rw [hself]
      exact fun hopen => Nat.pos_of_ne_zero (hmore hopen)
    · rw [hself, hsaid]
      exact h.silent
    · rw [hsaid]
      exact h.once
    · refine Nat.le_of_eq ?_
      rw [mayTell, mayTell, hself, hfarewell, hsaid]
  · -- the last hold goes: the session may no longer say that it closes, its farewell may
    have hfarewell : (c.releaseSession s).farewellOf s = c.farewellOf s := by
      rw [Connections.farewellOf, hself]
      rfl
    have hclosed : ((c.releaseSession s).session s).isOpen = false := by
      rw [hself]
      rfl
    have hcount : (c.releaseSession s).farewells.count f = 1 := by
      rw [hsaid, h.farewell, List.count_append, List.count_eq_zero.mpr (h.silent hopen),
        List.count_singleton_self]
    refine ⟨⟨hlength ▸ h.known, hfarewell.trans h.farewell, ?_, ?_, ?_, Nat.le_of_eq hcount⟩, ?_⟩
    · rw [hself]
      exact fun _ => rfl
    · exact fun hstill => absurd (hclosed.symm.trans hstill) Bool.noConfusion
    · exact fun hstill => absurd (hclosed.symm.trans hstill) Bool.noConfusion
    · refine Nat.le_of_eq ?_
      rw [mayTell_of_closed hclosed, mayTell_of_open hopen, hfarewell, h.farewell, hcount]

theorem Lives.pulseStarts (h : Lives s f c) (hopen : (c.session s).isOpen = true) :
    Lives s f (pulseStarts s c) := by
  have hopens : (c.session s).startPulse.isOpen = true := hopen
  have hstarted : Lives s f (c.modifySession s Session.startPulse) :=
    h.modify (fun _ => ⟨rfl, rfl⟩) (fun _ hopen => hopen)
      (fun hclosed => absurd (hopens.symm.trans hclosed) Bool.noConfusion) (fun _ => h.kept hopen)
  exact hstarted.modify (fun _ => ⟨rfl, rfl⟩) (fun _ hopen => hopen) hstarted.idle
    fun _ => Nat.succ_pos _

theorem Lives.endPulse (h : Lives s f c) (alive : Bool) :
    Lives s f (c.modifySession s (Session.endPulse alive)) := by
  cases alive with
  | true =>
      exact h.modify (fun _ => ⟨rfl, rfl⟩) (fun _ hopen => hopen) (fun _ => rfl) h.kept
  | false =>
      exact h.modify (fun _ => ⟨rfl, rfl⟩) (fun _ hopen => nomatch hopen) (fun _ => rfl)
        fun hopen => nomatch hopen

theorem Lives.mayTell_le (h : Lives s f c) : mayTell s c ≤ 1 := by
  rw [mayTell, h.farewell]
  split
  · exact Nat.le_refl 1
  · exact h.once

/-- A session that is closed without a farewell is not spoken of again. -/
theorem Lives.mayTell_modify (h : Lives s f c) (hopen : (c.session s).isOpen = true)
    {g : Session → Session}
    (hsame : ∀ x, (g x).client = x.client ∧ (g x).id = x.id)
    (hclosed : (g (c.session s)).isOpen = false) : mayTell s (c.modifySession s g) = 0 := by
  have hself : (c.modifySession s g).session s = g (c.session s) :=
    (Connections.alters_modifySession h.known g).self
  have hfarewell : (c.modifySession s g).farewellOf s = f := by
    rw [Connections.farewellOf, hself, (hsame _).1, (hsame _).2]
    exact h.farewell
  rw [mayTell_of_closed (hself ▸ hclosed), hfarewell]
  exact List.count_eq_zero.mpr (h.silent hopen)

/-- A farewell is taken of a session that is closed, and it was the only one. -/
theorem Lives.part (h : Lives s f c) (hmem : c.farewellOf s ∈ c.farewells) :
    (c.session s).isOpen = false ∧ mayTell s c = 1 ∧
      Lives s f { c with farewells := c.farewells.erase (c.farewellOf s) } ∧
      mayTell s { c with farewells := c.farewells.erase (c.farewellOf s) } = 0 := by
  have hclosed : (c.session s).isOpen = false :=
    eq_false_of_ne_true fun hopen => h.silent hopen (h.farewell ▸ hmem)
  have hone : c.farewells.count (c.farewellOf s) = 1 :=
    Nat.le_antisymm (h.farewell ▸ h.once) (List.count_pos_iff.mpr hmem)
  have hnone : (c.farewells.erase (c.farewellOf s)).count (c.farewellOf s) = 0 := by
    rw [List.count_erase_self, hone]
  refine ⟨hclosed, (mayTell_of_closed hclosed).trans hone, ?_, ?_⟩
  · refine ⟨h.known, h.farewell, h.idle, h.kept, fun hopen => ?_, ?_⟩
    · exact absurd (hclosed.symm.trans hopen) Bool.noConfusion
    · exact Nat.le_trans (List.erase_sublist.count_le f) h.once
  · exact (if_neg (Bool.eq_false_iff.mp hclosed)).trans hnone

/-- After a turn the session lives as before. It has not been opened again, and what the server was
told was to be told. -/
theorem Becomes.lives (hb : Becomes s c move said c') (h : Lives s f c) :
    Lives s f c' ∧ ((c.session s).isOpen = false → (c'.session s).isOpen = false) ∧
      (∀ id ∈ said, id = f.session) ∧ said.length + mayTell s c' ≤ mayTell s c := by
  have hid : (c.session s).id = f.session := congrArg Farewell.session h.farewell
  have hsay (b : Bool) : (∀ id ∈ if b then [(c.session s).id] else [], id = f.session) ∧
      (if b then [(c.session s).id] else []).length ≤ 1 := by
    cases b with
    | false => exact ⟨List.forall_mem_nil _, Nat.zero_le 1⟩
    | true => exact ⟨List.forall_mem_singleton.mpr hid, Nat.le_refl 1⟩
  have hnot {P : Prop} (hopen : (c.session s).isOpen = true)
      (hclosed : (c.session s).isOpen = false) : P :=
    absurd (hopen.symm.trans hclosed) Bool.noConfusion
  cases hb with
  | beside move hbeside =>
      refine ⟨h.beside hbeside, fun hclosed => ?_, List.forall_mem_nil _, ?_⟩
      · rw [hbeside.session]
        exact hclosed
      · refine Nat.le_of_eq ?_
        rw [mayTell_beside hbeside, List.length_nil, Nat.zero_add]
  | shut hopen hhandle =>
      have hnone : mayTell s (c.modifySession s Session.shut) = 0 :=
        h.mayTell_modify hopen (fun _ => ⟨rfl, rfl⟩) rfl
      refine ⟨?_, hnot hopen, (hsay _).1, ?_⟩
      · exact h.modify (fun _ => ⟨rfl, rfl⟩) (fun _ hopen => nomatch hopen) (fun _ => rfl)
          fun hopen => nomatch hopen
      · rw [hnone, mayTell_of_open hopen]
        exact (hsay _).2
  | starts hopen hidle =>
      have hstarted := h.pulseStarts hopen
      refine ⟨hstarted, hnot hopen, List.forall_mem_nil _, ?_⟩
      rw [List.length_nil, Nat.zero_add, mayTell_of_open hopen]
      exact hstarted.mayTell_le
  | ends hpulsing alive =>
      -- closing calls a pulse off, so the session of a pulse that is heard is open
      have hopen : (c.session s).isOpen = true :=
        eq_true_of_ne_false fun hclosed =>
          absurd (hpulsing.symm.trans (h.idle hclosed)) Bool.noConfusion
      have hended := ((h.endPulse alive).release).1
      refine ⟨hended, hnot hopen, List.forall_mem_nil _, ?_⟩
      rw [List.length_nil, Nat.zero_add, mayTell_of_open hopen]
      exact hended.mayTell_le
  | fails hopen hidle =>
      have hended := (((h.pulseStarts hopen).endPulse false).release).1
      refine ⟨hended, hnot hopen, List.forall_mem_nil _, ?_⟩
      rw [List.length_nil, Nat.zero_add, mayTell_of_open hopen]
      exact hended.mayTell_le
  | parts hmem hbeside =>
      obtain ⟨hclosed, hone, htaken, hnone⟩ := h.part hmem
      refine ⟨htaken.beside hbeside, fun _ => ?_, (hsay _).1, ?_⟩
      · rw [hbeside.session]
        exact hclosed
      · rw [mayTell_beside hbeside, hnone, hone]
        exact (hsay _).2
  | shares hhandle =>
      have hself := (Connections.alters_retainSession h.known).self
      have hshared : Lives s f (c.retainSession s) :=
        h.modify (fun _ => ⟨rfl, rfl⟩) (fun _ hopen => hopen) h.idle fun _ => Nat.succ_pos _
      refine ⟨hshared, fun hclosed => ?_, List.forall_mem_nil _, ?_⟩
      · rw [hself]
        exact hclosed
      · rw [List.length_nil, Nat.zero_add, mayTell, mayTell, Connections.farewellOf, hself,
          Connections.farewellOf]
        exact Nat.le_refl _
  | drops hhandle =>
      obtain ⟨hdropped, hless⟩ := h.release
      refine ⟨hdropped, fun hclosed => ?_, List.forall_mem_nil _, ?_⟩
      · exact (Connections.later_releaseSession h.known).closed s hclosed
      · rw [List.length_nil, Nat.zero_add]
        exact hless

/-- Only a call that closes the session and its farewell tell the server of it. -/
theorem Becomes.silent (hb : Becomes s c move said c') (hclose : move ≠ .begins .close)
    (hfarewell : move ≠ .begins .farewell) : said = [] := by
  cases hb with
  | beside move h => rfl
  | shut hopen hhandle => exact absurd rfl hclose
  | starts hopen hidle => rfl
  | fails hopen hidle => rfl
  | ends hpulsing alive => rfl
  | parts hmem h => exact absurd rfl hfarewell
  | shares hhandle => rfl
  | drops hhandle => rfl

/-- A session that is parting is, until its farewell is taken. -/
theorem Becomes.parting (hb : Becomes s c move said c') (h : Lives s f c)
    (hmove : move ≠ .begins .farewell)
    (hparting : (c.session s).isOpen = false ∧ c.farewellOf s ∈ c.farewells) :
    (c'.session s).isOpen = false ∧ c'.farewellOf s ∈ c'.farewells := by
  obtain ⟨hclosed, hmem⟩ := hparting
  refine ⟨(hb.lives h).2.1 hclosed, ?_⟩
  have hnot {P : Prop} (hopen : (c.session s).isOpen = true) : P :=
    absurd (hopen.symm.trans hclosed) Bool.noConfusion
  cases hb with
  | beside move hbeside =>
      rw [hbeside.farewellOf, ← List.count_pos_iff, hbeside.farewells]
      exact List.count_pos_iff.mpr hmem
  | shut hopen hhandle => exact hnot hopen
  | starts hopen hidle => exact hnot hopen
  | fails hopen hidle => exact hnot hopen
  | ends hpulsing alive => exact absurd (hpulsing.symm.trans (h.idle hclosed)) Bool.noConfusion
  | parts hmem hbeside => exact absurd rfl hmove
  | shares hhandle =>
      rw [Connections.farewellOf, (Connections.alters_retainSession h.known).self]
      exact hmem
  | drops hhandle =>
      rcases release_cases h.known with ⟨hself, hsaid, -⟩ | ⟨hopen, -⟩
      · rw [Connections.farewellOf, hself, hsaid]
        exact hmem
      · exact hnot hopen

/-- A session without handles is as it was until its pulse is answered. -/
theorem Becomes.lingers (hb : Becomes s c move said c') (h : Lives s f c)
    (hmove : ∀ alive, move ≠ .answered alive) (hopen : (c.session s).isOpen = true)
    (hhandles : (c.session s).handles = 0) : c'.session s = c.session s := by
  have hnot {P : Prop} (hhandle : 0 < (c.session s).handles) : P :=
    absurd hhandles (Nat.ne_of_gt hhandle)
  have hidle {P : Prop} (hidle : (c.session s).pulsing = false) : P :=
    hnot (by rw [Session.handles, hidle, if_neg Bool.false_ne_true]; exact h.kept hopen)
  cases hb with
  | beside move hbeside => exact hbeside.session
  | shut hopen hhandle => exact hnot hhandle
  | starts hopen hstill => exact hidle hstill
  | fails hopen hstill => exact hidle hstill
  | ends hpulsing alive => exact absurd rfl (hmove alive)
  | parts hmem hbeside => exact absurd (h.farewell ▸ hmem) (h.silent hopen)
  | shares hhandle => exact hnot hhandle
  | drops hhandle => exact hnot hhandle

/-- A session that a failed pulse closes is not spoken of again. -/
theorem mayTell_of_failed (h : Lives s f c) (hopen : (c.session s).isOpen = true)
    (hpulsing : (c.session s).pulsing = true) : mayTell s (pulseEnds s false c) = 0 := by
  have hself : (c.modifySession s (Session.endPulse false)).session s =
      Session.endPulse false (c.session s) :=
    (Connections.alters_modifySession h.known _).self
  have hnone : mayTell s (c.modifySession s (Session.endPulse false)) = 0 :=
    h.mayTell_modify hopen (fun _ => ⟨rfl, rfl⟩) rfl
  rw [pulseEnds, if_pos hpulsing]
  exact Nat.le_zero.mp (hnone ▸ (h.endPulse false).release.2)

/-- The last hold of a session that is open goes, and its farewell is to be said. -/
theorem Lives.release_last (h : Lives s f c) (hopen : (c.session s).isOpen = true)
    (hlast : (c.session s).holders = 1) :
    ((c.releaseSession s).session s).isOpen = false ∧
      (c.releaseSession s).farewellOf s ∈ (c.releaseSession s).farewells := by
  rcases release_cases h.known with ⟨-, -, hmore⟩ | ⟨-, -, hself, hsaid⟩
  · exact absurd (by rw [hlast]) (hmore hopen)
  · rw [Connections.farewellOf, hself, hsaid]
    exact ⟨rfl, List.mem_append_right _ (List.mem_singleton.mpr rfl)⟩

end Living

/-! ## §2  A session and its errands -/

/-- A session and what is under way with it. -/
abbrev Life := Scene Errand Outcome

/-- What can happen next. -/
abbrev Turn := Scene.Turn Errand

namespace Life

variable (s : Nat) (x : Life)

abbrev next (turn : Turn) : Life := Scene.step (Errand.program s) x turn

abbrev after (turns : List Turn) : Life := Scene.run (Errand.program s) x turns

abbrev asked? (turn : Turn) : Option Effect := Scene.asked? (Errand.program s) x turn

/-- The session. -/
def session : Session := x.connections.session s

/-- Whether the client of the session may be used. -/
def clientIsOpen : Bool := x.connections.clientIsOpen (x.session s).client

/-- What the server is told of the session in a turn: that a session is closed. -/
def said (turn : Turn) : List SessionId := ((x.asked? s turn).bind Effect.closes?).toList

/-- What the server is told of the session in a run. -/
def told (turns : List Turn) : List SessionId :=
  Run.log (Scene.step (Errand.program s)) (said s) x turns

/-- The session is closed, and its farewell is to be said. -/
def IsParting : Prop :=
  (x.session s).isOpen = false ∧ x.connections.farewellOf s ∈ x.connections.farewells

/-- The answer to a pulse that is under way, if it comes in a turn: whether it is a sign of life. -/
def pulseAnswer? : Turn → Option Bool
  | .learns i reply =>
    match x.calls[i]? with
    | some (.pulse, .waiting e _ _) => some (e.showsLife (reply e))
    | _ => none
  | .begins _ | .leaves _ | .others _ => none

/-- A pulse of the session fails in a turn: its answer is no sign of life, or there is no client to
ask. -/
def FailsPulse (turn : Turn) : Prop :=
  (x.session s).pulsing = true ∧ x.pulseAnswer? turn = some false ∨
    turn = .begins .pulse ∧ x.clientIsOpen s = false

/-- A session was opened, and nothing is under way with it yet. -/
structure IsOpened : Prop where
  calls : x.calls = []
  known : s < x.connections.sessions.length
  isOpen : (x.session s).isOpen = true
  idle : (x.session s).pulsing = false
  held : 0 < (x.session s).holders
  silent : x.connections.farewellOf s ∉ x.connections.farewells

/-- Errands begin when they may, and nobody gives up a pulse or a farewell. Others leave the session
alone; they may well close its client. -/
def IsProper : Turn → Prop
  | .begins errand => errand.MayBegin (x.session s)
  | .learns .. => True
  | .leaves i => ∀ errand standing, x.calls[i]? = some (errand, standing) →
    errand ≠ .pulse ∧ errand ≠ .farewell
  | .others change => Beside s x.connections (change x.connections)

def IsFair (turns : List Turn) : Prop :=
  Run.Each (fun pre turn => IsProper s (x.after s pre) turn) turns

/-- What a turn is to the session. -/
def move : Turn → Move
  | .begins errand => .begins errand
  | .learns i reply => ((x.pulseAnswer? (.learns i reply)).map Move.answered).getD .other
  | .leaves _ | .others _ => .other

/-- The last handle of a session that is open goes. The pulse that is under way then, if there is
one, is answered with a sign of life. -/
inductive Departs : List Turn → Prop
  | idle (hopen : (x.session s).isOpen = true) (hlast : (x.session s).handles = 1)
      (hidle : (x.session s).pulsing = false) : Departs [.begins .drop]
  | pulsing (hopen : (x.session s).isOpen = true) (hlast : (x.session s).handles = 1)
      (hpulsing : (x.session s).pulsing = true) {between : List Turn} {answer : Turn}
      (hwaits : Run.Each (fun pre turn =>
        ((x.next s (.begins .drop)).after s pre).pulseAnswer? turn = none) between)
      (halive : ((x.next s (.begins .drop)).after s between).pulseAnswer? answer = some true) :
      Departs (.begins .drop :: between ++ [answer])

end Life

/-! ## §3  Runs -/

open Life

/-- A session lives, and the calls that are under way stand as they should. -/
structure Orderly (s : Nat) (f : Farewell) (x : Life) : Prop where
  lives : Lives s f x.connections
  stands : ∀ call ∈ x.calls, Stands s call

section Running

variable {s : Nat} {f : Farewell} {x : Life} {turn : Turn} {turns : List Turn}

theorem after_snoc (turns : List Turn) (turn : Turn) :
    x.after s (turns ++ [turn]) = (x.after s turns).next s turn :=
  Scene.run_snoc ..

/-- Whoever gives up a call leaves the session alone. -/
theorem beside_of_left {errand : Errand} {e : Effect} {abandoned : Connections → Connections}
    {next : e.Reply → Program Outcome} (hstands : Stands s (errand, .waiting e abandoned next))
    (hmay : errand ≠ .pulse) (c : Connections) : Beside s c (abandoned c) := by
  cases errand with
  | transaction transactionType options =>
      obtain ⟨g', hleads, -⟩ := hstands.1 c
      have hpath : (aside s).Path (fun _ => True) () c g' (abandoned c) := hleads.path
      exact path_beside hpath
  | pulse => exact absurd rfl hmay
  | close => exact hstands.1 c
  | farewell => exact hstands.1 c
  | share => exact hstands.1 c
  | drop => exact hstands.1 c

/-- A call that goes on in a turn goes on as it stands, or as far as it can if it begins. -/
theorem Orderly.goes (h : Orderly s f x) (hproper : x.IsProper s turn) {i : Nat} {errand : Errand}
    {p : Program Outcome} (hgoing : Scene.going? (Errand.program s) x turn = some (i, errand, p)) :
    Goes s x.connections (x.move turn) errand (p.advance x.connections) := by
  cases turn with
  | begins errand' =>
      obtain ⟨rfl, rfl, rfl⟩ := hgoing
      exact goes_begins h.lives.known hproper
  | learns j reply =>
      rw [Scene.going?] at hgoing
      split at hgoing
      · rename_i errand' e abandoned next hcall
        obtain ⟨rfl, rfl, rfl⟩ := hgoing
        refine goes_learns (h.stands _ (List.mem_of_getElem? hcall)) _ _ ?_
        rintro rfl
        rw [Life.move, Life.pulseAnswer?, hcall]
        rfl
      · cases hgoing
  | leaves j => cases hgoing
  | others change => cases hgoing

/-- The calls still stand as they should after a turn: they did, or they were given up in it, or it
is the one that went on. -/
theorem Orderly.stands_next (h : Orderly s f x) (hproper : x.IsProper s turn) :
    ∀ call ∈ (x.next s turn).calls, Stands s call := by
  intro call hcall
  rcases Scene.mem_calls_step hcall with hmem | hgiven | ⟨i, errand, p, hgoing, rfl⟩
  · exact h.stands call hmem
  · obtain ⟨errand, standing⟩ := call
    cases hgiven
    cases errand <;> trivial
  · exact (h.goes hproper hgoing).2.1

/-- A turn in which no call goes on leaves the session alone. -/
theorem Orderly.beside_next (h : Orderly s f x) (hproper : x.IsProper s turn)
    (hgoing : Scene.going? (Errand.program s) x turn = none) :
    Beside s x.connections (x.next s turn).connections := by
  cases turn with
  | begins errand => cases hgoing
  | learns i reply =>
      rw [Life.next, Scene.step_of_deaf hgoing]
      exact .refl s _
  | leaves i =>
      rw [Life.next, Scene.step_leaves]
      split
      · rename_i errand e abandoned next hcall
        exact beside_of_left (h.stands _ (List.mem_of_getElem? hcall)) (hproper _ _ hcall).1 _
      · exact .refl s _
  | others change => exact hproper

/-- **One turn.** -/
theorem Orderly.step (h : Orderly s f x) (hproper : x.IsProper s turn) :
    Becomes s x.connections (x.move turn) (x.said s turn) (x.next s turn).connections ∧
      Orderly s f (x.next s turn) ∧
      ∀ e, x.asked? s turn = some e → e.isPulse = true → (x.session s).isOpen = true := by
  have hstands := h.stands_next hproper
  cases hgoing : Scene.going? (Errand.program s) x turn with
  | some call =>
      obtain ⟨i, errand, p⟩ := call
      obtain ⟨hbecomes, -, hpulse⟩ := h.goes hproper hgoing
      obtain ⟨hstep, -, hasked⟩ := Scene.step_of_going hgoing
      have hsaid : Becomes s x.connections (x.move turn) (x.said s turn)
          (x.next s turn).connections := by
        rw [Life.said, Life.asked?, hasked, Life.next, hstep]
        exact hbecomes
      refine ⟨hsaid, ⟨(hsaid.lives h.lives).1, hstands⟩, fun e he => ?_⟩
      rw [Life.asked?, hasked] at he
      exact hpulse e he
  | none =>
      have hbeside := h.beside_next hproper hgoing
      have hsilent : x.asked? s turn = none := by
        rw [Life.asked?, Scene.asked?, hgoing]
        rfl
      refine ⟨?_, ⟨h.lives.beside hbeside, hstands⟩, fun e he => ?_⟩
      · rw [Life.said, hsilent]
        exact .beside _ hbeside
      · exact nomatch hsilent.symm.trans he

theorem Life.IsOpened.orderly (hx : x.IsOpened s) : Orderly s (x.connections.farewellOf s) x where
  lives :=
    { known := hx.known
      farewell := rfl
      idle := fun _ => hx.idle
      kept := fun _ => hx.held
      silent := fun _ => hx.silent
      once := by
        rw [List.count_eq_zero.mpr hx.silent]
        exact Nat.zero_le 1 }
  stands call hcall := by
    rw [hx.calls] at hcall
    exact absurd hcall List.not_mem_nil

theorem orderly_after (hx : x.IsOpened s) (hfair : x.IsFair s turns) :
    Orderly s (x.connections.farewellOf s) (x.after s turns) := by
  induction turns using List.reverseRecOn with
  | nil => exact hx.orderly
  | append_singleton turns turn ih =>
      rw [after_snoc]
      exact ((ih (Run.Each.front hfair)).step (Run.Each.last hfair)).2.1

theorem told_snoc (turns : List Turn) (turn : Turn) :
    x.told s (turns ++ [turn]) = x.told s turns ++ (x.after s turns).said s turn :=
  Run.log_snoc ..

theorem told_append (turns later : List Turn) :
    x.told s (turns ++ later) = x.told s turns ++ (x.after s turns).told s later :=
  Run.log_append ..

/-- In a run a session that is closed is not opened again. What the server has been told of it and
what it may yet be told is at most one message, and about this session. -/
theorem Orderly.told (h : Orderly s f x) (hfair : x.IsFair s turns) :
    ((x.session s).isOpen = false → ((x.after s turns).session s).isOpen = false) ∧
      (∀ id ∈ x.told s turns, id = f.session) ∧
      (x.told s turns).length + mayTell s (x.after s turns).connections ≤
        mayTell s x.connections ∧ Orderly s f (x.after s turns) := by
  induction turns using List.reverseRecOn with
  | nil =>
      refine ⟨id, List.forall_mem_nil _, ?_, h⟩
      rw [show x.told s [] = [] from rfl, List.length_nil, Nat.zero_add]
      exact Nat.le_refl _
  | append_singleton turns turn ih =>
      obtain ⟨hclosed, hids, htold, horderly⟩ := ih (Run.Each.front hfair)
      obtain ⟨hbecomes, hnext, -⟩ := horderly.step (Run.Each.last hfair)
      obtain ⟨-, hshuts, hsaid, hless⟩ := hbecomes.lives horderly.lives
      rw [told_snoc, after_snoc]
      refine ⟨fun hshut => hshuts (hclosed hshut), List.forall_mem_append.mpr ⟨hids, hsaid⟩, ?_,
        hnext⟩
      rw [List.length_append]
      omega

theorem isFair_split {pre post : List Turn} (hfair : x.IsFair s (pre ++ post)) :
    x.IsFair s pre ∧ (x.after s pre).IsFair s post := by
  refine ⟨Run.Each.front hfair, ?_⟩
  rintro before turn rest rfl
  have hproper : IsProper s (x.after s (pre ++ before)) turn :=
    hfair (pre ++ before) turn rest (List.append_assoc ..).symm
  have hafter : x.after s (pre ++ before) = (x.after s pre).after s before := List.foldl_append
  rwa [hafter] at hproper

theorem Life.IsFair.begins (hfair : x.IsFair s turns) (errand : Errand)
    (hmay : errand.MayBegin ((x.after s turns).session s)) :
    x.IsFair s (turns ++ [.begins errand]) :=
  Run.Each.concat hfair hmay

theorem Life.IsFair.learns (hfair : x.IsFair s turns) (i : Nat) (reply : (e : Effect) → e.Reply) :
    x.IsFair s (turns ++ [.learns i reply]) :=
  Run.Each.concat hfair trivial

theorem Life.IsFair.others (hfair : x.IsFair s turns) {change : Connections → Connections}
    (hbeside : ∀ c, Beside s c (change c)) : x.IsFair s (turns ++ [.others change]) :=
  Run.Each.concat hfair (hbeside _)

end Running

end Lifecycle

end GraphDriver
