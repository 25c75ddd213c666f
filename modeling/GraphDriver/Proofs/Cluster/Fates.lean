import GraphDriver.Proofs.Cluster.Holders

/-!
# What becomes of the sessions of a session of a cluster

A session is opened by a call that moves and is at once the one in use; a call that has moved
closes none any more. Sessions are closed by the calls that have hold of them, by whoever is the
last to let go, and by their pulses. In all these cases but that of a pulse the server is told, as
long as the client of the session is there to tell it.

* §1 what a change does to a session
* §2 paths
-/

namespace GraphDriver.ClusterSession

/-! ## §1  What a change does to a session -/

section Becoming

variable {session s s' : Nat} {errand : Errand} {opened rest held : List Nat} {g g' : Stage}
  {c c₁ c' : Connections} {x : Session} {seen : Connections → Prop}

theorem later_use (hs : s < c.sessions.length) :
    Later c ((c.retainSession s).modifyClusterSession session fun x => { x with current := s }) :=
  (Connections.later_retainSession hs).trans (.of_sessions rfl rfl)

theorem later_endPulse (hs : s < c.sessions.length) (alive : Bool) :
    Later c (c.modifySession s (Session.endPulse alive)) := by
  refine Connections.later_modifySession hs (fun x => ?_) fun x hclosed => ?_
  · cases alive <;> exact ⟨rfl, rfl⟩
  · cases alive with
    | true => exact hclosed
    | false => rfl

/-- Whatever an errand changes leads to a later state. -/
theorem Change.later (h : Change session errand g c g' c')
    (hsound : Sound session opened (g.held ++ rest) c)
    (hpulse : ∀ s, errand = .pulse s → s ∈ opened) : Later c c' := by
  cases h with
  | calm h => exact .of_sessions h.sessions h.farewells
  | take moved held => exact Connections.later_retainSession (hsound.known _ hsound.current)
  | release moved s held =>
      exact Connections.later_releaseSession (hsound.lt List.mem_cons_self)
  | @shut s held hs =>
      have hs : s < c.sessions.length := hsound.lt (List.mem_append_left rest hs)
      cases hopen : (c.session s).isOpen with
      | false => rw [Connections.markClosed_of_closed hopen]; exact .refl c
      | true =>
          rw [Connections.markClosed_of_open hopen]
          exact Connections.later_modifySession hs (fun _ => ⟨rfl, rfl⟩) fun _ _ => rfl
  | land hroams client fresh hopen hholders hidle moved held =>
      refine
        { length := by simp
          same := fun s hs => ?_
          closed := fun s hclosed => ?_
          farewells := ⟨[], (List.append_nil _).symm⟩ }
      · rw [Connections.session_push, if_neg (Nat.ne_of_lt hs)]
        exact ⟨rfl, rfl⟩
      · rwa [Connections.session_push, if_neg (Nat.ne_of_lt (Connections.lt_of_closed hclosed))]
  | move hroams s held =>
      have hs := hsound.lt List.mem_cons_self
      have hold := hsound.use.lt List.mem_cons_self
      exact (later_use hs).trans (Connections.later_releaseSession hold)
  | @pulseStarts s heq c hopen hidle moved held =>
      have hs := hsound.known s (hpulse s heq)
      have hstarts : Later c (c.modifySession s Session.startPulse) :=
        Connections.later_modifySession hs (fun _ => ⟨rfl, rfl⟩) fun _ hclosed => hclosed
      exact hstarts.trans (Connections.later_retainSession (Nat.lt_of_lt_of_le hs hstarts.length))
  | @pulseEnds s heq c hpulsing alive moved held =>
      exact later_endPulse (hsound.known s (hpulse s heq)) alive

/-- Who closes a session is its pulse, or owes its server word of it, or has a farewell said. -/
theorem Change.closes (h : Change session errand g c g' c')
    (hsound : Sound session opened (g.held ++ rest) c)
    (hpulse : ∀ s, errand = .pulse s → s ∈ opened) (hopen : (c.session s).isOpen = true)
    (hclosed : (c'.session s).isOpen = false) :
    errand = .pulse s ∨ (∃ held, g' = .owing s held) ∨ c'.farewells = c.farewells ++
      [{ client := (c'.session s).client, session := (c'.session s).id }] := by
  cases h with
  | calm h =>
      rw [Connections.session, h.sessions, ← Connections.session, hopen] at hclosed
      exact Bool.noConfusion hclosed
  | take moved held =>
      have hcurrent := hsound.known _ hsound.current
      obtain ⟨rfl, hstill⟩ := (Connections.alters_retainSession hcurrent).closes hopen hclosed
      exact absurd (hopen.symm.trans hstill) Bool.noConfusion
  | release moved s held =>
      have hs := hsound.lt List.mem_cons_self
      exact .inr (.inr (Connections.releaseSession_closes hs hopen hclosed))
  | @shut s' held hs' =>
      have hknown := hsound.lt (List.mem_append_left rest hs')
      cases hwas : (c.session s').isOpen with
      | false =>
          rw [Connections.markClosed_of_closed hwas, hopen] at hclosed
          exact Bool.noConfusion hclosed
      | true =>
          rw [Connections.markClosed_of_open hwas] at hclosed ⊢
          obtain ⟨rfl, -⟩ :=
            (Connections.alters_modifySession hknown Session.shut).closes hopen hclosed
          exact .inr (.inl ⟨held, rfl⟩)
  | land hroams client fresh hfresh hholders hidle moved held =>
      rw [Connections.session_push] at hclosed
      split at hclosed
      · exact absurd (hfresh.symm.trans hclosed) Bool.noConfusion
      · exact absurd (hopen.symm.trans hclosed) Bool.noConfusion
  | move hroams fresh held =>
      -- Only the session that is replaced can be closed, as the last hold of it is let go.
      have hfresh := hsound.lt List.mem_cons_self
      have hold := hsound.use.lt List.mem_cons_self
      have hstill : ((c.retainSession fresh).session s).isOpen = true := by
        by_contra hnot
        obtain ⟨rfl, hstill⟩ := (Connections.alters_retainSession hfresh).closes hopen
          (Bool.eq_false_iff.mpr hnot)
        exact absurd (hopen.symm.trans hstill) Bool.noConfusion
      exact .inr (.inr (Connections.releaseSession_closes hold hstill hclosed))
  | @pulseStarts s' heq c hopen' hidle moved held =>
      have hs' := hsound.known s' (hpulse s' heq)
      obtain ⟨rfl, -⟩ := (Connections.alters_startPulse hs').closes hopen hclosed
      exact .inl heq
  | @pulseEnds s' heq c hpulsing alive moved held =>
      have hs' := hsound.known s' (hpulse s' heq)
      obtain ⟨rfl, -⟩ := (Connections.alters_modifySession hs' _).closes hopen hclosed
      exact .inl heq

theorem uses_moveTo (hsound : Sound session opened (s :: held) c) :
    ((moveTo session s c).clusterSession session).current = s := by
  have hold := hsound.use.lt List.mem_cons_self
  have hthere : session < (c.retainSession s).clusterSessions.length := hsound.there
  rw [moveTo, Connections.clusterSession, (Connections.releaseSession_keeps hold).2,
    ← Connections.clusterSession, Connections.clusterSession_modify hthere]

/-- The session of the cluster uses what it used before, unless the errand moves. -/
theorem Change.uses (h : Change session errand g c g' c')
    (hsound : Sound session opened (g.held ++ rest) c) :
    c'.clusterSession session = c.clusterSession session ∨
      errand.roams = true ∧ ∃ s held, g = .landed s held ∧
        (c'.clusterSession session).current = s := by
  have hsame {c c' : Connections} (h : c'.clusterSessions = c.clusterSessions) :
      c'.clusterSession session = c.clusterSession session := by
    rw [Connections.clusterSession, h, Connections.clusterSession]
  cases h with
  | calm h => exact .inl (hsame h.clusterSessions)
  | take moved held => exact .inl rfl
  | release moved s held =>
      have hs := hsound.lt List.mem_cons_self
      exact .inl (hsame (Connections.releaseSession_keeps hs).2)
  | shut hs => exact .inl (hsame Connections.markClosed_keeps.2)
  | land hroams client fresh hopen hholders hidle moved held => exact .inl rfl
  | move hroams s held => exact .inr ⟨hroams, s, held, rfl, uses_moveTo hsound⟩
  | pulseStarts heq hopen hidle moved held => exact .inl rfl
  | pulseEnds heq hpulsing alive moved held => exact .inl rfl

/-- Letting go of a session does not close the one in use. -/
theorem Sound.release_current (h : Sound session opened (s :: held) c)
    (hopen : (c.session (c.clusterSession session).current).isOpen = true) :
    ((c.releaseSession s).session (c.clusterSession session).current).isOpen = true := by
  have hs : s ∈ opened := h.among s List.mem_cons_self
  rw [Connections.session_releaseSession (h.known s hs)]
  split
  · rename_i heq
    have hcounted := h.counted s hs
    rw [holders, if_pos heq, List.count_cons_self] at hcounted
    unfold Session.released
    dsimp only
    rw [if_neg]
    · exact heq ▸ hopen
    · rintro ⟨hlast, -⟩
      omega
  · exact hopen

/-- Whether a call has moved, or is about to. -/
def Stage.moved : Stage → Bool
  | .free moved _ => moved
  | .owing .. => false
  | .landed .. => true

/-- What has landed is open, and so is what is in use instead of the session `s₀`. -/
structure Settled (session s₀ : Nat) (g : Stage) (c : Connections) : Prop where
  fresh : ∀ s held, g = .landed s held → (c.session s).isOpen = true
  current : (c.clusterSession session).current = s₀ ∨
    g.moved = true ∧ (c.session (c.clusterSession session).current).isOpen = true

/-- A call that moves to another session does not close it again. -/
theorem Change.settles {s₀ : Nat} (h : Change session errand g c g' c')
    (hroams : errand.roams = true) (hsound : Sound session opened (g.held ++ rest) c)
    (hsettled : Settled session s₀ g c) : Settled session s₀ g' c' := by
  obtain ⟨hfresh, hcurrent⟩ := hsettled
  have hsame (hnot : ∀ s held, g ≠ .landed s held) :
      c'.clusterSession session = c.clusterSession session := by
    refine (h.uses hsound).resolve_right ?_
    rintro ⟨-, s, held, heq, -⟩
    exact hnot s held heq
  cases h with
  | calm h =>
      refine ⟨fun s held heq => Stage.noConfusion heq, ?_⟩
      rw [hsame fun s held heq => Stage.noConfusion heq, Connections.session, h.sessions]
      exact hcurrent
  | take moved held =>
      refine ⟨fun s held heq => Stage.noConfusion heq, hcurrent.imp_right ?_⟩
      rintro ⟨hmoved, hopen⟩
      refine ⟨hmoved, ?_⟩
      have halters := Connections.alters_retainSession (hsound.known _ hsound.current)
      exact (congrArg Session.isOpen halters.self).trans hopen
  | release moved s held =>
      refine ⟨fun s held heq => Stage.noConfusion heq, ?_⟩
      rw [hsame fun s held heq => Stage.noConfusion heq]
      refine hcurrent.imp_right ?_
      rintro ⟨hmoved, hopen⟩
      exact ⟨hmoved, Sound.release_current hsound hopen⟩
  | shut hs =>
      refine ⟨fun s held heq => ?_, .inl ?_⟩
      · split at heq <;> exact Stage.noConfusion heq
      · rw [hsame fun s held heq => Stage.noConfusion heq]
        rcases hcurrent with hcurrent | ⟨hmoved, -⟩
        · exact hcurrent
        · exact Bool.noConfusion hmoved
  | land hroams client fresh hopen hholders hidle moved held =>
      refine ⟨?_, hcurrent.imp_right ?_⟩
      · rintro _ _ ⟨⟩
        rw [Connections.session_push, if_pos rfl]
        exact hopen
      · rintro ⟨-, hstill⟩
        refine ⟨rfl, ?_⟩
        change (Connections.session _ (c.clusterSession session).current).isOpen = true
        rw [Connections.session_push, if_neg (Nat.ne_of_lt (hsound.known _ hsound.current))]
        exact hstill
  | move hroams s held =>
      -- The new session is held by the session of the cluster, so letting go of the old one, even
      -- if they were the same, does not close it.
      refine ⟨fun s held heq => Stage.noConfusion heq, .inr ⟨rfl, ?_⟩⟩
      rw [uses_moveTo hsound]
      have hs := hsound.lt List.mem_cons_self
      have hthere : session < (c.retainSession s).clusterSessions.length := hsound.there
      have hretained := Connections.alters_retainSession hs
      have hrelease := hsound.use.release_current
      rw [Connections.clusterSession_modify hthere] at hrelease
      exact hrelease ((congrArg Session.isOpen hretained.self).trans (hfresh s held rfl))
  | pulseStarts heq hopen hidle moved held =>
      rw [heq] at hroams
      exact Bool.noConfusion hroams
  | pulseEnds heq hpulsing alive moved held =>
      rw [heq] at hroams
      exact Bool.noConfusion hroams

end Becoming

/-! ## §2  Paths -/

section Paths

variable {session s : Nat} {errand : Errand} {opened rest : List Nat} {g g' : Stage}
  {c c' : Connections} {seen : Connections → Prop}

/-- Along a path the holders are counted right, and what its changes carry on is carried to its
end. -/
theorem carries {P : Stage → Connections → Prop}
    (hpath : (conduct session errand).Path seen g c g' c')
    (hsound : Sound session opened (g.held ++ rest) c)
    (hpulse : ∀ s, errand = .pulse s → s ∈ opened)
    (hchange : ∀ opened g c g' c', Sound session opened (g.held ++ rest) c →
      (∀ s, errand = .pulse s → s ∈ opened) → Change session errand g c g' c' → P g c → P g' c')
    (hnotice : ∀ g c g', (conduct session errand).notice g c g' → seen c → P g c → P g' c)
    (h : P g c) :
    Sound session (opened ++ landed c c') (g'.held ++ rest) c' ∧ Later c c' ∧ P g' c' := by
  induction hpath generalizing opened with
  | refl g c =>
      rw [landed_of_length rfl, List.append_nil]
      exact ⟨hsound, .refl c, h⟩
  | @change g g₁ g' c c₁ c' hfirst later ih =>
      have hsound₁ := hfirst.sound hsound hpulse
      have hlater₁ := hfirst.later hsound hpulse
      obtain ⟨hsound', hlater, hP⟩ :=
        ih hsound₁ (fun s heq => List.mem_append_left _ (hpulse s heq))
          (hchange _ _ _ _ _ hsound hpulse hfirst h)
      rw [List.append_assoc, ← landed_trans hlater₁.length hlater.length] at hsound'
      exact ⟨hsound', hlater₁.trans hlater, hP⟩
  | notice hfirst hseen later ih =>
      have hnoticed := hnotice _ _ _ hfirst hseen h
      obtain ⟨s, held, rfl, rfl, -⟩ := hfirst
      exact ih hsound hpulse hnoticed

theorem path_sound (hpath : (conduct session errand).Path seen g c g' c')
    (hsound : Sound session opened (g.held ++ rest) c)
    (hpulse : ∀ s, errand = .pulse s → s ∈ opened) :
    Sound session (opened ++ landed c c') (g'.held ++ rest) c' ∧ Later c c' := by
  obtain ⟨hsound', hlater, -⟩ := carries (P := fun _ _ => True) hpath hsound hpulse
    (fun _ _ _ _ _ _ _ _ _ => trivial) (fun _ _ _ _ _ _ => trivial) trivial
  exact ⟨hsound', hlater⟩

/-- An errand that does not move leaves the session in use as it is. -/
theorem path_stays (hpath : (conduct session errand).Path seen g c g' c')
    (hsound : Sound session opened (g.held ++ rest) c)
    (hpulse : ∀ s, errand = .pulse s → s ∈ opened) (hroams : errand.roams = false) :
    c'.clusterSession session = c.clusterSession session := by
  refine (carries (P := fun _ c₁ => c₁.clusterSession session = c.clusterSession session) hpath
    hsound hpulse ?_ (fun _ _ _ _ _ h => h) rfl).2.2
  intro opened g₁ c₁ g₂ c₂ hsound _ hchange hsame
  rcases hchange.uses hsound with huses | ⟨hmoves, -⟩
  · exact huses.trans hsame
  · exact Bool.noConfusion (hroams.symm.trans hmoves)

/-- If another session is in use at the end of a path, it is open. -/
theorem path_settles (hpath : (conduct session errand).Path seen g c g' c')
    (hsound : Sound session opened (g.held ++ rest) c)
    (hpulse : ∀ s, errand = .pulse s → s ∈ opened) (hstart : ∀ s held, g ≠ .landed s held) :
    (c'.clusterSession session).current = (c.clusterSession session).current ∨
      (c'.session (c'.clusterSession session).current).isOpen = true := by
  cases hroams : errand.roams with
  | false => exact .inl (congrArg _ (path_stays hpath hsound hpulse hroams))
  | true =>
      have hend : Settled session (c.clusterSession session).current g' c' := by
        refine (carries hpath hsound hpulse ?_ ?_ ?_).2.2
        · exact fun _ _ _ _ _ hsound _ hchange => hchange.settles hroams hsound
        · rintro _ _ _ ⟨s, held, rfl, rfl, -⟩ - ⟨-, hcurrent⟩
          refine ⟨fun s held heq => Stage.noConfusion heq, .inl ?_⟩
          rcases hcurrent with hcurrent | ⟨hmoved, -⟩
          · exact hcurrent
          · exact Bool.noConfusion hmoved
        · exact ⟨fun s held heq => absurd heq (hstart s held), .inl rfl⟩
      exact hend.current.imp_right And.right

/-- Why a session may be closed: its pulse has ended, or its server is owed word of it, or a
farewell is to be said, or there was no client any more to say it. -/
def Accounted (errand : Errand) (seen : Connections → Prop) (before : Connections) (s : Nat)
    (g : Stage) (c : Connections) : Prop :=
  errand = .pulse s ∨ (∃ held, g = .owing s held) ∨
    (∃ more, c.farewells = before.farewells ++ more ∧
      { client := (c.session s).client, session := (c.session s).id } ∈ more) ∨
    ∃ c₁, seen c₁ ∧ c₁.clientIsOpen (c.session s).client = false

/-- Whatever changes leaves the reason for which a session is closed. -/
theorem Change.accounts {before : Connections} (h : Change session errand g c g' c')
    (hlater : Later c c') (hclosed : (c.session s).isOpen = false)
    (haccounted : Accounted errand seen before s g c) : Accounted errand seen before s g' c' := by
  obtain ⟨hid, hclient⟩ := hlater.same s (Connections.lt_of_closed hclosed)
  rcases haccounted with hpulse | ⟨held, rfl⟩ | ⟨more, hmore, hmem⟩ | ⟨c₁, hseen, hshut⟩
  · exact .inl hpulse
  · cases h
  · obtain ⟨more', hmore'⟩ := hlater.farewells
    refine .inr (.inr (.inl ⟨more ++ more', ?_, ?_⟩))
    · rw [hmore', hmore, List.append_assoc]
    · rw [hid, hclient]
      exact List.mem_append_left _ hmem
  · exact .inr (.inr (.inr ⟨c₁, hseen, hclient ▸ hshut⟩))

/-- A session that a change closes is accounted for. -/
theorem Change.accounts_closed {before : Connections} (h : Change session errand g c g' c')
    (hsound : Sound session opened (g.held ++ rest) c)
    (hpulse : ∀ s, errand = .pulse s → s ∈ opened) (hbefore : Later before c)
    (hopen : (c.session s).isOpen = true) (hclosed : (c'.session s).isOpen = false) :
    Accounted errand seen before s g' c' := by
  rcases h.closes hsound hpulse hopen hclosed with hpulse | howing | hsaid
  · exact .inl hpulse
  · exact .inr (.inl howing)
  · obtain ⟨more, hmore⟩ := hbefore.farewells
    rw [hmore, List.append_assoc] at hsaid
    refine .inr (.inr (.inl ⟨_, hsaid, ?_⟩))
    exact List.mem_append_right _ (List.mem_singleton_self _)

/-- Who notices that there is no client to tell a server owes it no word any more, but this accounts
for the session as well. -/
theorem Accounted.noticed {before : Connections} (h : Accounted errand seen before s g c)
    (hnotice : (conduct session errand).notice g c g') (hseen : seen c) :
    Accounted errand seen before s g' c := by
  obtain ⟨s', held, rfl, rfl, hshut⟩ := hnotice
  rcases h with hpulse | ⟨held', heq⟩ | hsaid | hgone
  · exact .inl hpulse
  · obtain ⟨rfl, -⟩ := Stage.owing.inj heq
    exact .inr (.inr (.inr ⟨c, hseen, hshut⟩))
  · exact .inr (.inr (.inl hsaid))
  · exact .inr (.inr (.inr hgone))

/-- A session that is closed along a path is accounted for. -/
theorem path_accounts (hpath : (conduct session errand).Path seen g c g' c')
    (hsound : Sound session opened (g.held ++ rest) c)
    (hpulse : ∀ s, errand = .pulse s → s ∈ opened) (hopen : (c.session s).isOpen = true)
    (hclosed : (c'.session s).isOpen = false) : Accounted errand seen c s g' c' := by
  let P (g₁ : Stage) (c₁ : Connections) : Prop :=
    Later c c₁ ∧ ((c₁.session s).isOpen = false → Accounted errand seen c s g₁ c₁)
  have hstart : P g c := by
    refine ⟨.refl c, fun hnot => ?_⟩
    exact Bool.noConfusion (hopen.symm.trans hnot)
  refine (carries (P := P) hpath hsound hpulse ?_ ?_ hstart).2.2.2 hclosed
  · rintro opened g₁ c₁ g₂ c₂ hsound hpulse hchange ⟨hbefore, haccounted⟩
    have hlater := hchange.later hsound hpulse
    refine ⟨hbefore.trans hlater, fun hshut => ?_⟩
    cases hwas : (c₁.session s).isOpen with
    | false => exact hchange.accounts hlater hwas (haccounted hwas)
    | true => exact hchange.accounts_closed hsound hpulse hbefore hwas hshut
  · rintro g₁ c₁ g₂ hnotice hseen ⟨hbefore, haccounted⟩
    exact ⟨hbefore, fun hshut => (haccounted hshut).noticed hnotice hseen⟩

end Paths

end GraphDriver.ClusterSession
