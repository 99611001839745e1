import FluentSql.Proofs.Turns

/-!
# Courses of turns

What each turn keeps, a course of turns keeps. A turn may be two moves, so what is to be kept is
shown of moves.

Tasks that run all at once follow one of the courses, so what is proved of all courses is true of it
(`Tasks.exists_run_of_together`).
-/

namespace FluentSql.Gateway

open FluentSql

namespace Tasks

/-- The tasks that enter during some turns, in this order. -/
def entered (turns : List Turn) : List ℕ :=
  turns.flatMap Turn.entered

/-- The tasks whose workers end during some turns. -/
def finished (turns : List Turn) : List ℕ :=
  turns.flatMap Turn.finished

theorem run?_append (s : Tasks) (turns later : List Turn) :
    s.run? (turns ++ later) = (s.run? turns).bind fun m ↦ m.run? later :=
  List.foldlM_append

/-- A course of turns, cut in two. -/
theorem exists_of_run_append {s s' : Tasks} {turns later : List Turn}
    (h : s.run? (turns ++ later) = some s') :
    ∃ m, s.run? turns = some m ∧ m.run? later = some s' := by
  rw [run?_append] at h
  exact Option.bind_eq_some_iff.1 h

theorem exists_of_run_cons {s s' : Tasks} {turn : Turn} {later : List Turn}
    (h : s.run? (turn :: later) = some s') :
    ∃ m, s.step? turn = some m ∧ m.run? later = some s' :=
  Option.bind_eq_some_iff.1 h

/-- What each of some turns keeps, with the turns that have been, all of them keep. -/
theorem of_run {P : List Turn → Tasks → Prop} {turns : List Turn} {s' : Tasks} :
    ∀ {before : List Turn} {s : Tasks}, P before s → s.run? turns = some s' →
      (∀ before turn s s', turn ∈ turns → P before s → s.step? turn = some s' →
        P (before ++ [turn]) s') →
      P (before ++ turns) s' := by
  induction turns with
  | nil =>
    intro before s hs hrun _
    obtain rfl := Option.some.inj hrun
    simpa using hs
  | cons turn later ih =>
    intro before s hs hrun hstep
    obtain ⟨m, hturn, hlater⟩ := exists_of_run_cons hrun
    have hm := hstep before turn s m (by simp) hs hturn
    simpa using ih hm hlater fun before turn s s' hmem ↦ hstep before turn s s' (by simp [hmem])

/-- What every move keeps, a turn keeps. -/
theorem of_step {P : Tasks → Prop} {s s' : Tasks} {turn : Turn} (h : s.step? turn = some s')
    (hs : P s)
    (hmoves : ∀ turn' i s s', turn' = turn ∨ turn' = .wake → P s → Moves s turn' i s' → P s') :
    P s' := by
  obtain ⟨i, hone | ⟨m, k, rfl, hpick, hwake⟩⟩ := moves_of_step h
  · exact hmoves turn i s s' (Or.inl rfl) hs hone
  · exact hmoves .wake k m s' (Or.inr rfl) (hmoves _ i s m (Or.inl rfl) hs hpick) hwake

/-- What a task that enters brings about, and what stays, is so after the turn. -/
theorem of_enter {P : Tasks → Prop} {s s' : Tasks} {i : ℕ} (h : s.step? (.enter i) = some s')
    (henter : ∀ k m, Moves s (.enter i) k m → P m)
    (hstays : ∀ k m m', P m → Moves m .wake k m' → P m') : P s' := by
  obtain ⟨k, hone | ⟨m, k', -, hpick, hwake⟩⟩ := moves_of_step h
  · exact henter k s' hone
  · exact hstays k' m s' (henter k m hpick) hwake

/-- What every move keeps stays. -/
theorem stays_of_run {P : Tasks → Prop} {s s' : Tasks} {turns : List Turn} (hs : P s)
    (hrun : s.run? turns = some s') (hstays : ∀ turn k m m', P m → Moves m turn k m' → P m') :
    P s' := by
  refine @of_run (fun _ ↦ P) turns s' [] s hs hrun fun _ turn m m' _ hm hstep ↦ ?_
  exact of_step hstep hm fun turn' k m m' _ hm hmoves ↦ hstays turn' k m m' hm hmoves

/-! ### All at once -/

/-- A course of turns leads from here to there. -/
def Leads (s s' : Tasks) : Prop :=
  ∃ turns, s.run? turns = some s'

namespace Leads

theorem refl (s : Tasks) : Leads s s :=
  ⟨[], rfl⟩

theorem trans {s m s' : Tasks} (h : Leads s m) (h' : Leads m s') : Leads s s' := by
  obtain ⟨turns, hrun⟩ := h
  obtain ⟨later, hlater⟩ := h'
  refine ⟨turns ++ later, ?_⟩
  rw [run?_append]
  exact Option.bind_eq_some_iff.2 ⟨m, hrun, hlater⟩

theorem step {s s' : Tasks} (turn : Turn) (h : s.step? turn = some s') : Leads s s' :=
  ⟨[turn], Option.bind_eq_some_iff.2 ⟨s', h, rfl⟩⟩

theorem wakeAll (n : ℕ) (s : Tasks) : Leads s (wakeAll n s) := by
  induction n generalizing s with
  | zero => exact refl s
  | succ n ih =>
    rw [Tasks.wakeAll]
    split
    · next m hwake => exact (step .wake hwake).trans (ih m)
    · exact refl s

theorem complete {s s' : Tasks} {i : ℕ} (h : s.complete i = some s') : Leads s s' := by
  obtain ⟨m, hfinish, hrest⟩ := Option.bind_eq_some_iff.1 h
  obtain ⟨m', hresume, hwake⟩ := Option.bind_eq_some_iff.1 hrest
  obtain rfl := Option.some.inj hwake
  exact ((step (.finish i) hfinish).trans (step (.resume i) hresume)).trans
    (wakeAll _ m')

theorem settle (n : ℕ) (s : Tasks) : Leads s (settle n s) := by
  induction n generalizing s with
  | zero => exact refl s
  | succ n ih =>
    rw [Tasks.settle]
    split
    · next i job _ =>
      rcases hcomplete : s.complete i with _ | m
      · exact ih s
      · exact (complete hcomplete).trans (ih m)
    · exact refl s

theorem enterAll (l : List ℕ) (s : Tasks) : Leads s (l.foldl (fun s i ↦ (s.enter i).getD s) s) := by
  induction l generalizing s with
  | nil => exact refl s
  | cons i l ih =>
    rcases henter : s.enter i with _ | m
    · simpa [henter] using ih s
    · simpa [henter] using (step (.enter i) henter).trans (ih m)

end Leads

/-- Tasks that run all at once follow a course of turns. -/
theorem exists_run_of_together (gateway : Connection) (tasks : List Task) :
    ∃ turns s, (start gateway tasks).run? turns = some s ∧
      together gateway tasks = (s.tasks.map resultOf, s.gateway) := by
  obtain ⟨turns, hrun⟩ := (Leads.enterAll (List.range tasks.length) (start gateway tasks)).trans
    (Leads.settle tasks.length _)
  exact ⟨turns, _, hrun, rfl⟩

end Tasks

end FluentSql.Gateway
