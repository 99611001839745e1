import FluentSql.Proofs.ConnectionLife
import FluentSql.Proofs.Quiet

/-!
# The life cycle of a shared connection among tasks

What is true of tasks that share a connection, after any course of turns (`Tasks.Serialised`).

Most of it is an invariant, but some of it is about the state at the beginning of a turn: what a
task picks up, and whether it is refused. There the course is cut at this turn, and what the turn
has brought about stays until the end.
-/

namespace FluentSql.Gateway

open FluentSql

namespace Tasks

/-! ### What a turn leaves for good -/

/-- A task that is done stays as it is, and begins nothing more. -/
theorem Moves.done {s s' : Tasks} {turn : Turn} {k i : ℕ} (h : Moves s turn k s') {t : Task}
    {result : Except Fault Value} {jobs : List Job}
    (hi : s.tasks[i]? = some (t, .done result) ∧ own s.begun i = jobs) :
    s'.tasks[i]? = some (t, .done result) ∧ own s'.begun i = jobs := by
  rcases eq_or_ne k i with rfl | hne
  · cases h <;> simp_all
  · obtain ⟨htask, -, hbegun, -⟩ := h.of_ne hne
    exact ⟨htask.trans hi.1, hbegun.trans hi.2⟩

/-- A task that has entered picks up nothing more. -/
theorem Moves.picked {s s' : Tasks} {turn : Turn} {k i : ℕ} (h : Moves s turn k s')
    (hi : ∀ t, s.tasks[i]? ≠ some (t, .fresh)) :
    (∀ t, s'.tasks[i]? ≠ some (t, .fresh)) ∧ own s'.picked i = own s.picked i := by
  rcases eq_or_ne k i with rfl | hne
  · cases h with
    | idles hk | opens hk | picks hk => exact absurd hk (hi _)
    | unread _ _ hk | finishes hk | resumes hk => simp [setPhase, hk]
    | granted _ _ hk => simp [begin, setPhase, hk]
  · obtain ⟨htask, hpicked, -⟩ := h.of_ne hne
    exact ⟨by rwa [htask], hpicked⟩

theorem Moves.held_of_wake {s s' : Tasks} {k : ℕ} (h : Moves s .wake k s') :
    s'.gateway.held = s.gateway.held := by
  cases h <;> rfl

/-- At some time nothing is held. -/
def Unheld (tasks : List Task) (s : Tasks) : Prop :=
  (∃ entered finished, Kept tasks entered finished s) ∧ s.gateway.held = none

/-- Only a connect that goes on takes hold of a connection. -/
theorem Unheld.moves {tasks : List Task} {s s' : Tasks} {turn : Turn} {k : ℕ}
    (h : Unheld tasks s) (hmoves : Moves s turn k s')
    (hturn : ∀ k, turn = .resume k → tasks[k]? ≠ some .connect) : Unheld tasks s' := by
  obtain ⟨⟨entered, finished, hkept⟩, hnone⟩ := h
  refine ⟨⟨_, _, hkept.moves hmoves⟩, ?_⟩
  cases hmoves with
  | idles | opens | unread | granted => exact hnone
  | picks hi ht hheld => simp [hnone] at hheld
  | @finishes _ t job hi => exact (s.gateway.work_keeps job).1.trans hnone
  | @resumes _ t job result hi =>
    rcases s.gateway.conclude_held job result with hheld | ⟨id, rfl, -⟩
    · exact hheld.trans hnone
    · have hstands := hkept.standing k
      rw [hi] at hstands
      obtain rfl := hstands.eq_connect rfl
      exact absurd (hkept.task_eq hi) (hturn k rfl)

/-- A task that enters picks up the connection that is held, unless it is a connect. -/
theorem Moves.enters {s s' : Tasks} {i k : ℕ} (h : Moves s (.enter i) k s') {tasks : List Task}
    {entered finished : List ℕ} (hkept : Kept tasks entered finished s) :
    (∀ t, s'.tasks[i]? ≠ some (t, .fresh)) ∧
      ∀ id, id ∈ own s'.picked i ↔ s.gateway.held = some id ∧ tasks[i]? ≠ some .connect := by
  cases h with
  | @idles _ t result hi hidle =>
    have hstands := hkept.standing i
    rw [hi] at hstands
    refine ⟨by simp [setPhase, hi], fun id ↦ ?_⟩
    have hidle' : ¬ (s.gateway.held = some id ∧ t ≠ .connect) := by
      rintro ⟨hheld, ht⟩
      rw [hheld] at hidle
      cases t <;> simp [idleResult] at hidle ht
    simpa [setPhase, hstands.of_fresh.1, hkept.task_eq hi] using hidle'
  | opens hi hnone =>
    have hstands := hkept.standing i
    rw [hi] at hstands
    refine ⟨by simp [begin, setPhase, hi], fun id ↦ ?_⟩
    simp [begin, setPhase, hstands.of_fresh.1, hkept.task_eq hi]
  | @picks _ id' t gateway hi ht hheld =>
    have hstands := hkept.standing i
    rw [hi] at hstands
    refine ⟨by simp [pick, setPhase, hi], fun id ↦ ?_⟩
    simp [pick, own_append_self, hstands.of_fresh.1, hkept.task_eq hi, ht, hheld, eq_comm]

/-- A statement that enters while nothing is held is refused. -/
theorem Moves.refuses {s s' : Tasks} {i k : ℕ} (h : Moves s (.enter i) k s') {tasks : List Task}
    {entered finished : List ℕ} (hkept : Kept tasks entered finished s)
    (hnone : s.gateway.held = none) {sql params : Value}
    (htask : tasks[i]? = some (.execute sql params)) :
    s'.tasks[i]? = some (.execute sql params, .done (.error Connection.notConnected)) ∧
      own s'.begun i = [] := by
  cases h with
  | @idles _ t result hi hidle =>
    obtain rfl := Option.some.inj ((hkept.task_eq hi).symm.trans htask)
    rw [hnone] at hidle
    obtain rfl := Option.some.inj hidle
    have hstands := hkept.standing i
    rw [hi] at hstands
    exact ⟨by simp [setPhase, hi], hstands.of_fresh.2⟩
  | opens hi => cases (hkept.task_eq hi).symm.trans htask
  | picks hi ht hheld => simp [hnone] at hheld

/-- A disconnect that enters leaves nothing that is held. -/
theorem Moves.clears {s s' : Tasks} {d k : ℕ} (h : Moves s (.enter d) k s') {tasks : List Task}
    {entered finished : List ℕ} (hkept : Kept tasks entered finished s)
    (htask : tasks[d]? = some .disconnect) : s'.gateway.held = none := by
  cases h with
  | @idles _ t result hi hidle =>
    obtain rfl := Option.some.inj ((hkept.task_eq hi).symm.trans htask)
    rcases hheld : s.gateway.held with _ | id
    · exact hheld
    · simp [hheld, idleResult] at hidle
  | opens hi hnone => exact hnone
  | picks hi ht hheld hcount htrace hkept' =>
    obtain rfl := Option.some.inj ((hkept.task_eq hi).symm.trans htask)
    rcases hkept' with hnone | ⟨-, hne⟩
    · exact hnone
    · exact absurd rfl hne

/-! ### Whole courses -/

section Courses

variable {gateway : Connection} {tasks : List Task} {s : Tasks} {calls : List (Made Connection)}

theorem held_lt_of_custody (hcustody : Connection.keeper.Custody calls gateway) {id : ℕ}
    (hid : gateway.held = some id) : id < gateway.count :=
  hcustody.opened_lt ((hcustody.held_iff id).1 hid).1

/-- What calls one after the other have left. -/
theorem quiet_start (hcustody : Connection.keeper.Custody calls gateway) (tasks : List Task) :
    Quiet (start gateway tasks) where
  quiet := hcustody.quiet
  numbered := hcustody.numbered
  held_ne := fun e he hcloses hid ↦ hcustody.ne_of_closes hid he hcloses rfl
  engaged_ne := by
    intro e _ _ i
    rcases htask : tasks[i]? with _ | t <;> simp [start, htask, engaged?]

/-- After any turns, nothing has happened to a connection after it was closed. -/
theorem quiet_of_run (hcustody : Connection.keeper.Custody calls gateway) {turns : List Turn}
    (hrun : (start gateway tasks).run? turns = some s) : Quiet s := by
  have hstart : (∃ entered finished, Kept tasks entered finished (start gateway tasks)) ∧
      Quiet (start gateway tasks) :=
    ⟨⟨_, _, Kept.start (fun _ ↦ held_lt_of_custody hcustody) tasks⟩, quiet_start hcustody tasks⟩
  refine (stays_of_run (P := fun s ↦ (∃ entered finished, Kept tasks entered finished s) ∧ Quiet s)
    hstart hrun ?_).2
  rintro turn k m m' ⟨⟨entered, finished, hkept⟩, hquiet⟩ hmoves
  exact ⟨⟨_, _, hkept.moves hmoves⟩, hquiet.moves hkept hmoves⟩

/-- What a task has picked up is what was held when it entered. -/
theorem mem_picked_iff (hheld : ∀ id, gateway.held = some id → id < gateway.count)
    {before after : List Turn} {i : ℕ} {m : Tasks}
    (hrun : (start gateway tasks).run? (before ++ .enter i :: after) = some s)
    (hm : (start gateway tasks).run? before = some m) (id : ℕ) :
    (i, id) ∈ s.picked ↔ m.gateway.held = some id ∧ tasks[i]? ≠ some .connect := by
  obtain ⟨m', hm', hrest⟩ := exists_of_run_append hrun
  obtain rfl := Option.some.inj (hm.symm.trans hm')
  obtain ⟨n, henter, hafter⟩ := exists_of_run_cons hrest
  have hkept := kept_of_run hheld hm
  have hstays : ∀ turn k m₁ m₂, Moves m₁ turn k m₂ →
      ((∀ t, m₁.tasks[i]? ≠ some (t, .fresh)) ∧ ∀ id, id ∈ own m₁.picked i ↔
        m.gateway.held = some id ∧ tasks[i]? ≠ some .connect) →
      (∀ t, m₂.tasks[i]? ≠ some (t, .fresh)) ∧ ∀ id, id ∈ own m₂.picked i ↔
        m.gateway.held = some id ∧ tasks[i]? ≠ some .connect := by
    rintro turn k m₁ m₂ hmoves ⟨hfresh, hpicked⟩
    obtain ⟨hfresh', hsame⟩ := hmoves.picked hfresh
    exact ⟨hfresh', fun id ↦ by rw [hsame]; exact hpicked id⟩
  have hn := of_enter henter (fun k m' hmoves ↦ hmoves.enters hkept)
    fun k m₁ m₂ h hmoves ↦ hstays .wake k m₁ m₂ hmoves h
  have hs := stays_of_run hn hafter fun turn k m₁ m₂ h hmoves ↦ hstays turn k m₁ m₂ hmoves h
  exact mem_own_iff.symm.trans (hs.2 id)

/-- A statement that enters after a disconnect has, and before a connect goes on, is refused, and
nothing is run for it. -/
theorem refused_of_run (hheld : ∀ id, gateway.held = some id → id < gateway.count)
    {before between after : List Turn} {d i : ℕ} {sql params : Value}
    (hrun : (start gateway tasks).run?
      (before ++ .enter d :: between ++ .enter i :: after) = some s)
    (hd : tasks[d]? = some .disconnect) (hi : tasks[i]? = some (.execute sql params))
    (hbetween : ∀ k, .resume k ∈ between → tasks[k]? ≠ some .connect) :
    s.tasks[i]? = some (.execute sql params, .done (.error Connection.notConnected)) ∧
      own s.begun i = [] := by
  obtain ⟨m₂, hfirst, hrest⟩ := exists_of_run_append hrun
  obtain ⟨m₀, hbefore, hdisconnect⟩ := exists_of_run_append hfirst
  obtain ⟨m₁, henter, hbetween'⟩ := exists_of_run_cons hdisconnect
  obtain ⟨m₃, henter', hafter⟩ := exists_of_run_cons hrest
  have hkept₀ := kept_of_run hheld hbefore
  have hnone₁ : m₁.gateway.held = none :=
    of_enter (P := fun s ↦ s.gateway.held = none) henter
      (fun k m hmoves ↦ hmoves.clears hkept₀ hd)
      fun k m m' hnone hmoves ↦ hmoves.held_of_wake.trans hnone
  -- Between the two, whoever goes on is no connect, so nothing is held all the while.
  have hunheld : Unheld tasks m₂ := by
    refine @of_run (fun _ ↦ Unheld tasks) between m₂ [] m₁ ⟨⟨_, _, hkept₀.step henter⟩, hnone₁⟩
      hbetween' fun _ turn m m' hturn hm hstep ↦ ?_
    refine of_step hstep hm fun turn' k m m' hturn' hm hmoves ↦ hm.moves hmoves ?_
    rintro k rfl
    rcases hturn' with rfl | hwake
    · exact hbetween k hturn
    · cases hwake
  obtain ⟨⟨_, _, hkept₂⟩, hnone₂⟩ := hunheld
  have hdone := of_enter henter' (fun k m hmoves ↦ hmoves.refuses hkept₂ hnone₂ hi)
    fun k m m' h hmoves ↦ hmoves.done h
  exact stays_of_run hdone hafter fun turn k m m' h hmoves ↦ hmoves.done h

end Courses

/-- What is true of tasks that share a connection, after some turns. -/
structure Serialised (gateway : Connection) (tasks : List Task) (turns : List Turn) (s : Tasks) :
    Prop where
  /-- At most one worker at a time runs a statement or closes a connection. -/
  alone : ∀ (i j : ℕ) t t' job job', s.tasks[i]? = some (t, .working job) →
    s.tasks[j]? = some (t', .working job') → job.needsLock = true → job'.needsLock = true → i = j
  /-- Each task enters once, -/
  enteredOnce : (entered turns).Nodup
  /-- and statements begin, and closings, in the order in which their tasks have entered. -/
  inOrder : (served s.begun).Sublist (entered turns)
  /-- A task that enters picks up the connection that is held, unless it is a connect. -/
  picks : ∀ before i after m, turns = before ++ .enter i :: after →
    (start gateway tasks).run? before = some m →
    ∀ id, (i, id) ∈ s.picked ↔ m.gateway.held = some id ∧ tasks[i]? ≠ some .connect
  /-- Once the closing of a connection has begun, no statement begins on it, and no closing. -/
  closedLast : ∀ before k id after, s.begun = before ++ (k, .closing id) :: after →
    ∀ b ∈ after, b.2.needsLock = true → b.2.id ≠ id
  /-- The closing waits for everybody else who has picked up the connection. -/
  closingWaits : ∀ k id, (k, .closing id) ∈ s.begun → ∀ i, (i, id) ∈ s.picked → i ≠ k →
    ∃ t result, s.tasks[i]? = some (t, .done result)
  /-- So nothing has happened to a connection after it was closed, be it by a task or before. -/
  quiet : s.gateway.trace.Pairwise fun e e' ↦ e.closes = true → e'.id ≠ e.id
  /-- A statement whose task has picked up a connection has run exactly once on it when the task is
  done, -/
  ranOnce : ∀ (i : ℕ) id sql params values result, (i, id) ∈ s.picked →
    s.tasks[i]? = some (.execute sql params, .done result) → params.members = .ok values →
    own s.begun i = [.statement id sql values] ∧ (finished turns).count i = 1
  /-- unless its parameters cannot be listed. -/
  unread : ∀ (i : ℕ) id sql params m result, (i, id) ∈ s.picked →
    s.tasks[i]? = some (.execute sql params, .done result) → params.members = .error m →
    result = .error (.mismatch m) ∧ own s.begun i = []
  /-- A statement that enters after a disconnect has, and before a connect goes on, is refused, and
  nothing is run for it. -/
  refused : ∀ before d between i after sql params,
    turns = before ++ .enter d :: between ++ .enter i :: after → tasks[d]? = some .disconnect →
    tasks[i]? = some (.execute sql params) →
    (∀ k, .resume k ∈ between → tasks[k]? ≠ some .connect) →
    s.tasks[i]? = some (.execute sql params, .done (.error Connection.notConnected)) ∧
      own s.begun i = []
  /-- Nobody waits for good: as long as a task that has entered is not done, there is a turn that
  does not depend on another task's entering. -/
  goesOn : ∀ (i : ℕ) t phase, s.tasks[i]? = some (t, phase) → phase ≠ .fresh →
    (∀ result, phase ≠ .done result) → ∃ turn s', turn.entered = [] ∧ s.step? turn = some s'

/-- **Tasks on a shared connection come one after the other**, in whatever order they and their
workers have their turns, and whatever the connection has been used for before. -/
theorem serialised_of_run (settings : ConnectionSettings) (script : Script) (usage : Usage)
    (tasks : List Task) (turns : List Turn) (s : Tasks)
    (hrun : (start (usage.run Connection.perform { settings, script }).state tasks).run? turns =
      some s) :
    Serialised (usage.run Connection.perform { settings, script }).state tasks turns s := by
  have hcustody : Connection.keeper.Custody
      (usage.run Connection.perform { settings, script }).calls
      (usage.run Connection.perform { settings, script }).state :=
    (Keeper.lifeCycle rfl rfl usage).custody
  generalize (usage.run Connection.perform { settings, script }).state = gateway at *
  have hheld : ∀ id, gateway.held = some id → id < gateway.count :=
    fun id ↦ held_lt_of_custody hcustody
  have hkept := kept_of_run hheld hrun
  exact {
    alone := fun i j t t' job job' hi hj ↦ hkept.alone hi hj
    enteredOnce := hkept.standing.nodup
    inOrder := (List.sublist_append_left ..).trans
      (hkept.queueing.inLine.trans hkept.queueing.pickedEntered)
    picks := by
      rintro before i after m rfl hm id
      exact mem_picked_iff hheld hrun hm id
    closedLast := fun before k id after hbegun b hb ↦ hkept.closedLast hbegun hb
    closingWaits := fun k id hk i hi hne ↦ hkept.closingWaits hk hi hne
    quiet := (quiet_of_run hcustody hrun).quiet
    ranOnce := fun i id sql params values result hi hdone ↦ hkept.ranOnce hi hdone
    unread := fun i id sql params m result hi hdone ↦ hkept.notRun hi hdone
    refused := by
      rintro before d between i after sql params rfl
      exact refused_of_run hheld hrun
    goesOn := fun i t phase hi hfresh hdone ↦ hkept.exists_step hi hfresh hdone }

/-- While a statement runs, a disconnect and another statement enter. -/
theorem serialised_of_three :
    let settings : ConnectionSettings := ⟨":memory:", connectionTimeout⟩
    let gateway := ((Usage.call .connect).run Connection.perform { settings }).state
    let tasks : List Task := [.execute (.text "SELECT 1") (.list []), .disconnect,
      .execute (.text "SELECT 2") (.list [])]
    let turns : List Turn :=
      [.enter 0, .enter 1, .enter 2, .finish 0, .resume 0, .wake, .finish 1, .resume 1]
    ∃ s, (start gateway tasks).run? turns = some s ∧ Serialised gateway tasks turns s :=
  ⟨_, rfl, serialised_of_run _ {} (.call .connect) _ _ _ rfl⟩

end Tasks

end FluentSql.Gateway
