import FluentSql.Proofs.Turns

/-!
# The line for a shared connection

Two invariants of tasks on a shared connection, each kept by every move.

* `Tasks.Queueing`: the lock is held by at most one task, and is given in the order in which tasks
  have picked up a connection. For this it matters that a task gets in line in the same turn in
  which it picks up the connection, and that nobody leaves the line but from its head.
* `Tasks.Numbers`: once a task that is to close a connection has picked it up, no other task picks
  it up. For this it matters that such a task takes the connection away before it gets in line, and
  that a number is never given to two connections.

Put together they say that whoever is to close a connection stands behind everybody who has it.
-/

namespace FluentSql.Gateway

open FluentSql

namespace Connection

/-- A worker does not change which connection is held. -/
theorem work_keeps (c : Connection) (job : Job) :
    (c.work job).2.held = c.held ∧ (c.work job).2.count = c.count := by
  cases job with
  | opening id =>
    simp only [work, openOne]
    split <;> exact ⟨rfl, rfl⟩
  | statement id sql params =>
    simp only [work, runStatement]
    split <;> exact ⟨rfl, rfl⟩
  | closing id =>
    simp only [work, closeOne]
    split <;> exact ⟨rfl, rfl⟩

theorem conclude_count (c : Connection) (job : Job) (result : Except Fault Value) :
    (c.conclude job result).count = c.count := by
  cases job <;> cases result <;> rfl

/-- Only a connection that has been opened is held. -/
theorem conclude_held (c : Connection) (job : Job) (result : Except Fault Value) :
    (c.conclude job result).held = c.held ∨
      ∃ id, job = .opening id ∧ (c.conclude job result).held = some id := by
  cases job with
  | opening id =>
    cases result with
    | error f => exact Or.inl rfl
    | ok v => exact Or.inr ⟨id, rfl, rfl⟩
  | statement id sql params => exact Or.inl (by cases result <;> rfl)
  | closing id => exact Or.inl (by cases result <;> rfl)

end Connection

namespace Tasks

/-! ### The lock -/

/-- A task that is as far as this holds the lock. -/
def holdsLock : Option (Task × Phase) → Bool
  | some (_, .working job) | some (_, .worked job _) => job.needsLock
  | _ => false

/-- A task that is as far as this waits for the lock. -/
def waitsForLock : Option (Task × Phase) → Bool
  | some (_, .waiting _) => true
  | _ => false

theorem working_or_worked_of_holdsLock {x : Option (Task × Phase)} (h : holdsLock x = true) :
    (∃ t job, x = some (t, .working job)) ∨ ∃ t job result, x = some (t, .worked job result) := by
  unfold holdsLock at h
  split at h
  · exact Or.inl ⟨_, _, rfl⟩
  · exact Or.inr ⟨_, _, _, rfl⟩
  · cases h

theorem exists_of_waitsForLock {x : Option (Task × Phase)} (h : waitsForLock x = true) :
    ∃ t id, x = some (t, .waiting id) := by
  unfold waitsForLock at h
  split at h
  · exact ⟨_, _, rfl⟩
  · cases h

/-- The tasks that have been given the lock, in this order. -/
def served (begun : List (ℕ × Job)) : List ℕ :=
  (begun.filter fun b ↦ b.2.needsLock).map Prod.fst

theorem mem_served {begun : List (ℕ × Job)} {b : ℕ × Job} (hb : b ∈ begun)
    (hlock : b.2.needsLock = true) : b.1 ∈ served begun :=
  List.mem_map.2 ⟨b, List.mem_filter.2 ⟨hb, hlock⟩, rfl⟩

/-- What is true of the lock at any time. -/
structure Queueing (entered : List ℕ) (s : Tasks) : Prop where
  holder_iff : ∀ i, s.holder = some i ↔ holdsLock s.tasks[i]? = true
  mem_queue_iff : ∀ i, i ∈ s.queue ↔ waitsForLock s.tasks[i]? = true
  /-- Whoever has been given the lock was in line before whoever waits for it, and nobody has
  changed places since. -/
  inLine : (served s.begun ++ s.queue).Sublist (s.picked.map Prod.fst)
  /-- Who holds the lock is who has been given it last. -/
  last : ∀ i, s.holder = some i → (served s.begun).getLast? = some i
  /-- Tasks get in line in the order in which they enter. -/
  pickedEntered : (s.picked.map Prod.fst).Sublist entered

/-- What a task does with a connection that it has picked up needs the lock. -/
theorem needsLock_of_jobOn {t : Task} {id : ℕ} {job : Job} (h : t.jobOn id = .ok job) :
    job.needsLock = true := by
  cases t with
  | execute sql params =>
    obtain ⟨values, -, hjob⟩ := bind_eq_ok_iff.1 h
    obtain rfl := Except.ok.inj hjob
    rfl
  | connect | disconnect =>
    obtain rfl := Except.ok.inj h
    rfl

namespace Queueing

variable {s s' : Tasks} {turn : Turn} {i : ℕ} {entered : List ℕ}

theorem holder_moves (h : Queueing entered s) (hmoves : Moves s turn i s') (j : ℕ) :
    s'.holder = some j ↔ holdsLock s'.tasks[j]? = true := by
  have hi' := h.holder_iff i
  rcases eq_or_ne i j with rfl | hne
  · cases hmoves with
    | idles hi | opens hi | picks hi =>
      simpa [pick, begin, setPhase, hi, holdsLock, Job.needsLock] using hi'
    | unread hfree hqueue hi hjob => simp [setPhase, hi, holdsLock, hfree]
    | granted hfree hqueue hi hjob =>
      simp [begin, setPhase, hi, holdsLock, needsLock_of_jobOn hjob]
    | finishes hi => simpa [setPhase, hi, holdsLock] using hi'
    | @resumes _ _ job _ hi =>
      cases job with
      | opening id => simpa [setPhase, hi, holdsLock, holderAfter, Job.needsLock] using hi'
      | statement id sql params | closing id => simp [setPhase, hi, holdsLock, holderAfter]
  · rw [(hmoves.of_ne hne).1, ← h.holder_iff j]
    cases hmoves with
    | idles | opens | picks | unread | finishes => exact Iff.rfl
    | granted hfree hqueue hi hjob => simp [hne, hfree]
    | @resumes _ _ job _ hi =>
      -- A job that needs the lock is that of the holder, and this is the task that goes on.
      cases job with
      | opening id => exact Iff.rfl
      | statement id sql params | closing id =>
        have hholder : s.holder = some i := hi'.2 (by simp [hi, holdsLock, Job.needsLock])
        simp [holderAfter, hholder, hne]

theorem queue_moves (h : Queueing entered s) (hnodup : s.queue.Nodup) (hmoves : Moves s turn i s')
    (j : ℕ) : j ∈ s'.queue ↔ waitsForLock s'.tasks[j]? = true := by
  have hi' := h.mem_queue_iff i
  rcases eq_or_ne i j with rfl | hne
  · cases hmoves with
    | idles hi | opens hi | finishes hi | resumes hi =>
      simpa [begin, setPhase, hi, waitsForLock] using hi'
    | picks hi => simp [pick, setPhase, hi, waitsForLock]
    | unread hfree hqueue hi hjob =>
      rw [hqueue, List.nodup_cons] at hnodup
      simp [setPhase, hi, waitsForLock, hnodup.1]
    | granted hfree hqueue hi hjob =>
      rw [hqueue, List.nodup_cons] at hnodup
      simp [begin, setPhase, hi, waitsForLock, hnodup.1]
  · rw [(hmoves.of_ne hne).1, ← h.mem_queue_iff j]
    cases hmoves with
    | idles | opens | finishes | resumes => exact Iff.rfl
    | picks hi => simp [pick, hne.symm]
    | unread hfree hqueue hi hjob => simp [setPhase, hqueue, hne.symm]
    | granted hfree hqueue hi hjob => simp [begin, setPhase, hqueue, hne.symm]

/-- A task that has been given the lock leaves the line at its head, where those who have been given
it before stand. -/
theorem inLine_moves (h : Queueing entered s) (hmoves : Moves s turn i s') :
    (served s'.begun ++ s'.queue).Sublist (s'.picked.map Prod.fst) := by
  have hline := h.inLine
  cases hmoves with
  | idles | finishes | resumes => exact hline
  | opens => simpa [begin, setPhase, served, Job.needsLock] using hline
  | picks =>
    simpa [pick, setPhase] using hline.append (List.Sublist.refl [i])
  | unread hfree hqueue hi hjob =>
    rw [hqueue] at hline
    exact ((List.sublist_cons_self i _).append_left _).trans hline
  | granted hfree hqueue hi hjob =>
    rw [hqueue] at hline
    simpa [begin, setPhase, served, needsLock_of_jobOn hjob] using hline

theorem last_moves (h : Queueing entered s) (hmoves : Moves s turn i s') (j : ℕ)
    (hj : s'.holder = some j) : (served s'.begun).getLast? = some j := by
  cases hmoves with
  | idles | picks | unread | finishes => exact h.last j hj
  | opens => simpa [begin, setPhase, served, Job.needsLock] using h.last j hj
  | granted hfree hqueue hi hjob =>
    simpa [begin, setPhase, served, needsLock_of_jobOn hjob] using hj
  | @resumes _ _ job _ hi =>
    cases job with
    | opening id => exact h.last j hj
    | statement id sql params | closing id => cases hj

theorem picked_moves (h : Queueing entered s) (hmoves : Moves s turn i s') :
    (s'.picked.map Prod.fst).Sublist (entered ++ turn.entered) := by
  have hpicked := h.pickedEntered
  cases hmoves with
  | idles | opens => exact hpicked.trans (List.sublist_append_left ..)
  | picks => simpa [pick, setPhase, Turn.entered] using hpicked.append (List.Sublist.refl [i])
  | unread | granted | finishes | resumes =>
    simpa [begin, setPhase, Turn.entered] using hpicked

theorem moves (h : Queueing entered s) (hnodup : entered.Nodup) (hmoves : Moves s turn i s') :
    Queueing (entered ++ turn.entered) s' where
  holder_iff := h.holder_moves hmoves
  mem_queue_iff :=
    h.queue_moves ((hnodup.sublist (h.inLine.trans h.pickedEntered)).of_append_right) hmoves
  inLine := h.inLine_moves hmoves
  last := h.last_moves hmoves
  pickedEntered := h.picked_moves hmoves

end Queueing

/-! ### Numbers of connections -/

/-- The connection that a task which is as far as this has a worker open. -/
def opening? : Option (Task × Phase) → Option ℕ
  | some (_, .working (.opening id)) | some (_, .worked (.opening id) _) => some id
  | _ => none

/-- What is true of the numbers of connections at any time. -/
structure Numbers (tasks : List Task) (s : Tasks) : Prop where
  /-- The next number is new. -/
  held_lt : ∀ id, s.gateway.held = some id → id < s.gateway.count
  picked_lt : ∀ p ∈ s.picked, p.2 < s.gateway.count
  opening_lt : ∀ (i : ℕ) id, (i, .opening id) ∈ s.begun → id < s.gateway.count
  /-- No two tasks open one connection. -/
  opening_unique : ∀ (i j : ℕ) id, (i, .opening id) ∈ s.begun → (j, .opening id) ∈ s.begun → i = j
  /-- What is being opened is not held yet, and nobody has picked it up. -/
  pending : ∀ (i : ℕ) id, opening? s.tasks[i]? = some id →
    s.gateway.held ≠ some id ∧ ∀ p ∈ s.picked, p.2 ≠ id
  /-- What is held is not what somebody is about to close. -/
  open_of_held : ∀ id, s.gateway.held = some id →
    ∀ p ∈ s.picked, tasks[p.1]? = some .disconnect → p.2 ≠ id
  /-- Once somebody is about to close a connection, nobody picks it up any more. -/
  cleared : s.picked.Pairwise fun p q ↦ tasks[p.1]? = some .disconnect → q.2 ≠ p.2

/-- A connection that is being opened was being opened before, or it is the next one. -/
theorem Moves.opening? {s s' : Tasks} {turn : Turn} {i j id : ℕ} (h : Moves s turn i s')
    (hopening : opening? s'.tasks[j]? = some id) :
    opening? s.tasks[j]? = some id ∨
      id = s.gateway.count ∧ s'.gateway.count = s.gateway.count + 1 := by
  rcases eq_or_ne i j with rfl | hne
  · cases h with
    | idles hi | picks hi | unread _ _ hi | resumes hi =>
      simp [pick, setPhase, hi, Tasks.opening?] at hopening
    | opens hi =>
      refine Or.inr ⟨?_, rfl⟩
      simpa [begin, setPhase, hi, Tasks.opening?, eq_comm] using hopening
    | @granted _ _ _ _ job _ _ hi hjob =>
      have hlock := needsLock_of_jobOn hjob
      cases job <;> simp [begin, setPhase, hi, Tasks.opening?, Job.needsLock] at hopening hlock
    | @finishes _ _ job hi =>
      refine Or.inl ?_
      cases job with
      | opening id' => simpa [setPhase, hi, Tasks.opening?] using hopening
      | statement id' sql params | closing id' =>
        simp [setPhase, hi, Tasks.opening?] at hopening
  · rw [(h.of_ne hne).1] at hopening
    exact Or.inl hopening

theorem opening?_eq_some_iff {x : Option (Task × Phase)} {id : ℕ} :
    Tasks.opening? x = some id ↔
      ∃ t phase, x = some (t, phase) ∧ phase.job? = some (.opening id) := by
  rcases x with _ | ⟨t, _ | _ | ⟨_ | _ | _⟩ | ⟨_ | _ | _⟩ | _⟩ <;>
    simp [Tasks.opening?, Phase.job?]

theorem Standing.mem_begun {s : Tasks} {entered finished : List ℕ} {i id : ℕ}
    (h : Standing entered finished s) (hopening : Tasks.opening? s.tasks[i]? = some id) :
    (i, .opening id) ∈ s.begun := by
  obtain ⟨t, phase, hi, hjob⟩ := opening?_eq_some_iff.1 hopening
  have hstands := h i
  rw [hi] at hstands
  exact mem_own_iff.1 (hstands.mem_begun hjob)

namespace Numbers

variable {s s' : Tasks} {tasks : List Task}

/-- Nothing changes that numbers depend on. -/
theorem keep (h : Numbers tasks s) (hheld : s'.gateway.held = s.gateway.held)
    (hcount : s'.gateway.count = s.gateway.count) (hpicked : s'.picked = s.picked)
    (hbegun : ∀ (i : ℕ) id, (i, .opening id) ∈ s'.begun → (i, .opening id) ∈ s.begun)
    (hopening : ∀ (i : ℕ) id, Tasks.opening? s'.tasks[i]? = some id →
      Tasks.opening? s.tasks[i]? = some id ∨
        id = s.gateway.count ∧ s'.gateway.count = s.gateway.count + 1) : Numbers tasks s' where
  held_lt := by rw [hheld, hcount]; exact h.held_lt
  picked_lt := by rw [hpicked, hcount]; exact h.picked_lt
  opening_lt := fun i id hi ↦ by rw [hcount]; exact h.opening_lt i id (hbegun i id hi)
  opening_unique := fun i j id hi hj ↦ h.opening_unique i j id (hbegun i id hi) (hbegun j id hj)
  pending := by
    intro i id hi
    rw [hheld, hpicked]
    rcases hopening i id hi with hold | ⟨-, hnext⟩
    · exact h.pending i id hold
    · omega
  open_of_held := by rw [hheld, hpicked]; exact h.open_of_held
  cleared := by rw [hpicked]; exact h.cleared

theorem mem_begun_opens {l : List (ℕ × Job)} {i j id id' : ℕ} :
    (j, Job.opening id) ∈ l ++ [(i, .opening id')] ↔ (j, .opening id) ∈ l ∨ j = i ∧ id = id' := by
  simp

/-- A task has a worker open the next connection. -/
theorem opens (h : Numbers tasks s) {i : ℕ} (hi : s.tasks[i]? = some (.connect, .fresh))
    (hnone : s.gateway.held = none) :
    Numbers tasks ({ s with gateway := { s.gateway with count := s.gateway.count + 1 } }.begin i
      (.opening s.gateway.count)) where
  held_lt := by
    intro id hid
    simp [begin, setPhase, hnone] at hid
  picked_lt := fun p hp ↦ Nat.lt_succ_of_lt (h.picked_lt p hp)
  opening_lt := by
    intro j id hj
    rcases mem_begun_opens.1 hj with hold | ⟨rfl, rfl⟩
    · exact Nat.lt_succ_of_lt (h.opening_lt j id hold)
    · exact Nat.lt_succ_self _
  opening_unique := by
    intro j k id hj hk
    rcases mem_begun_opens.1 hj with hold | ⟨rfl, rfl⟩
    · rcases mem_begun_opens.1 hk with hold' | ⟨rfl, rfl⟩
      · exact h.opening_unique j k id hold hold'
      · exact absurd (h.opening_lt j _ hold) (Nat.lt_irrefl _)
    · rcases mem_begun_opens.1 hk with hold' | ⟨rfl, -⟩
      · exact absurd (h.opening_lt k _ hold') (Nat.lt_irrefl _)
      · rfl
  pending := by
    intro j id hj
    refine ⟨by simp [begin, setPhase, hnone], fun p hp ↦ ?_⟩
    rcases (Moves.opens hi hnone).opening? hj with hold | ⟨rfl, -⟩
    · exact (h.pending j id hold).2 p hp
    · exact Nat.ne_of_lt (h.picked_lt p hp)
  open_of_held := by
    intro id hid
    simp [begin, setPhase, hnone] at hid
  cleared := h.cleared

/-- A task picks up the connection that is held. -/
theorem picks (h : Numbers tasks s) {i id : ℕ} {t : Task} (htask : tasks[i]? = some t)
    (hheld : s.gateway.held = some id)
    (hkept : s'.gateway.held = none ∨ s'.gateway.held = some id ∧ t ≠ .disconnect)
    (hcount : s'.gateway.count = s.gateway.count) (hpicked : s'.picked = s.picked ++ [(i, id)])
    (hbegun : s'.begun = s.begun)
    (hopening : ∀ (j : ℕ) id, Tasks.opening? s'.tasks[j]? = some id →
      Tasks.opening? s.tasks[j]? = some id) : Numbers tasks s' where
  held_lt := by
    intro id' hid'
    rcases hkept with hnone | ⟨hsome, -⟩
    · rw [hnone] at hid'
      cases hid'
    · obtain rfl := Option.some.inj (hsome.symm.trans hid')
      rw [hcount]
      exact h.held_lt id hheld
  picked_lt := by
    intro p hp
    rw [hcount]
    rw [hpicked] at hp
    rcases List.mem_append.1 hp with hold | hnew
    · exact h.picked_lt p hold
    · obtain rfl := List.mem_singleton.1 hnew
      exact h.held_lt id hheld
  opening_lt := by
    rw [hbegun, hcount]
    exact h.opening_lt
  opening_unique := by
    rw [hbegun]
    exact h.opening_unique
  pending := by
    intro j id' hj
    obtain ⟨hne, hnobody⟩ := h.pending j id' (hopening j id' hj)
    refine ⟨?_, fun p hp ↦ ?_⟩
    · rcases hkept with hnone | ⟨hsome, -⟩
      · simp [hnone]
      · rwa [hsome, ← hheld]
    · rw [hpicked] at hp
      rcases List.mem_append.1 hp with hold | hnew
      · exact hnobody p hold
      · obtain rfl := List.mem_singleton.1 hnew
        rintro rfl
        exact hne hheld
  open_of_held := by
    intro id' hid' p hp hclose
    rcases hkept with hnone | ⟨hsome, ht⟩
    · rw [hnone] at hid'
      cases hid'
    · obtain rfl := Option.some.inj (hsome.symm.trans hid')
      rw [hpicked] at hp
      rcases List.mem_append.1 hp with hold | hnew
      · exact h.open_of_held id hheld p hold hclose
      · obtain rfl := List.mem_singleton.1 hnew
        exact absurd (Option.some.inj (htask.symm.trans hclose)) ht
  cleared := by
    rw [hpicked, List.pairwise_append]
    refine ⟨h.cleared, List.pairwise_singleton .., fun p hp q hq hclose ↦ ?_⟩
    obtain rfl := List.mem_singleton.1 hq
    exact (h.open_of_held id hheld p hp hclose).symm

/-- A task goes on whose worker has opened a connection, and this is held from now on. -/
theorem holds (h : Numbers tasks s) {i id : ℕ} (hbegun : (i, .opening id) ∈ s.begun)
    (hi : Tasks.opening? s.tasks[i]? = some id) (hheld : s'.gateway.held = some id)
    (hcount : s'.gateway.count = s.gateway.count) (hpicked : s'.picked = s.picked)
    (hbegun' : s'.begun = s.begun)
    (hopening : ∀ (j : ℕ) id, Tasks.opening? s'.tasks[j]? = some id →
      j ≠ i ∧ (j, .opening id) ∈ s.begun ∧ Tasks.opening? s.tasks[j]? = some id) :
    Numbers tasks s' where
  held_lt := by
    intro id' hid'
    obtain rfl := Option.some.inj (hheld.symm.trans hid')
    rw [hcount]
    exact h.opening_lt i id hbegun
  picked_lt := by
    rw [hpicked, hcount]
    exact h.picked_lt
  opening_lt := by
    rw [hbegun', hcount]
    exact h.opening_lt
  opening_unique := by
    rw [hbegun']
    exact h.opening_unique
  pending := by
    intro j id' hj
    obtain ⟨hne, hbegun_j, hold⟩ := hopening j id' hj
    rw [hheld, hpicked]
    refine ⟨?_, (h.pending j id' hold).2⟩
    intro hid
    obtain rfl := Option.some.inj hid
    exact hne (h.opening_unique j i id hbegun_j hbegun)
  open_of_held := by
    intro id' hid' p hp _
    obtain rfl := Option.some.inj (hheld.symm.trans hid')
    rw [hpicked] at hp
    exact (h.pending i id hi).2 p hp
  cleared := by
    rw [hpicked]
    exact h.cleared

theorem moves (h : Numbers tasks s) {turn : Turn} {i : ℕ} {entered finished : List ℕ}
    (hstands : Standing entered finished s) (htasks : s.tasks.map Prod.fst = tasks)
    (hmoves : Moves s turn i s') : Numbers tasks s' := by
  have hopening : ∀ (j : ℕ) id, Tasks.opening? s'.tasks[j]? = some id →
      Tasks.opening? s.tasks[j]? = some id ∨
        id = s.gateway.count ∧ s'.gateway.count = s.gateway.count + 1 :=
    fun j id ↦ hmoves.opening?
  cases hmoves with
  | idles | unread => exact h.keep rfl rfl rfl (fun _ _ ↦ id) hopening
  | opens hi hnone => exact h.opens hi hnone
  | picks hi ht hheld hcount htrace hkept =>
    refine h.picks (by simp [← htasks, hi]) hheld hkept hcount rfl rfl fun j id hj ↦ ?_
    rcases hopening j id hj with hold | ⟨-, hnext⟩
    · exact hold
    · exact absurd (hcount.symm.trans hnext) (Nat.succ_ne_self _).symm
  | @granted _ _ _ _ job hfree hqueue hi hjob =>
    refine h.keep rfl rfl rfl (fun j id hj ↦ ?_) hopening
    rcases List.mem_append.1 hj with hold | hnew
    · exact hold
    · have hlock := needsLock_of_jobOn hjob
      obtain ⟨-, rfl⟩ := Prod.mk.inj (List.mem_singleton.1 hnew)
      simp [Job.needsLock] at hlock
  | @finishes _ _ job hi =>
    obtain ⟨hheld, hcount⟩ := s.gateway.work_keeps job
    exact h.keep hheld hcount rfl (fun _ _ ↦ id) hopening
  | @resumes _ _ job result hi =>
    have hcount := s.gateway.conclude_count job result
    rcases s.gateway.conclude_held job result with hheld | ⟨id, rfl, hheld⟩
    · exact h.keep hheld hcount rfl (fun _ _ ↦ id) hopening
    · have hopens : Tasks.opening? s.tasks[i]? = some id := by simp [hi, Tasks.opening?]
      refine h.holds (hstands.mem_begun hopens) hopens hheld hcount rfl rfl fun j id' hj ↦ ?_
      rcases hopening j id' hj with hold | ⟨-, hnext⟩
      · refine ⟨?_, hstands.mem_begun hold, hold⟩
        rintro rfl
        simp [setPhase, hi, Tasks.opening?] at hj
      · exact absurd (hcount.symm.trans hnext) (Nat.succ_ne_self _).symm

end Numbers

end Tasks

end FluentSql.Gateway
