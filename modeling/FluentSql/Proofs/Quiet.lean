import FluentSql.Proofs.Custody
import FluentSql.Proofs.Serial

/-!
# Nothing happens to what has been closed

The events of a shared connection, while tasks use it at the same time: after the event that closes
a connection there is none that belongs to it (`Tasks.Quiet`).

For this to be kept, nobody may be engaged with a connection that has been closed (`engaged?`): in
line for it, using it, closing it or opening it. When a closing ends, nobody else is, because the
closing has waited for everybody who has picked up the connection, and nobody opens what has been
picked up.
-/

namespace FluentSql.Gateway

open FluentSql

/-- What a worker does belongs to the connection that its job is about, and nothing comes after the
closing of a connection. -/
theorem Connection.work_trace (c : Connection) (job : Job) :
    ∃ events, (c.work job).2.trace = c.trace ++ events ∧
      (∀ e ∈ events, e.id = job.id ∧ (e.closes = true → job = .closing job.id)) ∧
      events.Pairwise fun e e' ↦ e.closes = true → e'.id ≠ e.id := by
  cases job with
  | opening id =>
    refine ⟨[.opened id c.settings.database (connectionOptions c.settings)], ?_, ?_, ?_⟩
    · simp only [work, openOne]
      split <;> rfl
    · simp [Event.id, Job.id, Event.closes]
    · simp
  | closing id =>
    refine ⟨[.closed id], ?_, ?_, ?_⟩
    · simp only [work, closeOne]
      split <;> rfl
    · simp [Event.id, Job.id]
    · simp
  | statement id sql params =>
    simp only [work, runStatement]
    split
    · refine ⟨[.rowsNamed id, .executed id sql params], rfl, ?_, ?_⟩ <;>
        simp [Event.id, Job.id, Event.closes]
    · refine ⟨[.rowsNamed id, .executed id sql params, .fetched id, .cursorClosed id], ?_, ?_, ?_⟩
      · exact List.append_assoc ..
      · simp [Event.id, Job.id, Event.closes]
      · simp [Event.closes]

theorem Connection.conclude_trace (c : Connection) (job : Job) (result : Except Fault Value) :
    (c.conclude job result).trace = c.trace := by
  cases job <;> cases result <;> rfl

namespace Tasks

/-- The connection that a task which is as far as this is engaged with. Who has used or closed a
connection is not engaged with it any more, but who has opened one is. -/
def engaged? : Option (Task × Phase) → Option ℕ
  | some (_, .waiting id) | some (_, .worked (.opening id) _) => some id
  | some (_, .working job) => some job.id
  | _ => none

/-- Who is engaged with a connection has picked it up and is not done, or opens it. -/
theorem Stands.of_engaged {x : Option (Task × Phase)} {enters ended : ℕ} {picked : List ℕ}
    {begun : List Job} (h : Stands x enters picked begun ended) {id : ℕ}
    (hengaged : engaged? x = some id) :
    (id ∈ picked ∧ ∀ t result, x ≠ some (t, .done result)) ∨ opening? x = some id := by
  cases h with
  | absent | fresh | idle | openedDone | unread | through => cases hengaged
  | opening | opened => exact Or.inr hengaged
  | waiting =>
    obtain rfl := Option.some.inj hengaged
    exact Or.inl ⟨List.mem_singleton_self _, nofun⟩
  | working ht hjob =>
    obtain rfl := Option.some.inj hengaged
    rw [id_of_jobOn hjob]
    exact Or.inl ⟨List.mem_singleton_self _, nofun⟩
  | @worked t ht id' job hjob =>
    have hlock := needsLock_of_jobOn hjob
    cases job <;> simp [engaged?, Job.needsLock] at hengaged hlock

namespace Kept

variable {tasks : List Task} {entered finished : List ℕ} {s : Tasks}

theorem of_engaged (h : Kept tasks entered finished s) {i id : ℕ}
    (hengaged : engaged? s.tasks[i]? = some id) :
    ((i, id) ∈ s.picked ∧ ∀ t result, s.tasks[i]? ≠ some (t, .done result)) ∨
      opening? s.tasks[i]? = some id := by
  simpa [mem_own_iff] using (h.standing i).of_engaged hengaged

theorem engaged_lt (h : Kept tasks entered finished s) {i id : ℕ}
    (hengaged : engaged? s.tasks[i]? = some id) : id < s.gateway.count := by
  rcases h.of_engaged hengaged with ⟨hpicked, -⟩ | hopening
  · exact h.numbers.picked_lt _ hpicked
  · exact h.numbers.opening_lt i id (h.standing.mem_begun hopening)

/-- While a connection is being closed, it is not held, and nobody else is engaged with it. -/
theorem left_of_closing (h : Kept tasks entered finished s) {i id : ℕ} {t : Task}
    (hi : s.tasks[i]? = some (t, .working (.closing id))) :
    s.gateway.held ≠ some id ∧ ∀ j, i ≠ j → engaged? s.tasks[j]? ≠ some id := by
  have hstands := h.standing i
  rw [hi] at hstands
  have hbegun : (i, .closing id) ∈ s.begun := mem_own_iff.1 (hstands.mem_begun rfl)
  obtain ⟨t', htask, ht, hjob, hpicked⟩ := h.of_mem_begun hbegun rfl
  obtain rfl := eq_disconnect_of_jobOn ht hjob
  refine ⟨fun hheld ↦ h.numbers.open_of_held id hheld _ hpicked htask rfl, fun j hne hengaged ↦ ?_⟩
  rcases h.of_engaged hengaged with ⟨hj, hdone⟩ | hopening
  · obtain ⟨t', result, hj'⟩ := h.closingWaits hbegun hj hne.symm
    exact hdone t' result hj'
  · exact (h.numbers.pending j id hopening).2 _ hpicked rfl

end Kept

/-- What is true of the events at any time. -/
structure Quiet (s : Tasks) : Prop where
  /-- Nothing happens to a connection after it has been closed. -/
  quiet : s.gateway.trace.Pairwise fun e e' ↦ e.closes = true → e'.id ≠ e.id
  /-- The next number is new. -/
  numbered : ∀ e ∈ s.gateway.trace, e.id < s.gateway.count
  /-- What has been closed is not held, -/
  held_ne : ∀ e ∈ s.gateway.trace, e.closes = true → s.gateway.held ≠ some e.id
  /-- and nobody is engaged with it. -/
  engaged_ne : ∀ e ∈ s.gateway.trace, e.closes = true →
    ∀ i : ℕ, engaged? s.tasks[i]? ≠ some e.id

/-- A task is engaged with what it was engaged with before, unless it enters: then with the next
connection, or with the one that is held. -/
theorem Moves.engaged? {s s' : Tasks} {turn : Turn} {i j id : ℕ} (h : Moves s turn i s')
    (hengaged : engaged? s'.tasks[j]? = some id) :
    engaged? s.tasks[j]? = some id ∨
      turn = .enter i ∧ (id = s.gateway.count ∨ s.gateway.held = some id) := by
  rcases eq_or_ne i j with rfl | hne
  · cases h with
    | idles hi | unread _ _ hi | resumes hi => simp [setPhase, hi, Tasks.engaged?] at hengaged
    | opens hi =>
      refine Or.inr ⟨rfl, Or.inl ?_⟩
      simpa [begin, setPhase, hi, Tasks.engaged?, Job.id, eq_comm] using hengaged
    | @picks _ id' _ _ hi ht hheld =>
      refine Or.inr ⟨rfl, Or.inr ?_⟩
      obtain rfl : id' = id := by simpa [pick, setPhase, hi, Tasks.engaged?] using hengaged
      exact hheld
    | granted _ _ hi hjob =>
      refine Or.inl ?_
      simpa [begin, setPhase, hi, Tasks.engaged?, id_of_jobOn hjob] using hengaged
    | @finishes _ _ job hi =>
      refine Or.inl ?_
      cases job with
      | opening id' => simpa [setPhase, hi, Tasks.engaged?, Job.id] using hengaged
      | statement id' sql params | closing id' =>
        simp [setPhase, hi, Tasks.engaged?] at hengaged
  · rw [(h.of_ne hne).1] at hengaged
    exact Or.inl hengaged

namespace Quiet

variable {tasks : List Task} {entered finished : List ℕ} {s s' : Tasks}

/-- Nothing happens. -/
theorem keep (h : Quiet s) (htrace : s'.gateway.trace = s.gateway.trace)
    (hcount : s.gateway.count ≤ s'.gateway.count)
    (hheld : ∀ id, s'.gateway.held = some id →
      s.gateway.held = some id ∨ ∃ i : ℕ, engaged? s.tasks[i]? = some id)
    (hengaged : ∀ (j : ℕ) id, engaged? s'.tasks[j]? = some id →
      engaged? s.tasks[j]? = some id ∨ id = s.gateway.count ∨ s.gateway.held = some id) :
    Quiet s' where
  quiet := by
    rw [htrace]
    exact h.quiet
  numbered := by
    intro e he
    rw [htrace] at he
    exact Nat.lt_of_lt_of_le (h.numbered e he) hcount
  held_ne := by
    intro e he hcloses hid
    rw [htrace] at he
    rcases hheld e.id hid with hold | ⟨i, hi⟩
    · exact h.held_ne e he hcloses hold
    · exact h.engaged_ne e he hcloses i hi
  engaged_ne := by
    intro e he hcloses i hi
    rw [htrace] at he
    rcases hengaged i e.id hi with hold | hnext | hheld
    · exact h.engaged_ne e he hcloses i hold
    · exact Nat.ne_of_lt (h.numbered e he) hnext
    · exact h.held_ne e he hcloses hheld

/-- A worker ends. -/
theorem finishes (h : Quiet s) (hkept : Kept tasks entered finished s) {i : ℕ} {t : Task}
    {job : Job} (hi : s.tasks[i]? = some (t, .working job))
    (hgateway : s'.gateway = (s.gateway.work job).2)
    (hengaged : ∀ (j : ℕ) id, engaged? s'.tasks[j]? = some id → engaged? s.tasks[j]? = some id)
    (hdone : job = .closing job.id → engaged? s'.tasks[i]? = none) : Quiet s' := by
  obtain ⟨events, htrace, hevents, hpairwise⟩ := s.gateway.work_trace job
  obtain ⟨hheld, hcount⟩ := s.gateway.work_keeps job
  rw [← hgateway] at htrace hheld hcount
  have hworks : engaged? s.tasks[i]? = some job.id := by rw [hi]; rfl
  refine ⟨?_, fun e he ↦ ?_, fun e he hcloses ↦ ?_, fun e he hcloses j hj ↦ ?_⟩
  · rw [htrace, List.pairwise_append]
    refine ⟨h.quiet, hpairwise, fun e he e' he' hcloses hid ↦ h.engaged_ne e he hcloses i ?_⟩
    rw [hworks, ← (hevents e' he').1, hid]
  · rw [hcount]
    rw [htrace] at he
    rcases List.mem_append.1 he with hold | hnew
    · exact h.numbered e hold
    · rw [(hevents e hnew).1]
      exact hkept.engaged_lt hworks
  · rw [hheld]
    rw [htrace] at he
    rcases List.mem_append.1 he with hold | hnew
    · exact h.held_ne e hold hcloses
    · obtain ⟨hid, hclosing⟩ := hevents e hnew
      rw [hclosing hcloses] at hi
      rw [hid]
      exact (hkept.left_of_closing hi).1
  · have hj' := hengaged j e.id hj
    rw [htrace] at he
    rcases List.mem_append.1 he with hold | hnew
    · exact h.engaged_ne e hold hcloses j hj'
    · obtain ⟨hid, hclosing⟩ := hevents e hnew
      rcases eq_or_ne i j with rfl | hne
      · rw [hdone (hclosing hcloses)] at hj
        cases hj
      · rw [hclosing hcloses] at hi
        rw [hid] at hj'
        exact (hkept.left_of_closing hi).2 j hne hj'

theorem moves (h : Quiet s) (hkept : Kept tasks entered finished s) {turn : Turn} {i : ℕ}
    (hmoves : Moves s turn i s') : Quiet s' := by
  have hengaged : ∀ (j : ℕ) id, engaged? s'.tasks[j]? = some id →
      engaged? s.tasks[j]? = some id ∨
        turn = .enter i ∧ (id = s.gateway.count ∨ s.gateway.held = some id) :=
    fun j id ↦ hmoves.engaged?
  have hengaged' : ∀ (j : ℕ) id, engaged? s'.tasks[j]? = some id →
      engaged? s.tasks[j]? = some id ∨ id = s.gateway.count ∨ s.gateway.held = some id :=
    fun j id hj ↦ (hengaged j id hj).imp_right And.right
  cases hmoves with
  | idles | unread | granted => exact h.keep rfl (Nat.le_refl _) (fun _ ↦ Or.inl) hengaged'
  | opens => exact h.keep rfl (Nat.le_succ _) (fun _ ↦ Or.inl) hengaged'
  | picks hi ht hheld hcount htrace hleft =>
    refine h.keep htrace (Nat.le_of_eq hcount.symm) (fun id hid ↦ ?_) hengaged'
    rcases hleft with hnone | ⟨hsome, -⟩
    · exact absurd (hnone.symm.trans hid) nofun
    · exact Or.inl (hheld.trans (hsome.symm.trans hid))
  | @finishes _ t job hi =>
    refine h.finishes hkept hi rfl (fun j id hj ↦ (hengaged j id hj).resolve_right nofun) ?_
    intro hclosing
    rw [hclosing]
    simp [setPhase, hi, Tasks.engaged?]
  | @resumes _ t job result hi =>
    refine h.keep (s.gateway.conclude_trace job result)
      (Nat.le_of_eq (s.gateway.conclude_count job result).symm) (fun id hid ↦ ?_) hengaged'
    rcases s.gateway.conclude_held job result with hheld | ⟨id', rfl, hheld⟩
    · exact Or.inl (hheld.symm.trans hid)
    · obtain rfl := Option.some.inj (hheld.symm.trans hid)
      exact Or.inr ⟨i, by rw [hi]; rfl⟩

end Quiet

end Tasks

end FluentSql.Gateway
