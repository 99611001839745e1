import FluentSql.Builder.Family
import FluentSql.Proofs.Run

/-!
# A call in stages is the call

`Builder.start` and `Builder.resume` take a call from statement to statement, so that other things
can happen while it waits. If nothing does, and every statement is executed as soon as it is sent
(`Builder.drive`), then what comes of it is `Builder.perform` (`drive_start`): the stages are those
of the call, with nothing added and nothing left out.

An insertion of many waits once for each item. That it comes to an end is the measure
`Stage.remaining`, which each reply lowers.

At every stage, also while a call waits, the builder has the dialect, the model and the table that
it began with (`start_reset`, `resume_reset`). What a builder that is derived in the middle of a call
takes over is therefore the same as at any other time.
-/

namespace FluentSql

/-! ### A call in stages is the call -/

/-- How many replies a call can still wait for. -/
def Stage.remaining : Stage → ℕ
  | .returned _ => 0
  | .waiting _ (.statement _) => 1
  | .waiting _ (.insertion _ _ rest) => rest.length + 1

namespace Builder

variable {σ : Type}

theorem insertNext_remaining (b : Builder) (created items : List Value) :
    (b.insertNext created items).2.remaining ≤ items.length := by
  cases items with
  | nil => exact Nat.le_refl _
  | cons item rest =>
    rcases hprepare : b.prepare (.create item) with ⟨b', f | r⟩
    all_goals simp [insertNext, hprepare, Stage.remaining]

theorem resume_remaining_lt (b : Builder) (reply : Except Fault Value) (r : Request)
    (pending : Pending) :
    (b.resume reply pending).2.remaining < (Stage.waiting r pending).remaining := by
  cases pending with
  | statement op => exact Nat.zero_lt_one
  | insertion item created rest =>
    rcases habsorb : b.absorb (.create item) reply with ⟨b', f | row⟩
    · simp [resume, habsorb, Stage.remaining]
    · simp only [resume, habsorb]
      exact Nat.lt_succ_of_le (b'.insertNext_remaining (created ++ [row]) rest)

/-- A call from a stage to its end, with every statement executed as soon as it is sent. -/
def drive (execute : Executor σ) (s : σ) : Builder × Stage → Run σ
  | (b, .returned result) => { builder := b, state := s, sent := [], result }
  | (b, .waiting r pending) =>
    let run := drive execute (execute r s).2 (b.resume (execute r s).1 pending)
    { run with sent := r :: run.sent }
termination_by p => p.2.remaining
decreasing_by exact resume_remaining_lt ..

@[simp]
theorem drive_returned (execute : Executor σ) (s : σ) (b : Builder)
    (result : Except Fault Value) :
    drive execute s (b, .returned result) = { builder := b, state := s, sent := [], result } := by
  rw [drive]

@[simp]
theorem drive_waiting (execute : Executor σ) (s : σ) (b : Builder) (r : Request)
    (pending : Pending) :
    drive execute s (b, .waiting r pending) =
      let run := drive execute (execute r s).2 (b.resume (execute r s).1 pending)
      { run with sent := r :: run.sent } := by
  rw [drive]

theorem drive_insertNext (execute : Executor σ) (items : List Value) :
    ∀ (b : Builder) (s : σ) (created : List Value),
      drive execute s (b.insertNext created items) =
        let all := createEach execute b s created items
        { all with builder := all.builder.reset } := by
  induction items with
  | nil => intro b s created; simp [insertNext, createEach]
  | cons item rest ih =>
    intro b s created
    rcases hprepare : b.prepare (.create item) with ⟨b', f | r⟩
    · simp [insertNext, createEach, run, hprepare]
    · have hnext : b.insertNext created (item :: rest) =
          (b', .waiting r (.insertion item created rest)) := by simp [insertNext, hprepare]
      rw [hnext, drive_waiting]
      rcases habsorb : b'.absorb (.create item) (execute r s).1 with ⟨b'', f | row⟩
      · simp [createEach, run, resume, hprepare, habsorb]
      · simp [createEach, run, resume, hprepare, habsorb, ih]

/-- **A call in stages is the call.** -/
theorem drive_start (execute : Executor σ) (b : Builder) (call : Call) (s : σ) :
    drive execute s (b.start call) = b.perform execute call s := by
  cases call with
  | fluent c => simp [start, perform, runFluent]
  | terminal op =>
    rcases hprepare : b.prepare op with ⟨b', f | r⟩
    all_goals simp [start, perform, run, resume, hprepare]
  | createMany items =>
    rcases hitems : b.itemsToCreate items with f | members
    · simp [start, perform, createMany, hitems]
    · simp only [start, perform, createMany, hitems]
      exact drive_insertNext execute members b s []

/-! ### The table stays -/

theorem prepare_reset (b : Builder) (op : Terminal) : (b.prepare op).1.reset = b.reset := by
  rcases hrequest : (b.focus op).query.request b.dialect op with f | r
  all_goals simp [prepare, hrequest]

theorem insertNext_reset (b : Builder) (created items : List Value) :
    (b.insertNext created items).1.reset = b.reset := by
  cases items with
  | nil => rfl
  | cons item rest =>
    have hreset := b.prepare_reset (.create item)
    rcases hprepare : b.prepare (.create item) with ⟨b', f | r⟩
    all_goals
      rw [hprepare] at hreset
      simpa [insertNext, hprepare] using hreset

/-- The beginning of a call changes neither dialect nor model nor table. -/
theorem start_reset (b : Builder) (call : Call) : (b.start call).1.reset = b.reset := by
  cases call with
  | fluent c => exact b.configure_reset c
  | terminal op =>
    have hreset := b.prepare_reset op
    rcases hprepare : b.prepare op with ⟨b', f | r⟩
    all_goals
      rw [hprepare] at hreset
      simpa [start, hprepare] using hreset
  | createMany items =>
    rcases hitems : b.itemsToCreate items with f | members
    · simp [start, hitems]
    · simpa [start, hitems] using b.insertNext_reset [] members

/-- Nor does what follows on a reply. -/
theorem resume_reset (b : Builder) (reply : Except Fault Value) (pending : Pending) :
    (b.resume reply pending).1.reset = b.reset := by
  cases pending with
  | statement op => rfl
  | insertion item created rest =>
    have habsorb : (b.absorb (.create item) reply).1 = b.reset := rfl
    rcases hresult : b.absorb (.create item) reply with ⟨b', f | row⟩
    all_goals
      rw [hresult] at habsorb
      obtain rfl : b' = b.reset := habsorb
    · simp [resume, hresult]
    · simpa [resume, hresult] using b.reset.insertNext_reset (created ++ [row]) rest

end Builder

end FluentSql
