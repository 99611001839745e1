import FluentSql.Gateway.Usage
import FluentSql.Proofs.Basic

/-!
# The life cycle of what a gateway keeps

A gateway of either kind keeps at most one thing, a connection or a pool, and makes calls on it.
What is true of its life cycle does not depend on the kind, so it is proved once, of everything that
keeps one thing (`Keeper`): the law of a keeper says what one call can do (`Ledger.Moves`), and
everything else here rests on that alone.

* What one call does, given the calls before it, is `Keeper.Abides`. The only thing that counts of
  the past is whether a connect has succeeded since the last disconnect (`Connected`).
* What is true at any time is `Keeper.Custody`, an invariant of the calls so far and the state that
  they have led to. A thing is known by its number, and a number is never given twice: this is why
  nothing can happen any more to what has been closed.

That the two hold in every use of a gateway is `Keeper.lifeCycle`. A use is a tree of calls and
blocks, but its calls stand in a row, each beginning with the state that the one before has left
(`Reaches`); how a block ends is a matter of its own (`Keeper.Leaves`).
-/

namespace FluentSql.Gateway

open FluentSql

/-! ### Events -/

namespace Event

/-- The number of the connection or pool that an event belongs to. -/
def id : Event → ℕ
  | .opened id .. | .rowsNamed id | .built id .. | .poolOpened id _ | .acquired id
  | .released id _ | .executed id .. | .fetched id | .cursorClosed id | .closed id => id

/-- The event belongs to an attempt to open something. -/
def opens : Event → Bool
  | .opened .. | .built .. | .poolOpened .. => true
  | _ => false

/-- The event closes something. -/
def closes : Event → Bool
  | .closed _ => true
  | _ => false

theorem closes_of_opens {e : Event} (h : e.opens = true) : e.closes = false := by
  cases e <;> first | rfl | cases h

end Event

/-- How often a connection or pool has been closed. -/
def closings (id : ℕ) (trace : List Event) : ℕ :=
  trace.countP fun e ↦ e.closes && e.id == id

theorem closings_append (id : ℕ) (l l' : List Event) :
    closings id (l ++ l') = closings id l + closings id l' :=
  List.countP_append

theorem closings_eq_zero {id : ℕ} {l : List Event}
    (h : ∀ e ∈ l, e.closes = true → e.id ≠ id) : closings id l = 0 := by
  rw [closings, List.countP_eq_zero]
  intro e he
  simpa using h e he

theorem closings_pos {l : List Event} {e : Event} (he : e ∈ l) (hcloses : e.closes = true) :
    0 < closings e.id l :=
  List.countP_pos_iff.2 ⟨e, he, by simp [hcloses]⟩

/-! ### Calls in a row -/

variable {σ : Type}

/-- Some calls that were made one after the other, and the state that they have led to. -/
inductive Reaches (perform : Performer σ) (start : σ) : List (Made σ) → σ → Prop
  | nil : Reaches perform start [] start
  | call {calls : List (Made σ)} {s : σ} (h : Reaches perform start calls s) (t : Task) :
    Reaches perform start (calls ++ [make perform s t]) (make perform s t).after

/-- The calls of a use stand in a row. -/
theorem Reaches.run {perform : Performer σ} {start : σ} (usage : Usage) :
    ∀ {calls : List (Made σ)} {s : σ}, Reaches perform start calls s →
      Reaches perform start (calls ++ (usage.run perform s).calls)
        (usage.run perform s).state := by
  induction usage with
  | done result =>
    intro calls s h
    simpa [Usage.run] using h
  | call t =>
    intro calls s h
    exact h.call t
  | andThen first next hfirst hnext =>
    intro calls s h
    simpa [Usage.run] using hnext _ (hfirst h)
  | block body hbody =>
    intro calls s h
    have hentry := h.call .connect
    rcases hresult : (make perform s .connect).result with f | v
    · simpa [Usage.run, hresult] using hentry
    · simpa [Usage.run, hresult] using (hbody hentry).call .disconnect

/-- Each of some calls in a row was made on the state that those before it have led to. -/
theorem Reaches.exists_of_append {perform : Performer σ} {start : σ} {calls : List (Made σ)} {s : σ}
    (h : Reaches perform start calls s) {earlier later : List (Made σ)} {m : Made σ}
    (hcalls : calls = earlier ++ m :: later) :
    Reaches perform start earlier m.before ∧ m = make perform m.before m.task := by
  induction h generalizing later with
  | nil => simp at hcalls
  | @call calls s h t ih =>
    rcases append_singleton_eq_append_cons hcalls with ⟨rfl, rfl, rfl⟩ | ⟨middle, rfl, hmiddle⟩
    · exact ⟨h, rfl⟩
    · exact ih hmiddle

/-- A connect has succeeded, and there has been no disconnect since. -/
def Connected (calls : List (Made σ)) : Prop :=
  ∃ earlier m later, calls = earlier ++ m :: later ∧ m.task = .connect ∧ (∃ v, m.result = .ok v) ∧
    ∀ d ∈ later, d.task ≠ .disconnect

theorem not_connected_nil : ¬ Connected ([] : List (Made σ)) := by
  rintro ⟨earlier, m, later, h, -⟩
  simp at h

/-- One more call is the connect that has succeeded, or it is no disconnect. -/
theorem connected_append_singleton {calls : List (Made σ)} {m : Made σ} :
    Connected (calls ++ [m]) ↔
      (m.task = .connect ∧ ∃ v, m.result = .ok v) ∨ (m.task ≠ .disconnect ∧ Connected calls) := by
  constructor
  · rintro ⟨earlier, k, later, hcalls, htask, hresult, hlater⟩
    rcases append_singleton_eq_append_cons hcalls with ⟨rfl, rfl, rfl⟩ | ⟨middle, rfl, hmiddle⟩
    · exact Or.inl ⟨htask, hresult⟩
    · exact Or.inr ⟨hlater m (by simp), earlier, k, middle, hmiddle, htask, hresult,
        fun d hd ↦ hlater d (by simp [hd])⟩
  · rintro (⟨htask, hresult⟩ | ⟨htask, earlier, k, later, rfl, hk, hresult, hlater⟩)
    · exact ⟨calls, m, [], rfl, htask, hresult, by simp⟩
    · refine ⟨earlier, k, later ++ [m], by simp, hk, hresult, fun d hd ↦ ?_⟩
      rcases List.mem_append.1 hd with hold | hnew
      · exact hlater d hold
      · exact List.mem_singleton.1 hnew ▸ htask

/-! ### Keepers -/

/-- What can be seen of something that keeps one thing at a time: the number of what it keeps, the
number that comes next, what has happened, and the fault of a call that there is nothing to make
on. -/
structure Ledger (σ : Type) where
  held : σ → Option ℕ
  count : σ → ℕ
  trace : σ → List Event
  refusal : Fault

/-- What one call can do. -/
inductive Ledger.Moves (L : Ledger σ) (s : σ) : Task → Except Fault Value → σ → Prop
  /-- There is something already, and a connect does nothing. -/
  | kept {id : ℕ} (hheld : L.held s = some id) : Moves L s .connect (.ok .null) s
  | opened {s' : σ} {v : Value} {events : List Event} (hnone : L.held s = none)
    (hheld : L.held s' = some (L.count s)) (hcount : L.count s' = L.count s + 1)
    (htrace : L.trace s' = L.trace s ++ events) (hne : events ≠ [])
    (hevents : ∀ e ∈ events, e.opens = true ∧ e.id = L.count s) : Moves L s .connect (.ok v) s'
  /-- The opening fails, and there still is nothing. -/
  | refused {s' : σ} {f : Fault} {events : List Event} (hnone : L.held s = none)
    (hheld : L.held s' = none) (hcount : L.count s' = L.count s + 1)
    (htrace : L.trace s' = L.trace s ++ events) (hne : events ≠ [])
    (hevents : ∀ e ∈ events, e.opens = true ∧ e.id = L.count s) : Moves L s .connect (.error f) s'
  /-- There is nothing, and a disconnect does nothing. -/
  | idle (hnone : L.held s = none) : Moves L s .disconnect (.ok .null) s
  /-- What there is is closed, and whether or not this succeeds, there is nothing any more. -/
  | closed {s' : σ} {id : ℕ} {result : Except Fault Value} (hheld : L.held s = some id)
    (hnone : L.held s' = none) (hcount : L.count s' = L.count s)
    (htrace : L.trace s' = L.trace s ++ [.closed id]) : Moves L s .disconnect result s'
  /-- There is nothing to run a statement on. -/
  | unconnected {sql params : Value} (hnone : L.held s = none) :
    Moves L s (.execute sql params) (.error L.refusal) s
  /-- A statement uses what there is. -/
  | used {s' : σ} {id : ℕ} {sql params : Value} {result : Except Fault Value} {events : List Event}
    (hheld : L.held s = some id) (hheld' : L.held s' = some id) (hcount : L.count s' = L.count s)
    (htrace : L.trace s' = L.trace s ++ events)
    (hevents : ∀ e ∈ events, e.opens = false ∧ e.closes = false ∧ e.id = id)
    (hresult : result ≠ .error L.refusal) : Moves L s (.execute sql params) result s'

theorem Ledger.Moves.held_of_failed {L : Ledger σ} {s s' : σ} {f : Fault}
    (h : L.Moves s .connect (.error f) s') : L.held s' = none := by
  cases h with
  | refused _ hheld => exact hheld

theorem Ledger.Moves.held_of_disconnect {L : Ledger σ} {s s' : σ} {result : Except Fault Value}
    (h : L.Moves s .disconnect result s') : L.held s' = none := by
  cases h with
  | idle hnone => exact hnone
  | closed _ hnone => exact hnone

/-- Something that keeps one thing at a time. -/
structure Keeper (σ : Type) extends Ledger σ where
  perform : Performer σ
  moves : ∀ s t, toLedger.Moves s t (perform s t).1 (perform s t).2

namespace Keeper

variable (K : Keeper σ)

theorem moves_make (s : σ) (t : Task) :
    K.Moves s t (make K.perform s t).result (make K.perform s t).after :=
  K.moves s t

/-- What has happened during a call. -/
def events (m : Made σ) : List Event :=
  (K.trace m.after).drop (K.trace m.before).length

theorem events_eq {m : Made σ} {l : List Event}
    (h : K.trace m.after = K.trace m.before ++ l) : K.events m = l := by
  rw [events, h, List.drop_left]

/-- A call that succeeded has opened the connection or pool of this number. -/
def Opened (calls : List (Made σ)) (id : ℕ) : Prop :=
  ∃ m ∈ calls, (∃ v, m.result = .ok v) ∧ ∃ e ∈ K.events m, e.opens = true ∧ e.id = id

/-- One more call opens something only if it succeeds. -/
theorem opened_append_singleton {calls : List (Made σ)} {m : Made σ} {id : ℕ} :
    K.Opened (calls ++ [m]) id ↔
      K.Opened calls id ∨
        (∃ v, m.result = .ok v) ∧ ∃ e ∈ K.events m, e.opens = true ∧ e.id = id := by
  simp only [Opened, List.mem_append, List.mem_singleton, or_and_right, exists_or,
    exists_eq_left]

/-- What numbers do: each is given once, and none comes back after what it belongs to has been
closed. -/
structure Numbering (calls : List (Made σ)) (s : σ) : Prop where
  /-- Nothing has happened but during the calls. -/
  trace_eq : K.trace s = calls.flatMap K.events
  /-- The next number is new. -/
  numbered : ∀ e ∈ K.trace s, e.id < K.count s
  /-- What could not be opened has not been opened by another call either. So, by `Custody.used`,
  nothing else ever happens to it. -/
  failed : ∀ m ∈ calls, ∀ f, m.result = .error f → ∀ e ∈ K.events m, e.opens = true →
    ¬ K.Opened calls e.id
  /-- Nothing at all happens to anything after it has been closed. -/
  quiet : (K.trace s).Pairwise fun e e' ↦ e.closes = true → e'.id ≠ e.id

/-- What is true at any time, given the calls so far. -/
structure Custody (calls : List (Made σ)) (s : σ) : Prop extends K.Numbering calls s where
  /-- Something is kept exactly if a connect has succeeded since the last disconnect. -/
  connected_iff : Connected calls ↔ (K.held s).isSome = true
  /-- What is kept is what has been opened and has not been closed. So of all that was ever opened
  there is at most one that has not been closed. -/
  held_iff : ∀ id, K.held s = some id ↔ K.Opened calls id ∧ closings id (K.trace s) = 0
  /-- Everything else that has been opened has been closed exactly once. -/
  closedOnce : ∀ id, K.Opened calls id → K.held s ≠ some id → closings id (K.trace s) = 1
  /-- Whatever happens to anything, apart from the attempt to open it, happens to what has been
  opened. -/
  used : ∀ e ∈ K.trace s, e.opens = false → K.Opened calls e.id

variable {K} {calls : List (Made σ)} {m : Made σ} {events : List Event}

theorem Numbering.numbered_calls {s : σ} (h : K.Numbering calls s) (hm : m ∈ calls) {e : Event}
    (he : e ∈ K.events m) : e.id < K.count s := by
  refine h.numbered e ?_
  rw [h.trace_eq]
  exact List.mem_flatMap_of_mem hm he

theorem Numbering.opened_lt {s : σ} (h : K.Numbering calls s) {id : ℕ} (hid : K.Opened calls id) :
    id < K.count s := by
  obtain ⟨m, hm, -, e, he, -, rfl⟩ := hid
  exact h.numbered_calls hm he

/-- What happens during a call has the next number, or that of something that has not been
closed. -/
theorem Numbering.append (h : K.Numbering calls m.before)
    (hcount : K.count m.before ≤ K.count m.after)
    (htrace : K.trace m.after = K.trace m.before ++ events)
    (hlt : ∀ e ∈ events, e.id < K.count m.after)
    (hopens : ∀ e ∈ events, e.opens = true → e.id = K.count m.before)
    (hold : ∀ e ∈ K.trace m.before, e.closes = true → ∀ e' ∈ events, e'.id ≠ e.id)
    (hnew : events.Pairwise fun e e' ↦ e.closes = true → e'.id ≠ e.id) :
    K.Numbering (calls ++ [m]) m.after where
  trace_eq := by
    rw [htrace, h.trace_eq, List.flatMap_append, List.flatMap_singleton, K.events_eq htrace]
  numbered := by
    intro e he
    rw [htrace, List.mem_append] at he
    rcases he with he | he
    · exact Nat.lt_of_lt_of_le (h.numbered e he) hcount
    · exact hlt e he
  failed := by
    intro k hk f hf e he hopen hid
    rw [opened_append_singleton, K.events_eq htrace] at hid
    rcases List.mem_append.1 hk with hk | hk
    · rcases hid with hid | ⟨-, e', he', hopen', hid⟩
      · exact h.failed k hk f hf e he hopen hid
      · have hlast := hopens e' he' hopen'
        have hearlier := h.numbered_calls hk he
        omega
    · obtain rfl := List.mem_singleton.1 hk
      rw [K.events_eq htrace] at he
      rcases hid with hid | ⟨⟨v, hv⟩, -⟩
      · have hlast := hopens e he hopen
        have hearlier := h.opened_lt hid
        omega
      · rw [hf] at hv
        cases hv
  quiet := by
    rw [htrace, List.pairwise_append]
    exact ⟨h.quiet, hnew, fun e he e' he' hcloses ↦ hold e he hcloses e' he'⟩

namespace Custody

/-- In the beginning nothing has happened. -/
theorem nil {s : σ} (hheld : K.held s = none) (htrace : K.trace s = []) : K.Custody [] s where
  trace_eq := by simp [htrace]
  numbered := by simp [htrace]
  failed := by simp
  quiet := by simp [htrace]
  connected_iff := by simp [not_connected_nil, hheld]
  held_iff := by simp [Opened, hheld]
  closedOnce := by simp [Opened]
  used := by simp [htrace]

/-- What is kept has not been closed. -/
theorem ne_of_closes {s : σ} (h : K.Custody calls s) {id : ℕ} (hheld : K.held s = some id)
    {e : Event} (he : e ∈ K.trace s) (hcloses : e.closes = true) : id ≠ e.id := by
  rintro rfl
  have hzero := ((h.held_iff _).1 hheld).2
  have hpos := closings_pos he hcloses
  omega

/-- A call after which there is kept what there was before: it closes nothing, it opens nothing with
success, and what else it does it does to what is kept. -/
theorem keep (h : K.Custody calls m.before) (hheld : K.held m.after = K.held m.before)
    (hcount : K.count m.before ≤ K.count m.after)
    (htrace : K.trace m.after = K.trace m.before ++ events)
    (hcloses : ∀ e ∈ events, e.closes = false)
    (hopens : ∀ e ∈ events, e.opens = true →
      e.id = K.count m.before ∧ K.count m.before < K.count m.after ∧ ∃ f, m.result = .error f)
    (huses : ∀ e ∈ events, e.opens = false → K.held m.before = some e.id)
    (hconnected : Connected (calls ++ [m]) ↔ Connected calls) :
    K.Custody (calls ++ [m]) m.after := by
  have hopened : ∀ id, K.Opened (calls ++ [m]) id ↔ K.Opened calls id := by
    intro id
    rw [opened_append_singleton, K.events_eq htrace]
    refine or_iff_left ?_
    rintro ⟨⟨v, hv⟩, e, he, hopen, -⟩
    obtain ⟨-, -, f, hf⟩ := hopens e he hopen
    rw [hf] at hv
    cases hv
  have hclosings : ∀ id, closings id (K.trace m.after) = closings id (K.trace m.before) := by
    intro id
    rw [htrace, closings_append, closings_eq_zero (l := events), Nat.add_zero]
    intro e he hclose
    simp [hcloses e he] at hclose
  -- What is used is kept, and what is being opened has the next number.
  have hids : ∀ e ∈ events, K.held m.before = some e.id ∨
      (e.id = K.count m.before ∧ K.count m.before < K.count m.after) := by
    intro e he
    by_cases hopen : e.opens = true
    · exact Or.inr ⟨(hopens e he hopen).1, (hopens e he hopen).2.1⟩
    · exact Or.inl (huses e he (by simpa using hopen))
  refine ⟨h.toNumbering.append hcount htrace (fun e he ↦ ?_)
    (fun e he hopen ↦ (hopens e he hopen).1) (fun e he hclose e' he' ↦ ?_) ?_,
    ?_, fun id ↦ ?_, fun id ↦ ?_, fun e he hopen ↦ ?_⟩
  · rcases hids e he with hkept | ⟨hid, hlt⟩
    · exact Nat.lt_of_lt_of_le (h.opened_lt ((h.held_iff _).1 hkept).1) hcount
    · omega
  · rcases hids e' he' with hkept | ⟨hid, -⟩
    · exact h.ne_of_closes hkept he hclose
    · have hlt := h.numbered e he
      omega
  · refine List.pairwise_of_forall_mem_list fun e he e' _ hclose ↦ ?_
    simp [hcloses e he] at hclose
  · rw [hconnected, hheld]
    exact h.connected_iff
  · rw [hheld, hopened, hclosings]
    exact h.held_iff id
  · rw [hheld, hopened, hclosings]
    exact h.closedOnce id
  · rw [hopened]
    rw [htrace, List.mem_append] at he
    rcases he with hold | hnew
    · exact h.used e hold hopen
    · exact ((h.held_iff _).1 (huses e hnew hopen)).1

/-- A call in which nothing happens. -/
theorem still (h : K.Custody calls m.before) (hstill : m.after = m.before)
    (hconnected : Connected (calls ++ [m]) ↔ Connected calls) :
    K.Custody (calls ++ [m]) m.after := by
  have htrace : K.trace m.after = K.trace m.before ++ [] := by rw [hstill, List.append_nil]
  exact h.keep (by rw [hstill]) (Nat.le_of_eq (by rw [hstill])) htrace (by simp) (by simp) (by simp)
    hconnected

/-- A call that opens something. -/
theorem opening (h : K.Custody calls m.before) (hnone : K.held m.before = none)
    (hheld : K.held m.after = some (K.count m.before))
    (hcount : K.count m.after = K.count m.before + 1)
    (htrace : K.trace m.after = K.trace m.before ++ events) (hne : events ≠ [])
    (hevents : ∀ e ∈ events, e.opens = true ∧ e.id = K.count m.before)
    (htask : m.task = .connect) (hresult : ∃ v, m.result = .ok v) :
    K.Custody (calls ++ [m]) m.after := by
  have hopened : ∀ id, K.Opened (calls ++ [m]) id ↔ K.Opened calls id ∨ id = K.count m.before := by
    intro id
    rw [opened_append_singleton, K.events_eq htrace]
    refine or_congr_right ⟨?_, ?_⟩
    · rintro ⟨-, e, he, -, rfl⟩
      exact (hevents e he).2
    · rintro rfl
      obtain ⟨e, he⟩ := List.exists_mem_of_ne_nil _ hne
      exact ⟨hresult, e, he, hevents e he⟩
  have hcloses : ∀ e ∈ events, e.closes = true → False := by
    intro e he hclose
    simp [Event.closes_of_opens (hevents e he).1] at hclose
  have hclosings : ∀ id, closings id (K.trace m.after) = closings id (K.trace m.before) := by
    intro id
    rw [htrace, closings_append, closings_eq_zero (l := events), Nat.add_zero]
    exact fun e he hclose ↦ (hcloses e he hclose).elim
  have hnew : closings (K.count m.before) (K.trace m.before) = 0 :=
    closings_eq_zero fun e he _ ↦ Nat.ne_of_lt (h.numbered e he)
  refine ⟨h.toNumbering.append (by omega) htrace (fun e he ↦ ?_) (fun e he _ ↦ (hevents e he).2)
    (fun e he hclose e' he' ↦ ?_) ?_, ?_, fun id ↦ ?_, fun id ↦ ?_, fun e he hopen ↦ ?_⟩
  · rw [(hevents e he).2, hcount]
    exact Nat.lt_succ_self _
  · rw [(hevents e' he').2]
    exact (Nat.ne_of_lt (h.numbered e he)).symm
  · exact List.pairwise_of_forall_mem_list fun e he e' _ hclose ↦ (hcloses e he hclose).elim
  · simp [connected_append_singleton, htask, hresult, hheld]
  · rw [hheld, hopened, hclosings]
    constructor
    · intro hid
      obtain rfl := Option.some.inj hid
      exact ⟨Or.inr rfl, hnew⟩
    · rintro ⟨hid | rfl, hzero⟩
      · have hkept := (h.held_iff id).2 ⟨hid, hzero⟩
        rw [hnone] at hkept
        cases hkept
      · rfl
  · rw [hheld, hopened, hclosings]
    rintro (hid | rfl) hne
    · exact h.closedOnce id hid (by simp [hnone])
    · exact absurd rfl hne
  · rw [hopened]
    rw [htrace, List.mem_append] at he
    rcases he with hold | hnew
    · exact Or.inl (h.used e hold hopen)
    · simp [(hevents e hnew).1] at hopen

/-- A call that closes what is kept. -/
theorem closing (h : K.Custody calls m.before) {id : ℕ} (hheld : K.held m.before = some id)
    (hnone : K.held m.after = none) (hcount : K.count m.after = K.count m.before)
    (htrace : K.trace m.after = K.trace m.before ++ [.closed id]) (htask : m.task = .disconnect) :
    K.Custody (calls ++ [m]) m.after := by
  have hkept := (h.held_iff id).1 hheld
  have hopened : ∀ id', K.Opened (calls ++ [m]) id' ↔ K.Opened calls id' := by
    intro id'
    rw [opened_append_singleton, K.events_eq htrace]
    simp [Event.opens]
  have hclosings : ∀ id', closings id' (K.trace m.after) =
      closings id' (K.trace m.before) + if id = id' then 1 else 0 := by
    intro id'
    rw [htrace, closings_append]
    simp [closings, Event.closes, Event.id, List.countP_cons]
  refine ⟨h.toNumbering.append (by omega) htrace ?_ ?_ ?_ ?_, ?_, fun id' ↦ ?_, fun id' ↦ ?_,
    fun e he hopen ↦ ?_⟩
  · simpa [Event.id, hcount] using h.opened_lt hkept.1
  · simp [Event.opens]
  · intro e he hclose
    simpa [Event.id] using h.ne_of_closes hheld he hclose
  · simp
  · simp [connected_append_singleton, htask, hnone]
  · rw [hnone, hopened, hclosings]
    refine ⟨fun hsome ↦ (nomatch hsome), fun ⟨hid, hzero⟩ ↦ ?_⟩
    have hstill := (h.held_iff id').2 ⟨hid, by omega⟩
    rw [hheld] at hstill
    obtain rfl := Option.some.inj hstill
    simp at hzero
  · rw [hopened, hclosings]
    intro hid _
    by_cases hsame : id = id'
    · subst hsame
      simp [hkept.2]
    · simp [hsame, h.closedOnce id' hid (by simpa [hheld] using hsame)]
  · rw [hopened]
    rw [htrace, List.mem_append] at he
    rcases he with hold | hnew
    · exact h.used e hold hopen
    · obtain rfl := List.mem_singleton.1 hnew
      exact hkept.1

/-- Whatever a call does, it keeps what is true at any time. -/
theorem moves {s s' : σ} {t : Task} {result : Except Fault Value} (h : K.Custody calls s)
    (hmoves : K.Moves s t result s') : K.Custody (calls ++ [⟨t, s, result, s'⟩]) s' := by
  have hconnected : ∀ m : Made σ, m.task ≠ .connect → m.task ≠ .disconnect →
      (Connected (calls ++ [m]) ↔ Connected calls) := by
    intro m hconnect hdisconnect
    simp [connected_append_singleton, hconnect, hdisconnect]
  cases hmoves with
  | kept hheld =>
    refine h.still (m := ⟨_, _, _, _⟩) rfl ?_
    simp [connected_append_singleton, h.connected_iff, hheld]
  | opened hnone hheld hcount htrace hne hevents =>
    exact h.opening (m := ⟨_, _, _, _⟩) hnone hheld hcount htrace hne hevents rfl ⟨_, rfl⟩
  | @refused _ f _ hnone hheld hcount htrace hne hevents =>
    refine h.keep (m := ⟨_, _, _, _⟩) (hheld.trans hnone.symm) (by simp [hcount]) htrace ?_ ?_ ?_ ?_
    · exact fun e he ↦ Event.closes_of_opens (hevents e he).1
    · exact fun e he hopen ↦ ⟨(hevents e he).2, by simp [hcount], f, rfl⟩
    · intro e he hopen
      simp [(hevents e he).1] at hopen
    · simp [connected_append_singleton]
  | idle hnone =>
    refine h.still (m := ⟨_, _, _, _⟩) rfl ?_
    simp [connected_append_singleton, h.connected_iff, hnone]
  | closed hheld hnone hcount htrace =>
    exact h.closing (m := ⟨_, _, _, _⟩) hheld hnone hcount htrace rfl
  | unconnected hnone => exact h.still (m := ⟨_, _, _, _⟩) rfl (hconnected _ nofun nofun)
  | used hheld hheld' hcount htrace hevents hresult =>
    refine h.keep (m := ⟨_, _, _, _⟩) (hheld'.trans hheld.symm) (by simp [hcount]) htrace
      (fun e he ↦ (hevents e he).2.1) ?_ ?_ (hconnected _ nofun nofun)
    · intro e he hopen
      simp [(hevents e he).1] at hopen
    · exact fun e he _ ↦ hheld.trans (congrArg some (hevents e he).2.2.symm)

theorem of_reaches {start s : σ} (h : Reaches K.perform start calls s)
    (hheld : K.held start = none) (htrace : K.trace start = []) : K.Custody calls s := by
  induction h with
  | nil => exact .nil hheld htrace
  | @call calls s _ t ih => exact ih.moves (K.moves s t)

end Custody

variable (K)

/-- What a connect does, given the calls before it. -/
structure Connects (earlier : List (Made σ)) (m : Made σ) : Prop where
  /-- A second connect does nothing. -/
  still : Connected earlier → m.result = .ok .null ∧ m.after = m.before
  /-- The first one, and each after a failure or a disconnect, tries to open something new. -/
  tries : ¬ Connected earlier →
    K.events m ≠ [] ∧ ∀ e ∈ K.events m, e.opens = true ∧ e.id = K.count m.before
  /-- If it fails, nothing is kept. -/
  failed : ∀ f, m.result = .error f → K.held m.after = none

/-- What a disconnect does, given the calls before it. -/
structure Disconnects (earlier : List (Made σ)) (m : Made σ) : Prop where
  /-- A second disconnect does nothing. -/
  still : ¬ Connected earlier → m.result = .ok .null ∧ m.after = m.before
  /-- The first one closes what is kept, and does nothing else. -/
  closes : ∀ id, K.held m.before = some id → K.events m = [.closed id]
  /-- After it nothing is kept, also if the closing fails. -/
  disconnected : K.held m.after = none

/-- What a statement does, given the calls before it. -/
structure Executes (earlier : List (Made σ)) (m : Made σ) : Prop where
  /-- It is refused exactly if no connect has succeeded since the last disconnect, -/
  refused_iff : m.result = .error K.refusal ↔ ¬ Connected earlier
  /-- and then nothing happens. -/
  still : ¬ Connected earlier → m.after = m.before
  /-- Otherwise it uses what is kept and nothing else, and this is kept on. -/
  uses : Connected earlier → K.held m.after = K.held m.before ∧
    ∀ e ∈ K.events m, e.opens = false ∧ e.closes = false ∧ K.held m.before = some e.id

/-- What a call does, given the calls before it. -/
def Abides (earlier : List (Made σ)) (m : Made σ) : Prop :=
  match m.task with
  | .connect => K.Connects earlier m
  | .disconnect => K.Disconnects earlier m
  | .execute _ _ => K.Executes earlier m

variable {K}

theorem Custody.not_connected_iff {s : σ} (h : K.Custody calls s) :
    ¬ Connected calls ↔ K.held s = none := by
  rw [h.connected_iff, Bool.not_eq_true, Option.isSome_eq_false_iff, Option.isNone_iff_eq_none]

/-- What a call can do is what it does, given the calls before it. -/
theorem Custody.abides {s s' : σ} {t : Task} {result : Except Fault Value} (h : K.Custody calls s)
    (hmoves : K.Moves s t result s') : K.Abides calls ⟨t, s, result, s'⟩ := by
  have hnone_iff := h.not_connected_iff
  have hconnected : ∀ {id : ℕ}, K.held s = some id → Connected calls := by
    intro id hheld
    simp [h.connected_iff, hheld]
  cases hmoves with
  | kept hheld =>
    exact {
      still := fun _ ↦ ⟨rfl, rfl⟩
      tries := fun hno ↦ absurd (hconnected hheld) hno
      failed := nofun }
  | opened hnone hheld hcount htrace hne hevents =>
    exact {
      still := fun hyes ↦ absurd hyes (hnone_iff.2 hnone)
      tries := fun _ ↦ by
        rw [K.events_eq htrace]
        exact ⟨hne, hevents⟩
      failed := nofun }
  | refused hnone hheld hcount htrace hne hevents =>
    exact {
      still := fun hyes ↦ absurd hyes (hnone_iff.2 hnone)
      tries := fun _ ↦ by
        rw [K.events_eq htrace]
        exact ⟨hne, hevents⟩
      failed := fun _ _ ↦ hheld }
  | idle hnone =>
    exact {
      still := fun _ ↦ ⟨rfl, rfl⟩
      closes := fun id hheld ↦ absurd (hconnected hheld) (hnone_iff.2 hnone)
      disconnected := hnone }
  | closed hheld hnone hcount htrace =>
    exact {
      still := fun hno ↦ absurd (hconnected hheld) hno
      closes := fun id hheld' ↦ by
        obtain rfl := Option.some.inj (hheld.symm.trans hheld')
        exact K.events_eq htrace
      disconnected := hnone }
  | unconnected hnone =>
    exact {
      refused_iff := iff_of_true rfl (hnone_iff.2 hnone)
      still := fun _ ↦ rfl
      uses := fun hyes ↦ absurd hyes (hnone_iff.2 hnone) }
  | used hheld hheld' hcount htrace hevents hresult =>
    exact {
      refused_iff := iff_of_false hresult (not_not_intro (hconnected hheld))
      still := fun hno ↦ absurd (hconnected hheld) hno
      uses := fun _ ↦ by
        rw [K.events_eq htrace]
        refine ⟨hheld'.trans hheld.symm, fun e he ↦ ?_⟩
        obtain ⟨hopen, hclose, hid⟩ := hevents e he
        exact ⟨hopen, hclose, hid ▸ hheld⟩ }

/-! ### Uses -/

/-- How a block ends. -/
structure Leaves (K : Keeper σ) (s : σ) (body : Usage) : Prop where
  /-- It ends with a disconnect, however its body ends, and it fails as the body does unless the
  disconnect fails. -/
  entered : ∀ v, (make K.perform s .connect).result = .ok v →
    let inside := body.run K.perform (make K.perform s .connect).after
    let exit := make K.perform inside.state .disconnect
    ((Usage.block body).run K.perform s).calls =
        make K.perform s .connect :: inside.calls ++ [exit] ∧
      ((Usage.block body).run K.perform s).result = blockResult inside.result exit.result
  /-- If it cannot connect, its body is not run. -/
  refused : ∀ f, (make K.perform s .connect).result = .error f →
    ((Usage.block body).run K.perform s).calls = [make K.perform s .connect] ∧
      ((Usage.block body).run K.perform s).result = .error f
  /-- In any case nothing is kept. -/
  disconnected : K.held ((Usage.block body).run K.perform s).state = none

theorem leaves (s : σ) (body : Usage) : K.Leaves s body where
  entered := by
    intro v hv
    simp [Usage.run, hv]
  refused := by
    intro f hf
    simp [Usage.run, hf]
  disconnected := by
    rcases hresult : (make K.perform s .connect).result with f | v
    · have hmoves := K.moves_make s .connect
      rw [hresult] at hmoves
      simpa [Usage.run, hresult] using hmoves.held_of_failed
    · simpa [Usage.run, hresult] using (K.moves_make _ .disconnect).held_of_disconnect

variable (K) in
/-- What is true of a use of a gateway. -/
structure LifeCycle (start : σ) (usage : Usage) : Prop where
  /-- Each call was made on the state that the calls before it have led to, and does what it has to
  do after these. -/
  abides : ∀ earlier m later, (usage.run K.perform start).calls = earlier ++ m :: later →
    m = make K.perform m.before m.task ∧ K.Custody earlier m.before ∧ K.Abides earlier m
  /-- Nothing has gone wrong in the end. -/
  custody : K.Custody (usage.run K.perform start).calls (usage.run K.perform start).state
  /-- Each block is left. -/
  leaves : ∀ s body, K.Leaves s body

/-- Any use of a gateway on which nothing has happened before. -/
theorem lifeCycle {start : σ} (hheld : K.held start = none) (htrace : K.trace start = [])
    (usage : Usage) : K.LifeCycle start usage where
  abides := by
    intro earlier m later hcalls
    obtain ⟨hreaches, hm⟩ := (Reaches.run usage .nil).exists_of_append hcalls
    have hcustody : K.Custody earlier m.before := .of_reaches hreaches hheld htrace
    have habides := hcustody.abides (K.moves_make m.before m.task)
    exact ⟨hm, hcustody, hm ▸ habides⟩
  custody := .of_reaches (Reaches.run usage .nil) hheld htrace
  leaves := leaves

theorem LifeCycle.eq_make {start : σ} {usage : Usage} (h : K.LifeCycle start usage)
    (hm : m ∈ (usage.run K.perform start).calls) : m = make K.perform m.before m.task := by
  obtain ⟨earlier, later, hcalls⟩ := List.append_of_mem hm
  exact (h.abides earlier m later hcalls).1

end Keeper

end FluentSql.Gateway
