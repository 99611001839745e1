import FluentSql.Proofs.Stages
import Mathlib.Data.List.Induction

/-!
# Builders side by side do not see each other

In a family of builders the calls of different members overlap in every way that the waiting for
replies allows, and new members are derived at any time. A member is compared with itself alone: the
builder that it began with, to which only its own signals come (`Member.receiveAll`), or, if no call
on it is under way, on which its calls are made in full, one after the other, by a gateway that
replays what it was replied (`Member.Performs`).

* For one member the comparison is an induction on its signals (`performs_of_receiveAll`). A call
  that was begun and resumed from reply to reply is `drive` under replay, and so it is the call.
* For the family the invariant is that every member is what its own signals make of its origin
  (`Family.Apart`). A signal reaches one member (`Apart.signal`), and a derived builder takes nothing
  over but the dialect, which no signal to any member changes (`Apart.derive`). So all origins are
  known beforehand: they are the root of the family and what the root would have derived, whoever it
  was that did (`origins`).
-/

namespace FluentSql

namespace Builder

/-- A gateway that gives replies that are fixed beforehand, whatever it is asked. -/
def replay : Executor (List (Except Fault Value)) := fun _ replies ↦
  match replies with
  | [] => (.ok .null, [])
  | v :: rest => (v, rest)

end Builder

/-! ### One member alone -/

/-- The calls among some signals. -/
def callsIn : List Signal → List Call :=
  List.filterMap fun
    | .start c => some c
    | .reply _ => none

/-- The replies among some signals. -/
def repliesIn : List Signal → List (Except Fault Value) :=
  List.filterMap fun
    | .start _ => none
    | .reply v => some v

namespace Member

@[simp]
theorem settle_builder (m : Member) (p : Builder × Stage) : (m.settle p).builder = p.1 := by
  rcases p with ⟨b, result | ⟨r, pending⟩⟩ <;> rfl

theorem receiveAll_cons (m : Member) (signal : Signal) (rest : List Signal) :
    m.receiveAll (signal :: rest) = (m.receive signal).bind (·.receiveAll rest) :=
  List.foldlM_cons

theorem receiveAll_append (m : Member) (signals further : List Signal) :
    m.receiveAll (signals ++ further) = (m.receiveAll signals).bind (·.receiveAll further) :=
  List.foldlM_append

/-- No signal changes dialect, model or table. -/
theorem receive_reset {m m' : Member} {signal : Signal} (h : m.receive signal = some m') :
    m'.builder.reset = m.builder.reset := by
  cases signal with
  | start c =>
    rcases hpending : m.pending with _ | pending
    · simp only [receive, hpending, Option.some.injEq] at h
      rw [← h, settle_builder, Builder.start_reset]
    · simp [receive, hpending] at h
  | reply v =>
    rcases hpending : m.pending with _ | pending
    · simp [receive, hpending] at h
    · simp only [receive, hpending, Option.some.injEq] at h
      rw [← h, settle_builder, Builder.resume_reset]

theorem receiveAll_reset {signals : List Signal} {m m' : Member}
    (h : m.receiveAll signals = some m') : m'.builder.reset = m.builder.reset := by
  induction signals generalizing m with
  | nil =>
    obtain rfl := Option.some.inj h
    rfl
  | cons signal rest ih =>
    rw [receiveAll_cons, Option.bind_eq_some_iff] at h
    obtain ⟨next, hnext, hrest⟩ := h
    rw [ih hrest, receive_reset hnext]

/-- What has become of a member by some calls that were made in full one after the other: its
builder is the one that they leave, it has sent what they send, and its results are theirs. They
were given the replies in their order, and `left` are those that they had no use for. -/
structure Performs (before after : Member) (replies : List (Except Fault Value))
    (calls : List Call) (left : List (Except Fault Value)) : Prop where
  builder : after.builder = (before.builder.performAll Builder.replay replies calls).builder
  sent : after.sent =
    before.sent ++ (before.builder.performAll Builder.replay replies calls).sent
  results : after.results =
    before.results ++ (before.builder.transcript Builder.replay replies calls).map Prod.snd
  state : (before.builder.performAll Builder.replay replies calls).state = left

/-- The member after a whole call. -/
def finish (m : Member) (one : Builder.Run (List (Except Fault Value))) : Member :=
  { builder := one.builder, sent := m.sent ++ one.sent, results := m.results ++ [one.result] }

theorem Performs.nil (m : Member) (replies : List (Except Fault Value)) :
    Performs m m replies [] replies where
  builder := rfl
  sent := (List.append_nil _).symm
  results := (List.append_nil _).symm
  state := rfl

theorem Performs.cons {before after : Member} {replies left : List (Except Fault Value)} {c : Call}
    {calls : List Call}
    (h : Performs (before.finish (before.builder.perform Builder.replay c replies)) after
      (before.builder.perform Builder.replay c replies).state calls left) :
    Performs before after replies (c :: calls) left where
  builder := by
    rw [h.builder, Builder.performAll_cons_builder, ← Builder.perform_builder Builder.replay _ c]
    rfl
  sent := by
    rw [h.sent, Builder.performAll_sent, Builder.performAll_sent, Builder.transcript,
      List.flatMap_cons, ← List.append_assoc]
    rfl
  results := by
    rw [h.results, Builder.transcript, List.map_cons]
    exact List.append_assoc ..
  state := by
    rw [Builder.performAll_cons_state, ← Builder.perform_builder Builder.replay _ c]
    exact h.state

/-- A member whose call has come to a stage, after some more signals and with no call under way: the
call has gone to its end, and the calls behind it have been made in full. -/
theorem performs_of_settle {signals : List Signal} (more : List (Except Fault Value)) :
    ∀ {m m' : Member} {p : Builder × Stage},
      (m.settle p).receiveAll signals = some m' → m'.pending = none →
        let one := Builder.drive Builder.replay (repliesIn signals ++ more) p
        Performs (m.finish one) m' one.state (callsIn signals) more := by
  induction signals with
  | nil =>
    rintro m m' ⟨b, result | ⟨r, pending⟩⟩ h hidle
    · obtain rfl := Option.some.inj h
      simp only [Builder.drive_returned, finish, List.append_nil, ← hidle]
      exact .nil _ more
    · obtain rfl := Option.some.inj h
      cases hidle
  | cons signal rest ih =>
    rintro m m' ⟨b, result | ⟨r, pending⟩⟩ h hidle
    · cases signal with
      | start c =>
        -- The call is over, and the next one begins on the builder that it has left.
        have hrest := ih (p := b.start c) h hidle
        rw [Builder.drive_start] at hrest
        have hall : Performs (m.settle (b, .returned result)) m' (repliesIn rest ++ more)
            (c :: callsIn rest) more := .cons hrest
        simpa [finish, settle, repliesIn, callsIn] using hall
      | reply v => cases h
    · cases signal with
      | start c => cases h
      | reply v =>
        -- The call goes on. Its statement has been counted already when it was sent.
        have hrest := ih (p := b.resume v pending) h hidle
        simpa [finish, settle, repliesIn, callsIn, Builder.replay] using hrest

/-- A member on which no call is under way, after some signals and again with no call under way. -/
theorem performs_of_receiveAll {signals : List Signal} {m m' : Member} (hidle : m.pending = none)
    (h : m.receiveAll signals = some m') (hidle' : m'.pending = none)
    (more : List (Except Fault Value)) :
    Performs m m' (repliesIn signals ++ more) (callsIn signals) more := by
  cases signals with
  | nil =>
    obtain rfl := Option.some.inj h
    exact .nil m more
  | cons signal rest =>
    rw [receiveAll_cons, Option.bind_eq_some_iff] at h
    obtain ⟨next, hnext, hrest⟩ := h
    cases signal with
    | start c =>
      simp only [receive, hidle, Option.some.injEq] at hnext
      subst hnext
      have hall := performs_of_settle more hrest hidle'
      rw [Builder.drive_start] at hall
      exact .cons hall
    | reply v => simp [receive, hidle] at hnext

end Member

/-! ### The family -/

/-- The builder that a move derives, if it derives one: it does not matter from which member. -/
def Move.derived? (b : Builder) : Move → Option Builder
  | .derive _ name model => some (b.table name model)
  | .signal .. => none

/-- What a move is to a member. -/
def Move.signalTo? (i : ℕ) : Move → Option Signal
  | .derive .. => none
  | .signal j x => if j = i then some x else none

/-- The builders that the members of a family begin with. -/
def origins (b : Builder) (moves : List Move) : List Builder :=
  b :: moves.filterMap (Move.derived? b)

/-- The signals of one member among some moves. -/
def signalsTo (i : ℕ) (moves : List Move) : List Signal :=
  moves.filterMap (Move.signalTo? i)

theorem origins_append (b : Builder) (moves : List Move) (move : Move) :
    origins b (moves ++ [move]) = origins b moves ++ (move.derived? b).toList := by
  rw [origins, List.filterMap_append, origins, List.cons_append]
  cases hderived : move.derived? b <;> simp [hderived]

theorem signalsTo_append (i : ℕ) (moves : List Move) (move : Move) :
    signalsTo i (moves ++ [move]) = signalsTo i moves ++ (move.signalTo? i).toList := by
  rw [signalsTo, List.filterMap_append, signalsTo]
  cases hsignal : move.signalTo? i <;> simp [hsignal]

theorem origins_dialect {b o : Builder} {moves : List Move} (h : o ∈ origins b moves) :
    o.dialect = b.dialect := by
  rcases List.mem_cons.1 h with rfl | hderived
  · rfl
  · obtain ⟨move, -, hmove⟩ := List.mem_filterMap.1 hderived
    cases move with
    | derive source name model =>
      obtain rfl := Option.some.inj hmove
      rfl
    | signal i signal => cases hmove

namespace Family

/-- Every member of a family is what its own signals make of the builder that it began with. -/
structure Apart (b : Builder) (moves : List Move) (family : Family) : Prop where
  length : family.members.length = (origins b moves).length
  /-- Nothing happens to a member before it is derived. -/
  later : ∀ i, family.members.length ≤ i → signalsTo i moves = []
  alone : ∀ i o, (origins b moves)[i]? = some o → ∃ m, family.members[i]? = some m ∧
    Member.receiveAll { builder := o } (signalsTo i moves) = some m

variable {b : Builder} {moves : List Move} {family family' : Family}

theorem apart_root (b : Builder) : Apart b [] (root b) where
  length := rfl
  later := fun _ _ ↦ rfl
  alone := by
    intro i o ho
    cases i with
    | zero =>
      obtain rfl := Option.some.inj ho
      exact ⟨{ builder := b }, rfl, rfl⟩
    | succ i => cases ho

theorem step?_derive_eq_some_iff {source : ℕ} {name : Value} {model : Option RowModel} :
    family.step? (.derive source name model) = some family' ↔
      ∃ m, family.members[source]? = some m ∧
        { members := family.members ++ [{ builder := m.builder.table name model }] } = family' := by
  simp [step?, Option.bind_eq_some_iff]

theorem step?_signal_eq_some_iff {i : ℕ} {signal : Signal} :
    family.step? (.signal i signal) = some family' ↔
      ∃ m, family.members[i]? = some m ∧ ∃ next, m.receive signal = some next ∧
        { members := family.members.set i next } = family' := by
  simp [step?, Option.bind_eq_some_iff]

/-- What is no signal to a member leaves it as it is. -/
theorem step?_of_other {move : Move} (hstep : family.step? move = some family') {i : ℕ} {m : Member}
    (hm : family.members[i]? = some m) (hother : move.signalTo? i = none) :
    family'.members[i]? = some m := by
  cases move with
  | derive source name model =>
    obtain ⟨-, -, rfl⟩ := step?_derive_eq_some_iff.1 hstep
    rw [List.getElem?_append_left (List.getElem?_eq_some_iff.1 hm).1, hm]
  | signal j signal =>
    obtain ⟨-, -, -, -, rfl⟩ := step?_signal_eq_some_iff.1 hstep
    have hne : j ≠ i := by
      rintro rfl
      simp [Move.signalTo?] at hother
    rw [List.getElem?_set_ne hne, hm]

/-- Every member is one of those that began with a builder of the family. -/
theorem Apart.exists_origin (h : Apart b moves family) {i : ℕ} {m : Member}
    (hm : family.members[i]? = some m) :
    ∃ o, (origins b moves)[i]? = some o ∧
      Member.receiveAll { builder := o } (signalsTo i moves) = some m := by
  obtain ⟨hi, -⟩ := List.getElem?_eq_some_iff.1 hm
  rw [h.length] at hi
  have ho := List.getElem?_eq_getElem hi
  obtain ⟨m', hm', halone⟩ := h.alone i _ ho
  obtain rfl : m' = m := Option.some.inj (hm'.symm.trans hm)
  exact ⟨_, ho, halone⟩

/-- A derived builder has the dialect of the member that it is derived from, and this is the dialect
of all members. So it is no other than if it were derived from the first. -/
theorem Apart.derive (h : Apart b moves family) {source : ℕ} {name : Value}
    {model : Option RowModel} (hstep : family.step? (.derive source name model) = some family') :
    Apart b (moves ++ [.derive source name model]) family' := by
  obtain ⟨m, hm, hfamily⟩ := step?_derive_eq_some_iff.1 hstep
  have hderived : m.builder.table name model = b.table name model := by
    obtain ⟨o, ho, halone⟩ := h.exists_origin hm
    have hdialect := congrArg Builder.dialect (Member.receiveAll_reset halone)
    simp only [Builder.reset] at hdialect
    rw [Builder.table, Builder.table, hdialect, origins_dialect (List.mem_of_getElem? ho)]
  have horigins : origins b (moves ++ [.derive source name model]) =
      origins b moves ++ [b.table name model] := origins_append ..
  have hsignals : ∀ i, signalsTo i (moves ++ [.derive source name model]) = signalsTo i moves :=
    fun i ↦ (signalsTo_append ..).trans (List.append_nil _)
  rw [hderived] at hfamily
  refine ⟨?_, fun i hi ↦ ?_, fun i o ho ↦ ?_⟩
  · simp [← hfamily, horigins, h.length]
  · rw [hsignals]
    exact h.later i (Nat.le_trans (by simp [← hfamily]) hi)
  · rw [horigins] at ho
    rw [hsignals]
    by_cases hi : i < (origins b moves).length
    · rw [List.getElem?_append_left hi] at ho
      obtain ⟨m', hm', halone⟩ := h.alone i o ho
      exact ⟨m', step?_of_other hstep hm' rfl, halone⟩
    · obtain rfl : i = (origins b moves).length := by
        have hlt := (List.getElem?_eq_some_iff.1 ho).1
        simp only [List.length_append, List.length_singleton] at hlt
        omega
      rw [List.getElem?_concat_length] at ho
      obtain rfl := Option.some.inj ho
      rw [← hfamily, ← h.length, List.getElem?_concat_length, h.later _ (Nat.le_refl _)]
      exact ⟨_, rfl, rfl⟩

/-- A signal reaches one member and leaves the others as they are. -/
theorem Apart.signal (h : Apart b moves family) {j : ℕ} {signal : Signal}
    (hstep : family.step? (.signal j signal) = some family') :
    Apart b (moves ++ [.signal j signal]) family' := by
  obtain ⟨m, hm, next, hnext, hfamily⟩ := step?_signal_eq_some_iff.1 hstep
  obtain ⟨hj, -⟩ := List.getElem?_eq_some_iff.1 hm
  have hlength : family'.members.length = family.members.length := by simp [← hfamily]
  have horigins : origins b (moves ++ [.signal j signal]) = origins b moves :=
    (origins_append ..).trans (List.append_nil _)
  have hnone : ∀ i, j ≠ i → (Move.signal j signal).signalTo? i = none := fun i hi ↦ if_neg hi
  have hother : ∀ i, j ≠ i → signalsTo i (moves ++ [.signal j signal]) = signalsTo i moves := by
    intro i hi
    rw [signalsTo_append, hnone i hi]
    exact List.append_nil _
  have hown : signalsTo j (moves ++ [.signal j signal]) = signalsTo j moves ++ [signal] := by
    rw [signalsTo_append, Move.signalTo?, if_pos rfl]
    rfl
  refine ⟨?_, fun i hi ↦ ?_, fun i o ho ↦ ?_⟩
  · rw [horigins, hlength, h.length]
  · rw [hlength] at hi
    rw [hother i (by omega)]
    exact h.later i hi
  · rw [horigins] at ho
    obtain ⟨m', hm', halone⟩ := h.alone i o ho
    by_cases hi : j = i
    · subst hi
      obtain rfl : m' = m := Option.some.inj (hm'.symm.trans hm)
      refine ⟨next, by rw [← hfamily, List.getElem?_set_self hj], ?_⟩
      rw [hown, Member.receiveAll_append, halone]
      simp [Member.receiveAll, hnext]
    · exact ⟨m', step?_of_other hstep hm' (hnone i hi), by rw [hother i hi, halone]⟩

theorem apart_of_run (h : (root b).run? moves = some family) : Apart b moves family := by
  induction moves using List.reverseRecOn generalizing family with
  | nil =>
    obtain rfl := Option.some.inj h
    exact apart_root b
  | append_singleton moves move ih =>
    rw [run?, List.foldlM_append, Option.bind_eq_bind, Option.bind_eq_some_iff] at h
    obtain ⟨middle, hmiddle, hstep⟩ := h
    have hstep : middle.step? move = some family := by simpa using hstep
    cases move with
    | derive source name model => exact (ih hmiddle).derive hstep
    | signal i signal => exact (ih hmiddle).signal hstep

/-- A member of a family that does not see the others. -/
structure Independent (b : Builder) (moves : List Move) (family : Family) (i : ℕ) (m : Member) :
    Prop where
  /-- It is what its own signals make of the builder that it began with: the root of the family, or
  what the root would have derived. If no call on it is under way, then its calls have been made in
  full one after the other, with its own replies. -/
  alone : ∃ o, (origins b moves)[i]? = some o ∧
    Member.receiveAll { builder := o } (signalsTo i moves) = some m ∧
      (m.pending = none → ∀ more, Member.Performs { builder := o } m
        (repliesIn (signalsTo i moves) ++ more) (callsIn (signalsTo i moves)) more)
  /-- No move leaves a trace on it that is no signal to it. -/
  unseen : ∀ move family', family.step? move = some family' → move.signalTo? i = none →
    family'.members[i]? = some m

/-- **Builders side by side do not see each other.** -/
theorem independent_of_run (h : (root b).run? moves = some family) {i : ℕ} {m : Member}
    (hm : family.members[i]? = some m) : Independent b moves family i m where
  alone := by
    obtain ⟨o, ho, halone⟩ := (apart_of_run h).exists_origin hm
    exact ⟨o, ho, halone, Member.performs_of_receiveAll rfl halone⟩
  unseen := fun _ _ hstep hother ↦ step?_of_other hstep hm hother

/-- A read waits, with the order that it asked for not yet reset, while a builder that was derived
from its own inserts many rows. -/
theorem independent_of_overlapping_calls :
    let titled : String → Value := fun title ↦ .dictionary [(.text "title", .text title)]
    let rows : String → Except Fault Value := fun title ↦ .ok (.list [titled title])
    let moves : List Move := [.derive 0 (.text "users") none,
      .signal 1 (.start (.fluent (.orderBy (.text "age") (.text "desc")))),
      .derive 1 (.text "posts") none,
      .signal 2 (.start (.fluent (.limit (.int 5)))),
      .signal 1 (.start (.terminal .get)),
      .signal 2 (.start (.createMany (.list [titled "First", titled "Second"]))),
      .signal 2 (.reply (rows "First")),
      .signal 1 (.reply (.ok (.list []))),
      .signal 1 (.start (.terminal .delete)),
      .signal 2 (.reply (rows "Second")),
      .signal 1 (.reply (.ok (.list [])))]
    let insert := "INSERT INTO posts (title) VALUES ($1) RETURNING *"
    let b := Builder.fresh .postgres none (.text "")
    let m : Member :=
      { builder := b.table (.text "users") none
        sent := [{ sql := "SELECT * FROM users ORDER BY age DESC", params := [] },
          { sql := "DELETE FROM users", params := [] }]
        results := [.ok .null, .ok (.list []), .ok .null] }
    let n : Member :=
      { builder := b.table (.text "posts") none
        sent := [{ sql := insert, params := [.text "First"] },
          { sql := insert, params := [.text "Second"] }]
        results := [.ok .null, .ok (.list [titled "First", titled "Second"])] }
    let family : Family := { members := [{ builder := b }, m, n] }
    (root b).run? moves = some family ∧ family.members[1]? = some m ∧
      Independent b moves family 1 m ∧ Independent b moves family 2 n := by
  intro titled rows moves insert b m n family
  have hrun : (root b).run? moves = some family := rfl
  exact ⟨hrun, rfl, independent_of_run hrun rfl, independent_of_run hrun rfl⟩

end Family

end FluentSql
