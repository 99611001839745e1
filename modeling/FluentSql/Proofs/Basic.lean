import Mathlib.Data.List.Forall2
import Mathlib.Data.List.Nodup

/-!
# Outcomes and lists

What the proofs about all parts of the library need of steps that can fail and of lists: when a
chain of steps succeeds, which member of a list is the first without a property, what stands at the
places of lists that are made of each other, and what is found among named values. Which characters
are letters is said here as well.
-/

namespace FluentSql

/-! ### Steps that can fail -/

section Outcome

variable {ε α β : Type}

/-- Two steps succeed if the first does and then the second. -/
theorem bind_eq_ok_iff {x : Except ε α} {f : α → Except ε β} {b : β} :
    (x >>= f) = .ok b ↔ ∃ a, x = .ok a ∧ f a = .ok b := by
  cases x <;> simp [bind, Except.bind]

/-- A result is changed if there is one. -/
theorem map_eq_ok_iff {x : Except ε α} {f : α → β} {b : β} :
    x.map f = .ok b ↔ ∃ a, x = .ok a ∧ b = f a := by
  cases x <;> simp [Except.map, eq_comm]

/-- Steps that are made for every member of a list succeed if all of them do. -/
theorem mapM_eq_ok_iff {f : α → Except ε β} {as : List α} {bs : List β} :
    as.mapM f = .ok bs ↔ List.Forall₂ (fun a b ↦ f a = .ok b) as bs := by
  induction as generalizing bs with
  | nil => simp [pure, Except.pure, eq_comm]
  | cons a as ih =>
    rw [List.mapM_cons, bind_eq_ok_iff, List.forall₂_cons_left_iff]
    simp only [bind_eq_ok_iff, ih, pure, Except.pure, Except.ok.injEq]
    constructor
    · rintro ⟨b, hb, rest, hrest, rfl⟩
      exact ⟨b, rest, hb, hrest, rfl⟩
    · rintro ⟨b, rest, hb, hrest, rfl⟩
      exact ⟨b, hb, rest, hrest, rfl⟩

end Outcome

/-! ### Letters -/

theorem isAlpha_iff {c : Char} :
    c.isAlpha = true ↔ ('A' ≤ c ∧ c ≤ 'Z') ∨ ('a' ≤ c ∧ c ≤ 'z') := by
  have hlower : c.isLower = true ↔ 'a' ≤ c ∧ c ≤ 'z' :=
    Bool.and_eq_true_iff.trans (and_congr decide_eq_true_iff decide_eq_true_iff)
  exact Bool.or_eq_true_iff.trans (or_congr decide_eq_true_iff hlower)

/-! ### The first exception -/

/-- A member of a list with one more member is the last one, or it is in the list before. -/
theorem append_singleton_eq_append_cons {α : Type} {l before after : List α} {a b : α}
    (h : l ++ [a] = before ++ b :: after) :
    (before = l ∧ b = a ∧ after = []) ∨ ∃ middle, after = middle ++ [a] ∧ l = before ++ b :: middle := by
  rcases List.eq_nil_or_concat after with rfl | ⟨middle, last, rfl⟩
  · obtain ⟨hl, hb⟩ := List.append_inj' h rfl
    exact Or.inl ⟨hl.symm, (List.singleton_inj.1 hb).symm, rfl⟩
  · rw [List.concat_eq_append, ← List.cons_append, ← List.append_assoc] at h
    obtain ⟨hl, ha⟩ := List.append_inj' h rfl
    exact Or.inr ⟨middle, by rw [List.concat_eq_append, List.singleton_inj.1 ha], hl⟩

/-- Lists that are joined start with the first of them. -/
theorem exists_intercalate_cons {α : Type} (sep l : List α) (ls : List (List α)) :
    ∃ rest, sep.intercalate (l :: ls) = l ++ rest := by
  cases ls with
  | nil => exact ⟨[], by rw [List.intercalate_singleton, List.append_nil]⟩
  | cons l' ls => exact ⟨_, by rw [List.intercalate_cons_cons, List.append_assoc]⟩

/-! ### Lists by places -/

/-- What stands at a place of one list has a partner at this place of the other. -/
theorem exists_of_forall₂ {α β : Type} {R : α → β → Prop} {as : List α} {bs : List β} {j : ℕ}
    {a : α} (h : List.Forall₂ R as bs) (ha : as[j]? = some a) : ∃ b, bs[j]? = some b ∧ R a b := by
  induction h generalizing j with
  | nil => simp at ha
  | cons hab hrest ih =>
    cases j with
    | zero =>
      obtain rfl := Option.some.inj ha
      exact ⟨_, rfl, hab⟩
    | succ j => exact ih ha

/-- All that is made of the members of a list and their places has a property if what is made of
each member has. -/
theorem forall_mem_mapIdx {α β : Type} {P : β → Prop} {f : ℕ → α → β} {l : List α}
    (h : ∀ i, ∀ a ∈ l, P (f i a)) : ∀ b ∈ l.mapIdx f, P b := by
  intro b hb
  obtain ⟨i, hi, rfl⟩ := List.mem_mapIdx.1 hb
  exact h i _ (List.getElem_mem hi)

/-- Two lists that are made of one list are related if their members are. -/
theorem forall₂_mapIdx {α β γ : Type} {R : β → γ → Prop} {f : ℕ → α → β} {g : ℕ → α → γ}
    {l : List α} (h : ∀ i, ∀ a ∈ l, R (f i a) (g i a)) :
    List.Forall₂ R (l.mapIdx f) (l.mapIdx g) := by
  induction l generalizing f g with
  | nil => exact .nil
  | cons a l ih =>
    simp only [List.mapIdx_cons]
    exact .cons (h 0 a (List.mem_cons_self ..)) (ih fun i b hb ↦ h (i + 1) b (.tail _ hb))

/-- Places do not change when the members are changed first. -/
theorem mapIdx_map {α β γ : Type} (f : α → β) (g : ℕ → β → γ) (l : List α) :
    (l.map f).mapIdx g = l.mapIdx fun i a ↦ g i (f a) := by
  refine List.ext_getElem? fun i ↦ ?_
  simp only [List.getElem?_mapIdx, List.getElem?_map, Option.map_map, Function.comp_def]

/-! ### Named values -/

section

variable {α : Type} {named : List (String × α)} {key : String}

/-- What is kept of named values by their names is found as before. -/
theorem lookup_filter_name (keep : String → Bool) :
    (named.filter fun e ↦ keep e.1).lookup key = if keep key then named.lookup key else none := by
  induction named with
  | nil => simp
  | cons e rest ih =>
    rw [List.filter_cons, List.lookup_cons]
    cases hkey : key == e.1 with
    | true =>
      obtain rfl : key = e.1 := by simpa using hkey
      split
      · rw [List.lookup_cons_self]
      · rw [ih, if_neg ‹_›]
    | false =>
      split
      · rw [List.lookup_cons, hkey, ih]
      · exact ih

/-- Among values of different names each is found by its name. -/
theorem lookup_of_mem {v : α} (hnodup : (named.map Prod.fst).Nodup) (h : (key, v) ∈ named) :
    named.lookup key = some v := by
  induction named with
  | nil => simp at h
  | cons e rest ih =>
    rw [List.map_cons, List.nodup_cons] at hnodup
    rcases List.mem_cons.1 h with rfl | hrest
    · exact List.lookup_cons_self
    · have hne : (key == e.1) = false := by
        rw [beq_eq_false_iff_ne]
        rintro rfl
        exact hnodup.1 (List.mem_map.2 ⟨_, hrest, rfl⟩)
      rw [List.lookup_cons, hne]
      exact ih hnodup.2 hrest

end

end FluentSql
