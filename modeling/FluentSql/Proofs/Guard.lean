import FluentSql.Guard
import FluentSql.Proofs.Basic

/-!
# What the guards let through

Each guard is characterized by exactly the values that it accepts and what it returns for them; the
laws of queries are derived from these characterizations, and no later module opens a guard again.

* A column, a limit and an offset are returned as they came (`column_eq_ok_iff`,
  `pagination_eq_ok_iff`), so what a query holds is what the caller gave.
* An operator and a direction are returned as their lists spell them (`operator_eq_ok_iff`,
  `direction_eq_ok_iff`), so what a query holds is one of a few words, whatever the caller gave.

For the text of a statement it matters which characters a column can contribute: letters, digits,
underscores, a point, and the newline that is let through at the end (`mem_of_isColumn`).
-/

namespace FluentSql

/-! ### Columns -/

/-- Only the text itself is the same as a text. -/
theorem Value.same_text_iff {v : Value} {s : String} : v.same (.text s) = true ↔ v = .text s := by
  cases v <;> simp [Value.same, sameQuantity, Value.quantity?]

namespace Column

theorem mem_dropFinalNewline {s : List Char} {c : Char} (hc : c ∈ s) :
    c ∈ dropFinalNewline s ∨ c = '\n' := by
  unfold dropFinalNewline
  split
  · next hlast =>
    have hne : s ≠ [] := List.ne_nil_of_mem hc
    have hget : s.getLast hne = '\n' := by
      simpa [List.getLast?_eq_some_getLast hne] using hlast
    rw [← List.dropLast_concat_getLast hne, hget] at hc
    simpa using hc
  · exact Or.inl hc

/-- A name has nothing but letters, digits and underscores. -/
theorem isNamePart_of_mem {s : List Char} (hs : isName s = true) {c : Char} (hc : c ∈ s) :
    isNamePart c = true := by
  cases s with
  | nil => simp [isName] at hs
  | cons d rest =>
    simp only [isName, Bool.and_eq_true, List.all_eq_true] at hs
    rcases List.mem_cons.1 hc with rfl | hrest
    · have hstart := hs.1
      simp only [isNameStart, isNamePart, Bool.or_eq_true, Char.isAlphanum] at hstart ⊢
      exact hstart.imp_left Or.inl
    · exact hs.2 c hrest

/-- The characters that a column can have. -/
theorem mem_of_isColumn {s : List Char} (hs : isColumn s = true) {c : Char} (hc : c ∈ s) :
    isNamePart c = true ∨ c = '.' ∨ c = '\n' := by
  rcases mem_dropFinalNewline hc with hbody | hnewline
  · unfold isColumn at hs
    simp only at hs
    split at hs
    · exact Or.inl (isNamePart_of_mem hs hbody)
    · next point name hdrop =>
      obtain ⟨hqualifier, hname⟩ := Bool.and_eq_true _ _ |>.mp hs
      rw [← List.takeWhile_append_dropWhile (p := (· != '.')) (l := dropFinalNewline s), hdrop,
        List.mem_append, List.mem_cons] at hbody
      have hpoint : point = '.' := by
        have := List.head?_dropWhile_not (p := (· != '.')) (l := dropFinalNewline s)
        rw [hdrop] at this
        simpa using this
      rcases hbody with hbefore | hat | hafter
      · exact Or.inl (isNamePart_of_mem hqualifier hbefore)
      · exact Or.inr (Or.inl (hat.trans hpoint))
      · exact Or.inl (isNamePart_of_mem hname hafter)
  · exact Or.inr (Or.inr hnewline)

end Column

/-! ### Guards -/

namespace Guard

open FluentSql.Text

/-- The guard of columns accepts the texts of the right shape, and returns them as they are. -/
theorem column_eq_ok_iff {v w : Value} :
    column v = .ok w ↔ ∃ s, v = .text s ∧ Column.isColumn s.toList = true ∧ w = .text s := by
  cases v with
  | text s =>
    by_cases hs : Column.isColumn s.toList = true
    · simp [column, hs, eq_comm (a := Value.text s)]
    · simp [column, hs]
  | _ => simp [column]

/-- The guard of operators accepts the texts that spell an allowed operator up to letter case and
blanks at the ends, and returns the operator. -/
theorem operator_eq_ok_iff {v w : Value} :
    operator v = .ok w ↔
      ∃ s, v = .text s ∧ upper (strip s) ∈ allowedOperators ∧ w = .text (upper (strip s)) := by
  cases v with
  | text s =>
    by_cases hs : upper (strip s) ∈ allowedOperators
    · simp [operator, hs, eq_comm (b := w)]
    · simp [operator, hs]
  | _ => simp [operator]

/-- The guard of directions accepts the values whose text spells one of the two words up to letter
case and blanks at the ends, and returns the word. -/
theorem direction_eq_ok_iff {v w : Value} :
    direction v = .ok w ↔
      lower (strip v.display) ∈ directions ∧ w = .text (lower (strip v.display)) := by
  by_cases hv : lower (strip v.display) ∈ directions
  · simp [direction, hv, eq_comm (b := w)]
  · simp [direction, hv]

/-- The guard of limits and offsets accepts the natural numbers, and returns them as they are. -/
theorem pagination_eq_ok_iff {clause v w : Value} :
    pagination clause v = .ok w ↔ ∃ n : Int, 0 ≤ n ∧ v = .int n ∧ w = .int n := by
  have hint : ∀ n : Int, pagination clause (.int n) = .ok w ↔ 0 ≤ n ∧ w = .int n := by
    intro n
    by_cases hn : 0 ≤ n
    · simp [pagination, hn, eq_comm (b := w)]
    · cases hcapitals : clause.capitals? <;> simp [pagination, hn, hcapitals]
  cases v with
  | int n =>
    rw [hint]
    constructor
    · rintro ⟨hn, hw⟩
      exact ⟨n, hn, rfl, hw⟩
    · rintro ⟨m, hm, hv, hw⟩
      cases hv
      exact ⟨hm, hw⟩
  | _ => cases hcapitals : clause.capitals? <;> simp [pagination, hcapitals]

/-- The guard of values refuses only what is no collection for a test of membership. -/
theorem value_eq_ok_iff {column op given : Value} {u : Unit} :
    value column op given = .ok u ↔ (op = .text membership → isMembershipList given = true) := by
  unfold value
  by_cases hop : op = .text membership
  · by_cases hv : isMembershipList given = true <;> simp [hop, hv, Value.same]
  · have hsame : op.same (.text membership) = false := by
      rw [← Bool.not_eq_true, Value.same_text_iff]
      exact hop
    simp [hop, hsame]

/-- The collections that a test of membership accepts. -/
theorem isMembershipList_iff {v : Value} :
    isMembershipList v = true ↔
      (∃ kind members, kind ≠ .stream ∧ v = .collection kind members) ∨
        (∃ start stop step, v = .range start stop step) ∨ ∃ data, v = .buffer data := by
  cases v with
  | collection kind members => cases kind <;> simp [isMembershipList]
  | _ => simp [isMembershipList]

end Guard

end FluentSql
