import FluentSql.Proofs.Guard
import FluentSql.Statement

/-!
# Characters that a text does not have

Much of what is said about statements comes down to characters that some text cannot have: the marks
of a statement are found in it because nothing else brings the characters that they start with, and
the words of a read because there are no spaces in them. `Avoids cs` says of a text that it has none
of the characters `cs`.

For what comes from callers the guards decide: a column avoids all characters that no column can
have (`avoids_of_isColumn`). `Foreign cs` says that the characters have no part in columns, and none
in what clauses are written with apart from names. The characters that marks start with are foreign,
and so are those that a quotation, a comment or another statement would start with.
-/

namespace FluentSql

open FluentSql.Number

/-- The text has none of the characters. -/
def Avoids (cs : List Char) (s : String) : Prop :=
  ∀ c ∈ cs, c ∉ s.toList

instance (cs : List Char) (s : String) : Decidable (Avoids cs s) :=
  List.decidableBAll _ cs

/-- None of the characters is of the kind. -/
def Outside (p : Char → Bool) (cs : List Char) : Prop :=
  ∀ c ∈ cs, p c = false

instance (p : Char → Bool) (cs : List Char) : Decidable (Outside p cs) :=
  List.decidableBAll _ cs

section

variable {cs : List Char}

theorem avoids_append {s t : String} : Avoids cs (s ++ t) ↔ Avoids cs s ∧ Avoids cs t := by
  simp only [Avoids, String.toList_append, List.mem_append, not_or, forall_and]

theorem avoids_intercalate {sep : String} (hsep : Avoids cs sep) {pieces : List String}
    (h : ∀ p ∈ pieces, Avoids cs p) : Avoids cs (sep.intercalate pieces) := by
  induction pieces with
  | nil => intro c _; simp
  | cons p rest ih =>
    obtain ⟨hp, hrest⟩ := List.forall_mem_cons.1 h
    cases rest with
    | nil => simpa using hp
    | cons q rest =>
      rw [String.intercalate_cons_cons, avoids_append, avoids_append]
      exact ⟨⟨hp, hsep⟩, ih hrest⟩

/-- A text of characters of a kind has none that are not of the kind. -/
theorem Outside.avoids {p : Char → Bool} (hcs : Outside p cs) {s : String}
    (hs : s.toList.all p = true) : Avoids cs s := by
  intro c hc hmem
  exact Bool.false_ne_true ((hcs c hc).symm.trans (List.all_eq_true.1 hs c hmem))

/-! ### Names and numbers -/

/-- The character can be part of a column. -/
def Column.isColumnChar (c : Char) : Bool :=
  Column.isNamePart c || c == '.' || c == '\n'

theorem avoids_of_isColumn (hcs : Outside Column.isColumnChar cs) {s : String}
    (hs : Column.isColumn s.toList = true) : Avoids cs s := by
  refine hcs.avoids (List.all_eq_true.2 fun c hc ↦ ?_)
  rcases Column.mem_of_isColumn hs hc with hpart | rfl | rfl
  · simp [Column.isColumnChar, hpart]
  · rfl
  · rfl

theorem isDigit_of_mem_repr {n : ℕ} {c : Char} (hc : c ∈ n.repr.toList) : c.isDigit = true := by
  rw [Nat.toList_repr] at hc
  exact Nat.isDigit_of_mem_toDigits (by omega) (by omega) hc

theorem avoids_repr (hcs : Outside Char.isDigit cs) (n : ℕ) : Avoids cs n.repr :=
  hcs.avoids (List.all_eq_true.2 fun _ ↦ isDigit_of_mem_repr)

end

/-! ### Foreign characters -/

/-- The character can be part of a clause. -/
def isClauseChar (c : Char) : Bool :=
  Column.isColumnChar c || [' ', ',', '(', ')', '*', '=', '<', '>', '!'].contains c

/-- No column and no other part of a clause has any of the characters. -/
def Foreign (cs : List Char) : Prop :=
  Outside isClauseChar cs

instance (cs : List Char) : Decidable (Foreign cs) :=
  inferInstanceAs (Decidable (Outside _ cs))

namespace Foreign

variable {cs : List Char}

/-- The texts that statements are written with are made of the characters of clauses. -/
theorem avoids (hcs : Foreign cs) {s : String} (hs : s.toList.all isClauseChar = true) :
    Avoids cs s :=
  Outside.avoids hcs hs

theorem avoids_column (hcs : Foreign cs) {s : String} (hs : Column.isColumn s.toList = true) :
    Avoids cs s :=
  avoids_of_isColumn (fun c hc ↦ (Bool.or_eq_false_iff.1 (hcs c hc)).1) hs

theorem avoids_operator (hcs : Foreign cs) {word : String} (hword : word ∈ Guard.allowedOperators) :
    Avoids cs word :=
  hcs.avoids ((by decide : ∀ word ∈ Guard.allowedOperators,
    word.toList.all isClauseChar = true) word hword)

theorem avoids_repr (hcs : Foreign cs) (n : ℕ) : Avoids cs n.repr := by
  refine hcs.avoids (List.all_eq_true.2 fun c hc ↦ ?_)
  simp [isClauseChar, Column.isColumnChar, Column.isNamePart, Char.isAlphanum,
    isDigit_of_mem_repr hc]

end Foreign

/-! ### Values -/

/-- The value has none of the characters if it is a text. -/
def Value.Avoids (cs : List Char) (v : Value) : Prop :=
  ∀ word : String, v = .text word → FluentSql.Avoids cs word

/-- The column that stands for all columns has no foreign characters. -/
theorem Foreign.avoids_star {cs : List Char} (hcs : Foreign cs) : (Value.text "*").Avoids cs := by
  rintro _ ⟨⟩
  exact hcs.avoids (by decide)

end FluentSql
