import FluentSql.Proofs.Alphabet
import Mathlib.Data.List.TakeWhile

/-!
# Reading the marks of a statement

How the marks of a statement are found again in its text, without knowing how the text was made:
`Backend.marksIn` reads a text from left to right and takes every opening character together with
all digits right after it. The reading is written for the two databases, whose marks start with
different characters; for the one whose marks have no numbers it also shows that no mark can be
mistaken for a numbered one.

Texts are put together from pieces, so what is needed is how the reading goes on over an `++`.

* A piece without opening characters adds no mark (`marksIn_append_of_unmarked`).
* A piece that does not start with a digit leaves the last mark before it alone
  (`marksIn_append_of_detached`). This is the only way in which one piece could change what is read
  in another.

`Holds` says which piece of a text a mark stands in: the marks before the piece are the ones with
smaller numbers, and the piece has this mark and no other. `Numbered` says that some pieces hold one
mark each, with consecutive numbers. It is what lists of conditions, of assignments and of bare
marks have in common, and `Numbered.marksIn_intercalate` and `Numbered.holds_intercalate` are the
reading of any of them with separators in between.
-/

namespace FluentSql

/-- A text in which no mark of either database starts. -/
def Unmarked (s : String) : Prop :=
  '$' ∉ s.toList ∧ '?' ∉ s.toList

instance (s : String) : Decidable (Unmarked s) :=
  inferInstanceAs (Decidable (_ ∧ _))

/-- A text that cannot go on with a mark before it, because it starts with no digit. -/
def Detached (s : String) : Prop :=
  ∀ c ∈ s.toList.head?, c.isDigit = false

instance (s : String) : Decidable (Detached s) :=
  decidable_of_iff (s.toList.head?.all (! ·.isDigit) = true) (by
    simp [Detached, Option.all_eq_true])

/-- The databases whose marks are read. -/
inductive Backend where
  /-- Marks have numbers. -/
  | postgres
  /-- Marks are told apart by their order. -/
  | sqlite
deriving Repr, DecidableEq

namespace Backend

/-- The dialect of a database. -/
def dialect : Backend → Dialect
  | .postgres => .postgres
  | .sqlite => .sqlite

/-- The character that a mark starts with. -/
def opener : Backend → Char
  | .postgres => '$'
  | .sqlite => '?'

/-- The mark with a number. -/
def mark : Backend → ℕ → String
  | .postgres, n => "$" ++ n.repr
  | .sqlite, _ => "?"

/-- So many marks, with the numbers after `before`. -/
def marks (be : Backend) (before count : ℕ) : List String :=
  (List.range' (before + 1) count).map be.mark

/-- The marks in some characters: every opening character with the digits that follow it. -/
def scan (opener : Char) : List Char → List String
  | [] => []
  | c :: rest =>
    if c = opener then String.ofList (c :: rest.takeWhile Char.isDigit) :: scan opener rest
    else scan opener rest

/-- The marks in a text, from left to right. -/
def marksIn (be : Backend) (text : String) : List String :=
  scan be.opener text.toList

end Backend

/-! ### Texts without marks -/

theorem unmarked_iff_avoids {s : String} : Unmarked s ↔ Avoids ['$', '?'] s := by
  simp [Unmarked, Avoids]

theorem unmarked_append {s t : String} : Unmarked (s ++ t) ↔ Unmarked s ∧ Unmarked t := by
  simp only [unmarked_iff_avoids, avoids_append]

theorem unmarked_intercalate {sep : String} (hsep : Unmarked sep) {pieces : List String}
    (h : ∀ p ∈ pieces, Unmarked p) : Unmarked (sep.intercalate pieces) := by
  simp only [unmarked_iff_avoids] at hsep h ⊢
  exact avoids_intercalate hsep h

/-- The characters that marks start with have no other part in statements. -/
theorem foreign_openers : Foreign ['$', '?'] := by
  decide

theorem unmarked_repr (n : ℕ) : Unmarked n.repr :=
  unmarked_iff_avoids.2 (foreign_openers.avoids_repr n)

theorem opener_not_mem_of_unmarked (be : Backend) {s : String} (h : Unmarked s) :
    be.opener ∉ s.toList := by
  cases be with
  | postgres => exact h.1
  | sqlite => exact h.2

theorem Detached.append {s t : String} (hs : Detached s) (ht : Detached t) :
    Detached (s ++ t) := by
  intro c hc
  rw [String.toList_append, List.head?_append, Option.mem_def, Option.or_eq_some_iff] at hc
  rcases hc with hc | ⟨-, hc⟩
  · exact hs c hc
  · exact ht c hc

/-- Whatever follows a text that has a first character, that one decides. -/
theorem Detached.append_of_ne {s : String} (hs : Detached s) (hne : s ≠ "") (t : String) :
    Detached (s ++ t) := by
  intro c hc
  cases hchars : s.toList with
  | nil => exact absurd (String.toList_eq_nil_iff.1 hchars) hne
  | cons d rest =>
    rw [String.toList_append, hchars, List.cons_append] at hc
    exact hs c (by rw [hchars]; exact hc)

/-- What comes first decides. -/
theorem Detached.of_append {s t : String} (h : Detached (s ++ t)) : Detached s := by
  intro c hc
  refine h c ?_
  rw [String.toList_append, List.head?_append, Option.mem_def.1 hc]
  rfl

/-! ### Reading over pieces -/

namespace Backend

theorem scan_append_of_not_mem {opener : Char} {l : List Char} (h : opener ∉ l) (r : List Char) :
    scan opener (l ++ r) = scan opener r := by
  induction l with
  | nil => rfl
  | cons c rest ih =>
    rw [List.mem_cons, not_or] at h
    rw [List.cons_append, scan, if_neg (Ne.symm h.1), ih h.2]

theorem scan_of_not_mem {opener : Char} {l : List Char} (h : opener ∉ l) : scan opener l = [] := by
  simpa [scan] using scan_append_of_not_mem h []

theorem takeWhile_append_of_head? {l r : List Char} (h : ∀ c ∈ r.head?, c.isDigit = false) :
    (l ++ r).takeWhile Char.isDigit = l.takeWhile Char.isDigit := by
  rw [List.takeWhile_append]
  split
  · next hall =>
    -- All of `l` is taken, so the taking would go on into `r` if that started with a digit.
    have hr : r.takeWhile Char.isDigit = [] := by
      cases r with
      | nil => rfl
      | cons c rest => simp [h c rfl]
    have hl := (List.takeWhile_prefix Char.isDigit (l := l)).eq_of_length hall
    rw [hr, List.append_nil, hl]
  · rfl

theorem scan_append_of_head? {opener : Char} {l r : List Char}
    (h : ∀ c ∈ r.head?, c.isDigit = false) :
    scan opener (l ++ r) = scan opener l ++ scan opener r := by
  induction l with
  | nil => rfl
  | cons c rest ih =>
    rw [List.cons_append, scan, scan, takeWhile_append_of_head? h, ih]
    split <;> rfl

variable (be : Backend)

theorem marksIn_append_of_unmarked {s : String} (hs : Unmarked s) (t : String) :
    be.marksIn (s ++ t) = be.marksIn t := by
  rw [marksIn, String.toList_append, scan_append_of_not_mem (opener_not_mem_of_unmarked be hs)]
  rfl

theorem marksIn_append_of_detached (s : String) {t : String} (ht : Detached t) :
    be.marksIn (s ++ t) = be.marksIn s ++ be.marksIn t := by
  rw [marksIn, String.toList_append, scan_append_of_head? ht]
  rfl

theorem marksIn_of_unmarked {s : String} (hs : Unmarked s) : be.marksIn s = [] :=
  scan_of_not_mem (opener_not_mem_of_unmarked be hs)

/-- A text after which nothing is read does not matter. -/
theorem marksIn_append_right (s : String) {t : String} (ht : Detached t) (hu : Unmarked t) :
    be.marksIn (s ++ t) = be.marksIn s := by
  rw [marksIn_append_of_detached be s ht, marksIn_of_unmarked be hu, List.append_nil]

/-- A mark is read as itself. -/
theorem marksIn_mark (n : ℕ) : be.marksIn (be.mark n) = [be.mark n] := by
  cases be with
  | sqlite =>
    show scan '?' "?".toList = ["?"]
    decide
  | postgres =>
    -- The number is nothing but digits: all of it is taken, and no other mark starts in it.
    have hdigits : ∀ c ∈ n.repr.toList, c.isDigit = true := fun _ ↦ isDigit_of_mem_repr
    have hscan : scan '$' n.repr.toList = [] := scan_of_not_mem (unmarked_repr n).1
    have htext : "$" ++ n.repr = String.ofList ('$' :: n.repr.toList) := by
      rw [← String.toList_inj, String.toList_append, show "$".toList = ['$'] from rfl,
        String.toList_ofList, List.singleton_append]
    show scan '$' ("$" ++ n.repr).toList = ["$" ++ n.repr]
    rw [htext, String.toList_ofList, scan, if_pos rfl, List.takeWhile_eq_self_iff.2 hdigits, hscan]

/-- A mark is read as itself between texts without marks. -/
theorem marksIn_around {s t : String} (hs : Unmarked s) (ht : Unmarked t) (hd : Detached t)
    (n : ℕ) : be.marksIn (s ++ be.mark n ++ t) = [be.mark n] := by
  rw [be.marksIn_append_right _ hd ht, be.marksIn_append_of_unmarked hs, marksIn_mark]

/-! ### Numbered marks -/

@[simp]
theorem marks_length (before count : ℕ) : (be.marks before count).length = count := by
  simp [marks]

theorem marks_succ (before count : ℕ) :
    be.marks before (count + 1) = be.mark (before + 1) :: be.marks (before + 1) count := by
  simp [marks, List.range'_succ]

/-- Numbers go on after numbers. -/
theorem marks_append (before m n : ℕ) :
    be.marks before m ++ be.marks (before + m) n = be.marks before (m + n) := by
  rw [marks, marks, marks, ← List.map_append, show before + m + 1 = before + 1 + m by omega,
    List.range'_append_1]

/-- In a text whose marks have the numbers after `before`, the mark that follows the first `k` ones
stands in `piece`. -/
def Holds (before : ℕ) (text : String) (k : ℕ) (piece : String) : Prop :=
  ∃ front back, text = front ++ piece ++ back ∧ be.marksIn front = be.marks before k ∧
    be.marksIn piece = [be.mark (before + k + 1)]

namespace Holds

variable {be} {before k : ℕ} {text piece : String}

theorem append (h : be.Holds before text k piece) (t : String) :
    be.Holds before (text ++ t) k piece := by
  obtain ⟨front, back, rfl, hfront, hpiece⟩ := h
  refine ⟨front, back ++ t, ?_, hfront, hpiece⟩
  simp only [String.append_assoc]

theorem after_unmarked {s : String} (hs : Unmarked s) (h : be.Holds before text k piece) :
    be.Holds before (s ++ text) k piece := by
  obtain ⟨front, back, rfl, hfront, hpiece⟩ := h
  refine ⟨s ++ front, back, ?_, ?_, hpiece⟩
  · simp only [String.append_assoc]
  · rw [marksIn_append_of_unmarked be hs, hfront]

/-- Numbers go on from a text to the next if that does not start with a digit. -/
theorem prepend {s : String} (hs : be.marksIn s = be.marks 0 before) (hd : Detached text)
    (h : be.Holds before text k piece) : be.Holds 0 (s ++ text) (before + k) piece := by
  obtain ⟨front, back, rfl, hfront, hpiece⟩ := h
  have hdetached : Detached front := by
    rw [String.append_assoc] at hd
    exact hd.of_append
  refine ⟨s ++ front, back, ?_, ?_, ?_⟩
  · simp only [String.append_assoc]
  · have happend := be.marks_append 0 before k
    rw [Nat.zero_add] at happend
    rw [marksIn_append_of_detached be s hdetached, hs, hfront, happend]
  · rw [hpiece, Nat.zero_add]

end Holds

/-- Each of some pieces holds one mark, with the numbers after `before`. -/
def Numbered (be : Backend) : ℕ → List String → Prop
  | _, [] => True
  | before, p :: rest => be.marksIn p = [be.mark (before + 1)] ∧ Numbered be (before + 1) rest

namespace Numbered

variable {be} {before : ℕ} {pieces : List String} {sep : String}

/-- The marks in pieces with separators in between are the marks of the pieces. -/
theorem marksIn_intercalate (h : Numbered be before pieces) (hu : Unmarked sep)
    (hd : Detached sep) (hne : sep ≠ "") :
    be.marksIn (sep.intercalate pieces) = be.marks before pieces.length := by
  induction pieces generalizing before with
  | nil => rfl
  | cons p rest ih =>
    cases rest with
    | nil => simpa [marks_succ, marks] using h.1
    | cons q rest =>
      rw [String.intercalate_cons_cons, String.append_assoc,
        marksIn_append_of_detached be p (hd.append_of_ne hne _),
        marksIn_append_of_unmarked be hu, h.1, ih h.2, List.length_cons (a := p), marks_succ]
      rfl

/-- Each of the pieces holds its mark, and separators in between do not change that. -/
theorem holds_intercalate {k : ℕ} {p : String} (h : Numbered be before pieces)
    (hu : Unmarked sep) (hd : Detached sep) (hne : sep ≠ "") (hk : pieces[k]? = some p) :
    be.Holds before (sep.intercalate pieces) k p := by
  induction k generalizing before pieces with
  | zero =>
    cases pieces with
    | nil => simp at hk
    | cons q rest =>
      obtain rfl : q = p := by simpa using hk
      refine ⟨"", if rest = [] then "" else sep ++ sep.intercalate rest, ?_, rfl, h.1⟩
      cases rest with
      | nil => simp
      | cons r rest => simp [String.append_assoc]
  | succ k ih =>
    cases pieces with
    | nil => simp at hk
    | cons q rest =>
      rw [List.getElem?_cons_succ] at hk
      obtain ⟨front, back, htext, hfront, hpiece⟩ := ih h.2 hk
      have hrest : rest ≠ [] := by rintro rfl; simp at hk
      -- The mark of `q` comes first, and the separator keeps it from going on.
      refine ⟨q ++ (sep ++ front), back, ?_, ?_, ?_⟩
      · rw [String.intercalate_cons_of_ne_nil hrest, htext]
        simp only [String.append_assoc]
      · rw [marksIn_append_of_detached be q (hd.append_of_ne hne _),
          marksIn_append_of_unmarked be hu, h.1, hfront, marks_succ]
        rfl
      · rw [hpiece, show before + 1 + k + 1 = before + (k + 1) + 1 by omega]

end Numbered

end Backend

end FluentSql
