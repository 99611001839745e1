import FluentSql.Proofs.Basic
import FluentSql.Proofs.JsonNumbers
import FluentSql.Proofs.JsonTexts

/-!
# Writing JSON

What is read of a tree that has been written. The text of any tree is read as the tree, but for its
floating-point numbers, which are read from their names; a name that is none of JSON makes the
reader fail (`asRead?`). This is shown by induction on the tree for the reader at any place of a
text (`readsAs_chars`): texts with commas between them are read one after the other if each of them
is read.

* A tree is written as JSON exactly if its numbers are finite (`exists_denotes_chars_iff`).
* A tree without floating-point numbers is written as JSON that means it (`denotes_chars`).
* Every tree is written in ASCII (`isAscii_chars`).
-/

namespace FluentSql

open FluentSql.Number

namespace Json

/-! ### What is read of a tree -/

mutual

/-- The tree that a reader makes of the text of a tree, if it makes one: the same but for the
floating-point numbers, which are read from their names. -/
def asRead? : Json → Option Json
  | .number x => scalar? (jsonNumber x).toList
  | .array items => ((itemsAsRead items).mapM id).map .array
  | .object entries => ((entriesAsRead entries).mapM id).map .object
  | j => some j

/-- What a reader makes of each of some trees. -/
def itemsAsRead : List Json → List (Option Json)
  | [] => []
  | item :: rest => item.asRead? :: itemsAsRead rest

/-- What a reader makes of each of some entries. -/
def entriesAsRead : List (String × Json) → List (Option (String × Json))
  | [] => []
  | (name, item) :: rest => (item.asRead?.map fun j ↦ (name, j)) :: entriesAsRead rest

end

/-- The text is read as the result, whatever follows, unless that goes on with a word or a number.
-/
def ReadsAs {α : Type} (read : List Char → Option (α × List Char)) (t : List Char)
    (r : Option α) : Prop :=
  Starts t ∧ ∀ rest, Follows rest → read (t ++ rest) = r.map fun e ↦ (e, rest)

section Elements

variable {α : Type} {read : List Char → Option (α × List Char)} {closing : Char}
  {texts : List (List Char)} {results : List (Option α)}

theorem mapM_id_cons (r : Option α) (results : List (Option α)) :
    (r :: results).mapM id = r.bind fun e ↦ (results.mapM id).map (e :: ·) := by
  rw [List.mapM_cons]
  cases r with
  | none => rfl
  | some e => exact (Option.map_eq_bind ..).symm

/-- A blank before an element is passed over. -/
theorem readElements_space (n : Nat) (s : List Char) :
    readElements read closing n (' ' :: s) = readElements read closing n s := by
  cases n <;> rfl

/-- Texts with commas between them are read one after the other, up to the first that is not. -/
theorem readElements_intercalate (h : List.Forall₂ (ReadsAs read) texts results)
    (hne : texts ≠ []) {k : Nat} (hk : texts.length ≤ k) (hspace : isSpace closing = false)
    (hscalar : isScalarChar closing = false) (hcomma : closing ≠ ',') (rest : List Char) :
    readElements read closing k (jsonComma.intercalate texts ++ closing :: rest) =
      (results.mapM id).map fun es ↦ (es, rest) := by
  induction h generalizing k with
  | nil => exact absurd rfl hne
  | @cons t r texts results ht htexts ih =>
    obtain ⟨k, rfl⟩ := Nat.exists_eq_add_one_of_ne_zero
      (show k ≠ 0 by rintro rfl; simp at hk)
    have hskip : ∀ tail, skip (t ++ tail) = t ++ tail := fun tail ↦ (ht.1.append tail).skip_eq
    cases htexts with
    | nil =>
      have hread := ht.2 (closing :: rest) (follows_cons hscalar rest)
      rw [← hskip] at hread
      rw [List.intercalate_singleton, readElements_last hread (skip_cons hspace rest) hcomma]
      cases r <;> rfl
    | @cons t' r' texts results ht' htexts =>
      have hread := ht.2 (',' :: ' ' :: (jsonComma.intercalate (t' :: texts) ++ closing :: rest))
        (follows_cons rfl _)
      rw [← hskip] at hread
      -- The blank behind the comma is left to the element after it.
      have hafter := ih (List.cons_ne_nil _ _) (Nat.le_of_succ_le_succ hk)
      have hsplit : jsonComma.intercalate (t :: t' :: texts) ++ closing :: rest =
          t ++ ',' :: ' ' :: (jsonComma.intercalate (t' :: texts) ++ closing :: rest) := by
        rw [List.intercalate_cons_cons, jsonComma]
        simp only [List.append_assoc, List.cons_append, List.nil_append]
      rw [hsplit, readElements_next hread (skip_cons rfl _), readElements_space, hafter,
        mapM_id_cons r, Option.map_bind]
      simp only [Option.map_map, Function.comp_def]

end Elements

/-- The elements of a bracket, and the commas between them, are shorter than the bracket. -/
theorem sum_length_le_length_intercalate (texts : List (List Char)) :
    (texts.map List.length).sum + 2 * texts.length ≤ (jsonComma.intercalate texts).length + 2 := by
  induction texts with
  | nil => simp
  | cons t texts ih =>
    cases texts with
    | nil => simp
    | cons t' texts =>
      simp only [List.intercalate_cons_cons, jsonComma, List.length_append, List.length_cons,
        List.map_cons, List.sum_cons] at ih ⊢
      omega

theorem readsAs_of_means {s : List Char} {j : Json} (h : Means .value s j) {n : Nat}
    (hn : s.length ≤ n) : ReadsAs (readValue n) s (some j) :=
  ⟨h.starts, fun rest hrest ↦ h.isRead n rest hn hrest⟩

theorem readsAs_scalarChars {s : List Char} (hne : s ≠ [])
    (hs : ∀ c ∈ s, isScalarChar c = true) {n : Nat} (hn : s.length ≤ n) :
    ReadsAs (readValue n) s (scalar? s) := by
  refine ⟨?_, fun rest hrest ↦ readValue_of_isScalarChar hne hs hn hrest⟩
  obtain ⟨c, s, rfl⟩ := List.exists_cons_of_ne_nil hne
  exact starts_of_isScalarChar (hs c (List.mem_cons_self ..)) s

/-- A bracket is read as its elements are. -/
theorem readsAs_bracket (b : Bracket) {texts : List (List Char)}
    {results : List (Option b.Element)} {n : Nat}
    (hn : (b.opening :: jsonComma.intercalate texts ++ [b.closing]).length ≤ n)
    (h : ∀ n, (∀ t ∈ texts, t.length ≤ n) →
      List.Forall₂ (ReadsAs (readElement (readValue n) b)) texts results) :
    ReadsAs (readValue n) (b.opening :: jsonComma.intercalate texts ++ [b.closing])
      ((results.mapM id).map b.tree) := by
  refine ⟨starts_opening b _, fun rest _ ↦ ?_⟩
  have hsum := sum_length_le_length_intercalate texts
  simp only [List.length_append, List.length_cons, List.length_nil] at hn
  obtain ⟨n, rfl⟩ := Nat.exists_eq_add_one_of_ne_zero (show n ≠ 0 by omega)
  have hlengths : ∀ t ∈ texts, t.length ≤ n := fun t ht ↦ by
    have hmem := List.le_sum_of_mem (List.mem_map_of_mem (f := List.length) ht)
    have hpos := List.length_pos_of_mem ht
    omega
  have helements := h n hlengths
  rw [List.append_assoc, List.cons_append, readValue_opening, List.singleton_append, readBracket]
  cases helements with
  | nil =>
    have hskip : skip (jsonComma.intercalate [] ++ b.closing :: rest) = b.closing :: rest :=
      skip_cons (not_isSpace_closing b) rest
    rw [hskip]
    dsimp only
    rw [if_pos rfl]
    rfl
  | @cons t r texts results ht htexts =>
    obtain ⟨tail, htail⟩ := exists_intercalate_cons jsonComma t texts
    obtain ⟨c, s, hs, -, hc⟩ := ht.1.append (tail ++ b.closing :: rest)
    have hskip : skip (jsonComma.intercalate (t :: texts) ++ b.closing :: rest) = c :: s := by
      rw [htail, List.append_assoc, (ht.1.append _).skip_eq, hs]
    rw [hskip]
    dsimp only
    rw [if_neg (hc b), readElements_intercalate (.cons ht htexts) (List.cons_ne_nil _ _)
      (by omega) (not_isSpace_closing b) (not_isScalarChar_closing b) (by cases b <;> decide),
      Option.map_map, Option.map_map]
    rfl

/-- An entry is read as its value is. -/
theorem readsAs_entry (name : String) {s : List Char} {r : Option Json} {n : Nat}
    (h : ReadsAs (readValue n) s r) :
    ReadsAs (readElement (readValue n) .object) (jsonText name ++ ':' :: ' ' :: s)
      (r.map fun j ↦ (name, j)) := by
  refine ⟨starts_quote _, fun rest hrest ↦ ?_⟩
  have hbody := readBody_of_textBody (textBody_flatMap name.toList) (':' :: ' ' :: (s ++ rest))
  have hvalue : skip (' ' :: (s ++ rest)) = s ++ rest := (h.1.append rest).skip_eq
  have hcolon : skip (':' :: ' ' :: (s ++ rest)) = ':' :: ' ' :: (s ++ rest) := skip_cons rfl _
  simp only [readElement, readEntry, jsonText, List.cons_append, List.append_assoc,
    List.nil_append, hbody, Option.bind_some, hcolon, hvalue, h.2 rest hrest, Option.map_map,
    ofUnits_flatMap_units, String.ofList_toList]
  cases r <;> rfl

mutual

/-- The text of a tree is read with what is read of its numbers. -/
theorem readsAs_chars : ∀ (j : Json) {n : Nat}, j.chars.length ≤ n →
    ReadsAs (readValue n) j.chars j.asRead?
  | .null, _, hn => readsAs_of_means (.word (.head _)) hn
  | .bool true, _, hn => readsAs_of_means (.word (.tail _ (.head _))) hn
  | .bool false, _, hn => readsAs_of_means (.word (.tail _ (.tail _ (.head _)))) hn
  | .integer i, n, hn => by
    obtain ⟨hne, hscalar⟩ := isScalarChar_of_scalar? (scalar?_writeInteger i)
    rw [asRead?, ← scalar?_writeInteger i]
    · exact readsAs_scalarChars hne hscalar hn
    all_goals nofun
  | .number x, n, hn => by
    rw [asRead?]
    obtain ⟨hne, hscalar⟩ := isScalarChar_of_mem_jsonNumber x
    exact readsAs_scalarChars hne hscalar hn
  | .text s, n, hn => readsAs_of_means (means_jsonText s) hn
  | .array items, n, hn => by
    rw [asRead?]
    exact readsAs_bracket .array hn fun _ ↦ readsAs_itemChars items
  | .object entries, n, hn => by
    rw [asRead?]
    exact readsAs_bracket .object hn fun _ ↦ readsAs_entryChars entries

theorem readsAs_itemChars : ∀ (items : List Json) {n : Nat},
    (∀ t ∈ itemChars items, t.length ≤ n) →
      List.Forall₂ (ReadsAs (readElement (readValue n) .array)) (itemChars items)
        (itemsAsRead items)
  | [], _, _ => .nil
  | item :: rest, n, hn => by
    rw [itemChars, List.forall_mem_cons] at hn
    exact .cons (readsAs_chars item hn.1) (readsAs_itemChars rest hn.2)

theorem readsAs_entryChars : ∀ (entries : List (String × Json)) {n : Nat},
    (∀ t ∈ entryChars entries, t.length ≤ n) →
      List.Forall₂ (ReadsAs (readElement (readValue n) .object)) (entryChars entries)
        (entriesAsRead entries)
  | [], _, _ => .nil
  | (name, item) :: rest, n, hn => by
    rw [entryChars, List.forall_mem_cons] at hn
    have hlength : item.chars.length ≤ n := by
      have := hn.1
      simp only [List.length_append, List.length_cons] at this
      omega
    exact .cons (readsAs_entry name (readsAs_chars item hlength)) (readsAs_entryChars rest hn.2)

end

/-- A tree is read from its text with what is read of its numbers. -/
theorem read?_chars (j : Json) : read? j.chars = j.asRead? := by
  have h := readsAs_chars j le_rfl
  have hread := h.2 [] nofun
  rw [List.append_nil] at hread
  rw [read?, h.1.skip_eq, hread]
  cases j.asRead? <;> rfl

/-! ### The numbers of a tree -/

mutual

/-- The floating-point numbers in a tree, in order. -/
def numbers : Json → List Binary64
  | .number x => [x]
  | .array items => itemNumbers items
  | .object entries => entryNumbers entries
  | _ => []

/-- The floating-point numbers in some trees. -/
def itemNumbers : List Json → List Binary64
  | [] => []
  | item :: rest => item.numbers ++ itemNumbers rest

/-- The floating-point numbers in some entries. -/
def entryNumbers : List (String × Json) → List Binary64
  | [] => []
  | (_, item) :: rest => item.numbers ++ entryNumbers rest

end

section Results

variable {α : Type}

theorem isSome_mapM_id (results : List (Option α)) :
    (results.mapM id).isSome = true ↔ ∀ r ∈ results, r.isSome = true := by
  induction results with
  | nil => simp
  | cons r results ih =>
    rw [mapM_id_cons, List.forall_mem_cons, ← ih]
    cases r <;> simp

end Results

mutual

/-- A tree is read if its numbers are. -/
theorem isSome_asRead? : ∀ j : Json,
    j.asRead?.isSome = true ↔ ∀ x ∈ j.numbers, (scalar? (jsonNumber x).toList).isSome = true
  | .null | .bool _ | .integer _ | .text _ => by simp [asRead?, numbers]
  | .number x => by simp [asRead?, numbers]
  | .array items => by
    rw [asRead?, numbers, Option.isSome_map, isSome_mapM_id, isSome_itemsAsRead]
  | .object entries => by
    rw [asRead?, numbers, Option.isSome_map, isSome_mapM_id, isSome_entriesAsRead]

theorem isSome_itemsAsRead : ∀ items : List Json,
    (∀ r ∈ itemsAsRead items, r.isSome = true) ↔
      ∀ x ∈ itemNumbers items, (scalar? (jsonNumber x).toList).isSome = true
  | [] => by simp [itemsAsRead, itemNumbers]
  | item :: rest => by
    rw [itemsAsRead, itemNumbers, List.forall_mem_cons, List.forall_mem_append,
      isSome_asRead? item, isSome_itemsAsRead rest]

theorem isSome_entriesAsRead : ∀ entries : List (String × Json),
    (∀ r ∈ entriesAsRead entries, r.isSome = true) ↔
      ∀ x ∈ entryNumbers entries, (scalar? (jsonNumber x).toList).isSome = true
  | [] => by simp [entriesAsRead, entryNumbers]
  | (name, item) :: rest => by
    rw [entriesAsRead, entryNumbers, List.forall_mem_cons, List.forall_mem_append,
      Option.isSome_map, isSome_asRead? item, isSome_entriesAsRead rest]

end

mutual

/-- A tree without floating-point numbers is read as itself. -/
theorem asRead?_eq_self : ∀ {j : Json}, j.numbers = [] → j.asRead? = some j
  | .null, _ | .bool _, _ | .integer _, _ | .text _, _ => rfl
  | .number x, h => by simp [numbers] at h
  | .array items, h => by
    rw [numbers] at h
    rw [asRead?, itemsAsRead_eq_self h]
    rfl
  | .object entries, h => by
    rw [numbers] at h
    rw [asRead?, entriesAsRead_eq_self h]
    rfl

theorem itemsAsRead_eq_self : ∀ {items : List Json}, itemNumbers items = [] →
    (itemsAsRead items).mapM id = some items
  | [], _ => rfl
  | item :: rest, h => by
    rw [itemNumbers, List.append_eq_nil_iff] at h
    rw [itemsAsRead, mapM_id_cons, asRead?_eq_self h.1, itemsAsRead_eq_self h.2]
    rfl

theorem entriesAsRead_eq_self : ∀ {entries : List (String × Json)}, entryNumbers entries = [] →
    (entriesAsRead entries).mapM id = some entries
  | [], _ => rfl
  | (name, item) :: rest, h => by
    rw [entryNumbers, List.append_eq_nil_iff] at h
    rw [entriesAsRead, mapM_id_cons, asRead?_eq_self h.1, entriesAsRead_eq_self h.2]
    rfl

end

/-- **A tree is written as JSON exactly if its numbers are finite**, if they are numbers of the
format. -/
theorem exists_denotes_chars_iff {j : Json} (hj : ∀ x ∈ j.numbers, x.IsRepresentable) :
    (∃ j', Denotes j.chars j') ↔ ∀ x ∈ j.numbers, x.isFinite = true := by
  simp only [← read?_eq_some_iff, read?_chars, ← Option.isSome_iff_exists]
  rw [isSome_asRead?]
  exact forall₂_congr fun x hx ↦ by rw [isSome_scalar?_jsonNumber (hj x hx)]

/-- An array is written as an array, if it is written as JSON at all. -/
theorem exists_items_of_denotes {items : List Json} {j : Json}
    (h : Denotes (Json.array items).chars j) : ∃ items', j = .array items' := by
  rw [← read?_eq_some_iff, read?_chars, asRead?, Option.map_eq_some_iff] at h
  obtain ⟨items', -, rfl⟩ := h
  exact ⟨items', rfl⟩

/-- A tree without floating-point numbers is written as JSON that means it. -/
theorem denotes_chars {j : Json} (hj : j.numbers = []) : Denotes j.chars j :=
  read?_eq_some_iff.1 (by rw [read?_chars, asRead?_eq_self hj])

/-! ### Characters of a written tree -/

theorem isAscii_of_isScalarChar {s : List Char} (hs : ∀ c ∈ s, isScalarChar c = true) :
    IsAscii s := by
  intro c hc
  have hscalar := hs c hc
  simp only [isScalarChar, Char.isAlphanum, isAlpha_iff, Char.isDigit, Bool.or_eq_true,
    Bool.and_eq_true, decide_eq_true_eq, beq_iff_eq] at hscalar
  have hle : c.toNat ≤ 'z'.toNat := by
    rcases hscalar with ((((⟨-, hle⟩ | ⟨-, hle⟩) | ⟨-, hle⟩) | rfl) | rfl) | rfl
    · exact Nat.le_trans hle (by decide)
    · exact hle
    · exact Nat.le_trans hle (by decide)
    all_goals decide
  exact hle.trans_lt (by decide)

theorem isAscii_intercalate {texts : List (List Char)} (h : ∀ t ∈ texts, IsAscii t) :
    IsAscii (jsonComma.intercalate texts) := by
  induction texts with
  | nil => exact nofun
  | cons t texts ih =>
    rw [List.forall_mem_cons] at h
    cases texts with
    | nil => rw [List.intercalate_singleton]; exact h.1
    | cons t' texts =>
      rw [List.intercalate_cons_cons, isAscii_append, isAscii_append]
      exact ⟨⟨h.1, by decide⟩, ih h.2⟩

mutual

/-- A tree is written in ASCII. -/
theorem isAscii_chars : ∀ j : Json, IsAscii j.chars
  | .null => by decide
  | .bool true | .bool false => by decide
  | .integer n => isAscii_of_isScalarChar (isScalarChar_of_scalar? (scalar?_writeInteger n)).2
  | .number x => isAscii_of_isScalarChar (isScalarChar_of_mem_jsonNumber x).2
  | .text s => isAscii_jsonText s
  | .array items =>
    isAscii_append.2 ⟨isAscii_cons.2 ⟨by decide, isAscii_intercalate (isAscii_itemChars items)⟩,
      by decide⟩
  | .object entries =>
    isAscii_append.2 ⟨isAscii_cons.2 ⟨by decide, isAscii_intercalate (isAscii_entryChars entries)⟩,
      by decide⟩

theorem isAscii_itemChars : ∀ (items : List Json), ∀ t ∈ itemChars items, IsAscii t
  | [] => nofun
  | item :: rest => List.forall_mem_cons.2 ⟨isAscii_chars item, isAscii_itemChars rest⟩

theorem isAscii_entryChars : ∀ (entries : List (String × Json)), ∀ t ∈ entryChars entries, IsAscii t
  | [] => nofun
  | (name, item) :: rest =>
    List.forall_mem_cons.2 ⟨isAscii_append.2 ⟨isAscii_jsonText name,
      isAscii_cons.2 ⟨by decide, isAscii_cons.2 ⟨by decide, isAscii_chars item⟩⟩⟩,
      isAscii_entryChars rest⟩

end

end Json

end FluentSql
