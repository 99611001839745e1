import FluentSql.Proofs.JsonGrammar
import Mathlib.Data.List.TakeWhile

/-!
# Reading JSON

A reader of JSON, and that it reads what the grammar says. `Json.read?` goes through a text from the
left: it takes blanks away, looks at one character, and reads a text, a bracket, or the longest run
of characters that words and numbers are made of. Elements between brackets are read by one function
for arrays and objects. The depth of brackets, and the number of elements, are bounded by a number
that a text starts with as many as it has characters, which always suffices.

* What is read is in the grammar with the tree that is returned (`readValue_sound`).
* What is in the grammar is read, whatever follows it, unless that goes on with a word or a number
  (`Means.isRead`). This is by induction on the grammar; the bound enters as the length of the part
  that is read.

So a text is read as a tree exactly if it means the tree (`read?_eq_some_iff`), and no text of the
grammar means two trees (`Denotes.unique`).
-/

namespace FluentSql.Json

open FluentSql.Number

/-! ### Runs of characters -/

/-- What is said of the characters of a text is decided by looking at them, not at all characters
that there are. -/
instance decidableForallMem (p : Char → Prop) [DecidablePred p] (s : List Char) :
    Decidable (∀ c ∈ s, p c) :=
  List.decidableBAll p s

section Runs

variable {p : Char → Bool} {l r : List Char}

/-- Characters of a kind are split off what does not start with one. -/
theorem takeWhile_append_of_run (hl : ∀ c ∈ l, p c = true) (hr : ∀ c ∈ r.head?, p c = false) :
    (l ++ r).takeWhile p = l := by
  rw [List.takeWhile_append_of_pos hl]
  cases r with
  | nil => simp
  | cons c rest => simp [hr c rfl]

theorem dropWhile_append_of_run (hl : ∀ c ∈ l, p c = true) (hr : ∀ c ∈ r.head?, p c = false) :
    (l ++ r).dropWhile p = r := by
  rw [List.dropWhile_append_of_pos hl]
  cases r with
  | nil => simp
  | cons c rest => simp [hr c rfl]

end Runs

/-! ### Numbers -/

instance : DecidablePred IsDigits := fun _ ↦
  inferInstanceAs (Decidable (_ ∧ _))

instance : DecidablePred IsWhole := fun _ ↦
  inferInstanceAs (Decidable (_ ∧ (_ → _)))

/-- The characters are an exponent, or none. -/
def isExponent : List Char → Bool
  | [] => true
  | letter :: rest => (letter == 'e' || letter == 'E') && decide (IsDigits (splitSign rest).2)

/-- The characters are what follows the whole digits of a number. -/
def isNumberTail : List Char → Bool
  | '.' :: rest =>
    decide (IsDigits (rest.takeWhile Char.isDigit)) && isExponent (rest.dropWhile Char.isDigit)
  | s => isExponent s

/-- The characters without a minus in front. -/
def dropMinus : List Char → List Char
  | '-' :: rest => rest
  | s => s

/-- The characters are a number. -/
def isNumber (s : List Char) : Bool :=
  decide (IsWhole ((dropMinus s).takeWhile Char.isDigit)) &&
    isNumberTail ((dropMinus s).dropWhile Char.isDigit)

theorem splitSign_eq (s : List Char) :
    ∃ sign ∈ [[], ['-'], ['+']], s = sign ++ (splitSign s).2 := by
  unfold splitSign
  split <;> simp

theorem IsDigits.head? {s : List Char} (hs : IsDigits s) (rest : List Char) :
    ∃ c, (s ++ rest).head? = some c ∧ c.isDigit = true := by
  obtain ⟨c, tail, rfl⟩ := List.exists_cons_of_ne_nil hs.1
  exact ⟨c, rfl, hs.2 c (List.mem_cons_self ..)⟩

/-- Digits are not taken for a sign, whatever follows them. -/
theorem splitSign_append_of_isDigits {s : List Char} (hs : IsDigits s) (rest : List Char) :
    splitSign (s ++ rest) = (false, s ++ rest) := by
  obtain ⟨c, tail, rfl⟩ := List.exists_cons_of_ne_nil hs.1
  have hc := hs.2 c (List.mem_cons_self ..)
  rw [List.cons_append]
  unfold splitSign
  split
  · next heq =>
    obtain ⟨rfl, -⟩ := List.cons.inj heq
    exact absurd hc (by decide)
  · next heq =>
    obtain ⟨rfl, -⟩ := List.cons.inj heq
    exact absurd hc (by decide)
  · rfl

theorem splitSign_of_isDigits {s : List Char} (hs : IsDigits s) : splitSign s = (false, s) := by
  simpa using splitSign_append_of_isDigits hs []

theorem isExponent_iff {s : List Char} : isExponent s = true ↔ IsExponent s := by
  cases s with
  | nil => simp [isExponent, IsExponent]
  | cons letter rest =>
    simp only [isExponent, Bool.and_eq_true, Bool.or_eq_true, beq_iff_eq, decide_eq_true_eq]
    constructor
    · rintro ⟨hletter, hdigits⟩
      obtain ⟨sign, hsign, hrest⟩ := splitSign_eq rest
      exact Or.inr ⟨letter, by simpa using hletter, sign, hsign, _, hdigits, by rw [← hrest]⟩
    · rintro (hnil | ⟨letter', hletter, sign, hsign, digits, hdigits, heq⟩)
      · cases hnil
      · obtain ⟨rfl, rfl⟩ := List.cons.inj heq
        refine ⟨by simpa using hletter, ?_⟩
        have hsplit : (splitSign (sign ++ digits)).2 = digits := by
          simp only [List.mem_cons, List.not_mem_nil, or_false] at hsign
          rcases hsign with rfl | rfl | rfl
          · rw [List.nil_append, splitSign_of_isDigits hdigits]
          · rfl
          · rfl
        rwa [hsplit]

theorem IsExponent.head? {s : List Char} (hs : IsExponent s) :
    ∀ c ∈ s.head?, c.isDigit = false ∧ c ≠ '.' := by
  intro c hc
  rcases hs with rfl | ⟨letter, hletter, sign, -, digits, -, rfl⟩
  · cases hc
  · obtain rfl := Option.some.inj hc
    simp only [List.mem_cons, List.not_mem_nil, or_false] at hletter
    rcases hletter with rfl | rfl <;> decide

theorem isNumberTail_iff {s : List Char} :
    isNumberTail s = true ↔
      ∃ fraction exponent, IsFraction fraction ∧ IsExponent exponent ∧
        s = fraction ++ exponent := by
  constructor
  · intro hs
    unfold isNumberTail at hs
    split at hs
    · next rest =>
      simp only [Bool.and_eq_true, decide_eq_true_eq] at hs
      refine ⟨_, _, Or.inr ⟨_, hs.1, rfl⟩, isExponent_iff.1 hs.2, ?_⟩
      rw [List.cons_append, List.takeWhile_append_dropWhile]
    · exact ⟨[], s, Or.inl rfl, isExponent_iff.1 hs, rfl⟩
  · rintro ⟨fraction, exponent, rfl | ⟨digits, hdigits, rfl⟩, hexponent, rfl⟩
    · unfold isNumberTail
      split
      · exact absurd rfl (hexponent.head? '.' rfl).2
      · exact isExponent_iff.2 hexponent
    · have hhead : ∀ c ∈ exponent.head?, c.isDigit = false := fun c hc ↦ (hexponent.head? c hc).1
      simp only [isNumberTail, List.cons_append, takeWhile_append_of_run hdigits.2 hhead,
        dropWhile_append_of_run hdigits.2 hhead, Bool.and_eq_true, decide_eq_true_eq]
      exact ⟨hdigits, isExponent_iff.2 hexponent⟩

theorem isNumber_iff {s : List Char} : isNumber s = true ↔ IsNumber s := by
  constructor
  · intro hs
    simp only [isNumber, Bool.and_eq_true, decide_eq_true_eq, isNumberTail_iff] at hs
    obtain ⟨hwhole, fraction, exponent, hfraction, hexponent, htail⟩ := hs
    have hsign : ∃ sign ∈ [[], ['-']], s = sign ++ dropMinus s := by
      unfold dropMinus
      split <;> simp
    obtain ⟨sign, hsign, hs⟩ := hsign
    refine ⟨sign, hsign, _, fraction, exponent, hwhole, hfraction, hexponent, ?_⟩
    rw [← htail, List.takeWhile_append_dropWhile, ← hs]
  · rintro ⟨sign, hsign, whole, fraction, exponent, hwhole, hfraction, hexponent, rfl⟩
    have hminus : dropMinus (sign ++ (whole ++ (fraction ++ exponent))) =
        whole ++ (fraction ++ exponent) := by
      simp only [List.mem_cons, List.not_mem_nil, or_false] at hsign
      rcases hsign with rfl | rfl
      · obtain ⟨c, hhead, hc⟩ := hwhole.1.head? (fraction ++ exponent)
        rw [List.nil_append]
        unfold dropMinus
        split
        · next heq =>
          rw [heq] at hhead
          obtain rfl := Option.some.inj hhead
          exact absurd hc (by decide)
        · rfl
      · rfl
    have hhead : ∀ c ∈ (fraction ++ exponent).head?, c.isDigit = false := by
      intro c hc
      rcases hfraction with rfl | ⟨digits, -, rfl⟩
      · exact (hexponent.head? c hc).1
      · obtain rfl := Option.some.inj hc
        rfl
    simp only [isNumber, hminus, takeWhile_append_of_run hwhole.1.2 hhead,
      dropWhile_append_of_run hwhole.1.2 hhead, Bool.and_eq_true, decide_eq_true_eq]
    exact ⟨hwhole, isNumberTail_iff.2 ⟨fraction, exponent, hfraction, hexponent, rfl⟩⟩

/-! ### Words and numbers -/

/-- The character can be part of a word or of a number. -/
def isScalarChar (c : Char) : Bool :=
  c.isAlphanum || c == '+' || c == '-' || c == '.'

/-- The tree of a word or a number. -/
def scalar? (s : List Char) : Option Json :=
  if isNumber s then some (numberTree s) else words.lookup s

/-- Read the longest run of characters that a word or a number can be made of. -/
def readScalar (s : List Char) : Option (Json × List Char) :=
  (scalar? (s.takeWhile isScalarChar)).map fun j ↦ (j, s.dropWhile isScalarChar)

theorem scalar?_eq_some_iff {s : List Char} {j : Json} :
    scalar? s = some j ↔ (s, j) ∈ words ∨ IsNumber s ∧ j = numberTree s := by
  have hwords : (s, j) ∈ words ↔ isNumber s = false ∧ words.lookup s = some j := by
    constructor
    · intro h
      simp only [words, List.mem_cons, List.not_mem_nil, or_false, Prod.mk.injEq] at h
      rcases h with ⟨rfl, rfl⟩ | ⟨rfl, rfl⟩ | ⟨rfl, rfl⟩ <;> exact ⟨rfl, rfl⟩
    · rintro ⟨-, h⟩
      obtain ⟨before, after, hsplit, -⟩ := List.lookup_eq_some_iff.1 h
      exact hsplit ▸ List.mem_append_right _ (List.mem_cons_self ..)
  rw [hwords, ← isNumber_iff, scalar?]
  cases isNumber s <;> simp [eq_comm]

/-! ### Texts -/

/-- Read what stands between the quotes of a text, and the quote at its end. -/
def readBody : List Char → Option (List Nat × List Char)
  | [] => none
  | '"' :: rest => some ([], rest)
  | '\\' :: 'u' :: c₁ :: c₂ :: c₃ :: c₄ :: rest =>
    (hexValue? [c₁, c₂, c₃, c₄]).bind fun u ↦
      (readBody rest).map fun (us, rest) ↦ (u :: us, rest)
  | '\\' :: c :: rest =>
    (shortEscape? c).bind fun u ↦ (readBody rest).map fun (us, rest) ↦ (u :: us, rest)
  | c :: rest =>
    if isPlain c then (readBody rest).map fun (us, rest) ↦ (units c ++ us, rest) else none

theorem readBody_sound {s rest : List Char} {us : List Nat} (h : readBody s = some (us, rest)) :
    ∃ t, s = t ++ '"' :: rest ∧ TextBody t us := by
  fun_induction readBody s generalizing us with
  | case1 => cases h
  | case2 rest =>
    cases h
    exact ⟨[], rfl, .nil⟩
  | case3 c₁ c₂ c₃ c₄ s ih =>
    obtain ⟨u, hu, hrest⟩ := Option.bind_eq_some_iff.1 h
    obtain ⟨⟨vs, rest'⟩, hvs, heq⟩ := Option.map_eq_some_iff.1 hrest
    cases heq
    obtain ⟨t, rfl, ht⟩ := ih hvs
    exact ⟨_, rfl, .unit hu ht⟩
  | case4 c s _ ih =>
    obtain ⟨u, hu, hrest⟩ := Option.bind_eq_some_iff.1 h
    obtain ⟨⟨vs, rest'⟩, hvs, heq⟩ := Option.map_eq_some_iff.1 hrest
    cases heq
    obtain ⟨t, rfl, ht⟩ := ih hvs
    exact ⟨_, rfl, .short hu ht⟩
  | case5 c s _ _ _ hc ih =>
    obtain ⟨⟨vs, rest'⟩, hvs, heq⟩ := Option.map_eq_some_iff.1 h
    cases heq
    obtain ⟨t, rfl, ht⟩ := ih hvs
    exact ⟨_, rfl, .plain hc ht⟩
  | case6 => cases h

theorem readBody_of_textBody {s : List Char} {us : List Nat} (h : TextBody s us)
    (rest : List Char) : readBody (s ++ '"' :: rest) = some (us, rest) := by
  induction h with
  | nil => rfl
  | @plain c s us hc _ ih =>
    have hquote : c ≠ '"' := by rintro rfl; cases hc
    have hslash : c ≠ '\\' := by rintro rfl; cases hc
    rw [List.cons_append, readBody, if_pos hc, ih]
    · rfl
    all_goals simp_all
  | @short c u s us hc _ ih =>
    have hu : c ≠ 'u' := by rintro rfl; cases hc
    rw [List.cons_append, List.cons_append, readBody, hc, ih]
    · rfl
    · simp_all
  | @unit c₁ c₂ c₃ c₄ u s us hc _ ih =>
    simp only [List.cons_append, readBody, hc, ih, Option.bind_some, Option.map_some]

/-! ### Blanks -/

/-- What is left without the blanks in front. -/
def skip (s : List Char) : List Char :=
  s.dropWhile isSpace

theorem exists_blank_append_skip (s : List Char) : ∃ before, Blank before ∧ s = before ++ skip s :=
  ⟨s.takeWhile isSpace, fun _ ↦ List.mem_takeWhile_imp, List.takeWhile_append_dropWhile.symm⟩

theorem skip_cons {c : Char} (hc : isSpace c = false) (rest : List Char) :
    skip (c :: rest) = c :: rest :=
  List.dropWhile_cons_of_neg (by simp [hc])

/-- Blanks are skipped up to a character that is none. -/
theorem skip_blank_append {before : List Char} (hbefore : Blank before) {c : Char}
    (hc : isSpace c = false) (rest : List Char) : skip (before ++ c :: rest) = c :: rest := by
  refine dropWhile_append_of_run hbefore fun d hd ↦ ?_
  rwa [← Option.some.inj hd]

/-! ### Values -/

/-- Read elements with commas between them, and the character that closes their bracket. -/
def readElements {α : Type} (read : List Char → Option (α × List Char)) (closing : Char) :
    Nat → List Char → Option (List α × List Char)
  | 0, _ => none
  | n + 1, s =>
    (read (skip s)).bind fun (e, rest) ↦
      match skip rest with
      | [] => none
      | c :: rest =>
        if c = ',' then (readElements read closing n rest).map fun (es, rest) ↦ (e :: es, rest)
        else if c = closing then some ([e], rest)
        else none

/-- Read a name, a colon and a value, with a reader of values. -/
def readEntry (read : List Char → Option (Json × List Char)) :
    List Char → Option ((String × Json) × List Char)
  | '"' :: s =>
    (readBody s).bind fun (us, rest) ↦
      match skip rest with
      | ':' :: rest =>
        (read (skip rest)).map fun (j, rest) ↦ ((String.ofList (ofUnits us), j), rest)
      | _ => none
  | _ => none

/-- Read an element of a bracket, with a reader of values. -/
def readElement (read : List Char → Option (Json × List Char)) :
    (b : Bracket) → List Char → Option (b.Element × List Char)
  | .array => read
  | .object => readEntry read

/-- Read a bracket that has been opened, with a reader of values. -/
def readBracket (read : List Char → Option (Json × List Char)) (b : Bracket) (n : Nat)
    (s : List Char) : Option (Json × List Char) :=
  match skip s with
  | [] => none
  | c :: rest =>
    if c = b.closing then some (b.tree [], rest)
    else
      (readElements (readElement read b) b.closing n s).map fun (es, rest) ↦ (b.tree es, rest)

/-- Read a value at the front of a text, with a bound on the depth and the number of elements. -/
def readValue : Nat → List Char → Option (Json × List Char)
  | 0, _ => none
  | _ + 1, [] => none
  | n + 1, c :: s =>
    if c = '"' then
      (readBody s).map fun (us, rest) ↦ (.text (String.ofList (ofUnits us)), rest)
    else if c = '[' then readBracket (readValue n) .array n s
    else if c = '\x7b' then readBracket (readValue n) .object n s
    else readScalar (c :: s)

/-- Read a JSON text. -/
def read? (s : List Char) : Option Json :=
  (readValue s.length (skip s)).bind fun (j, rest) ↦ if rest.all isSpace then some j else none

/-! ### What is read is in the grammar -/

theorem readScalar_sound {s rest : List Char} {j : Json} (h : readScalar s = some (j, rest)) :
    ∃ t, s = t ++ rest ∧ Means .value t j := by
  obtain ⟨j', hj, heq⟩ := Option.map_eq_some_iff.1 h
  cases heq
  refine ⟨_, List.takeWhile_append_dropWhile.symm, ?_⟩
  rcases scalar?_eq_some_iff.1 hj with hword | ⟨hnumber, rfl⟩
  · exact .word hword
  · exact .number hnumber

section Sound

variable {b : Bracket} {read : List Char → Option (Json × List Char)}

theorem readElements_sound {read : List Char → Option (b.Element × List Char)}
    (hread : ∀ {s e rest}, read s = some (e, rest) → ∃ t, s = t ++ rest ∧ Means (.element b) t e)
    {n : Nat} {s rest : List Char} {es : List b.Element}
    (h : readElements read b.closing n s = some (es, rest)) :
    ∃ t, s = t ++ b.closing :: rest ∧ Means (.elements b) t es := by
  induction n generalizing s es with
  | zero => cases h
  | succ n ih =>
    obtain ⟨⟨e, tail⟩, he, htail⟩ := Option.bind_eq_some_iff.1 h
    obtain ⟨t, ht, hmeans⟩ := hread he
    obtain ⟨before, hbefore, hs⟩ := exists_blank_append_skip s
    obtain ⟨after, hafter, hsplit⟩ := exists_blank_append_skip tail
    dsimp only at htail
    split at htail
    · cases htail
    · next c rest' hskip =>
      rw [ht, hsplit, hskip] at hs
      split at htail
      · next hcomma =>
        obtain ⟨⟨es', _⟩, hes, heq⟩ := Option.map_eq_some_iff.1 htail
        cases heq
        obtain ⟨t', rfl, hmeans'⟩ := ih hes
        refine ⟨_, hs.trans ?_, .next hbefore hafter hmeans hmeans'⟩
        simp only [hcomma, List.append_assoc, List.cons_append]
      · split at htail
        · next hclosing =>
          cases htail
          refine ⟨_, hs.trans ?_, .last hbefore hafter hmeans⟩
          simp only [hclosing, List.append_assoc]
        · cases htail

theorem readEntry_sound
    (hread : ∀ {s j rest}, read s = some (j, rest) → ∃ t, s = t ++ rest ∧ Means .value t j)
    {s rest : List Char} {e : String × Json} (h : readEntry read s = some (e, rest)) :
    ∃ t, s = t ++ rest ∧ Means (.element .object) t e := by
  unfold readEntry at h
  split at h
  · next s =>
    obtain ⟨⟨us, tail⟩, hus, htail⟩ := Option.bind_eq_some_iff.1 h
    obtain ⟨name, rfl, hname⟩ := readBody_sound hus
    obtain ⟨before, hbefore, hsplit⟩ := exists_blank_append_skip tail
    dsimp only at htail
    split at htail
    · next rest' hskip =>
      obtain ⟨⟨j, _⟩, hj, heq⟩ := Option.map_eq_some_iff.1 htail
      cases heq
      obtain ⟨t, ht, hmeans⟩ := hread hj
      obtain ⟨after, hafter, hsplit'⟩ := exists_blank_append_skip rest'
      rw [hskip, hsplit', ht] at hsplit
      refine ⟨_, ?_, .entry hname hbefore hafter hmeans⟩
      simp only [hsplit, List.cons_append, List.append_assoc]
    · cases htail
  · cases h

theorem readElement_sound
    (hread : ∀ {s j rest}, read s = some (j, rest) → ∃ t, s = t ++ rest ∧ Means .value t j)
    {s rest : List Char} {e : b.Element} (h : readElement read b s = some (e, rest)) :
    ∃ t, s = t ++ rest ∧ Means (.element b) t e := by
  cases b with
  | array =>
    obtain ⟨t, rfl, ht⟩ := hread h
    exact ⟨t, rfl, .item ht⟩
  | object => exact readEntry_sound hread h

theorem readBracket_sound
    (hread : ∀ {s j rest}, read s = some (j, rest) → ∃ t, s = t ++ rest ∧ Means .value t j)
    {n : Nat} {s rest : List Char} {j : Json} (h : readBracket read b n s = some (j, rest)) :
    ∃ t, b.opening :: s = t ++ rest ∧ Means .value t j := by
  obtain ⟨before, hbefore, hs⟩ := exists_blank_append_skip s
  unfold readBracket at h
  split at h
  · cases h
  · next c rest' hskip =>
    rw [hskip] at hs
    split at h
    · next hclosing =>
      cases h
      refine ⟨_, ?_, .empty b hbefore⟩
      simp only [hs, hclosing, List.cons_append, List.append_assoc, List.nil_append]
    · obtain ⟨⟨es, _⟩, hes, heq⟩ := Option.map_eq_some_iff.1 h
      cases heq
      obtain ⟨t, rfl, ht⟩ := readElements_sound (readElement_sound hread) hes
      exact ⟨_, by simp only [List.cons_append, List.append_assoc, List.nil_append], .bracket b ht⟩

end Sound

theorem readValue_sound {n : Nat} {s rest : List Char} {j : Json}
    (h : readValue n s = some (j, rest)) : ∃ t, s = t ++ rest ∧ Means .value t j := by
  induction n generalizing s rest j with
  | zero => cases h
  | succ n ih =>
    cases s with
    | nil => cases h
    | cons c s =>
      rw [readValue] at h
      split at h
      · next hquote =>
        obtain ⟨⟨us, _⟩, hus, heq⟩ := Option.map_eq_some_iff.1 h
        cases heq
        obtain ⟨t, rfl, ht⟩ := readBody_sound hus
        exact ⟨_, by simp [hquote], .text ht⟩
      · split at h
        · next hopening => exact hopening ▸ readBracket_sound (b := .array) ih h
        · split at h
          · next hopening => exact hopening ▸ readBracket_sound (b := .object) ih h
          · exact readScalar_sound h

/-! ### What is in the grammar is read -/

/-- The rest of a text does not go on with a word or a number. -/
def Follows (rest : List Char) : Prop :=
  ∀ c ∈ rest.head?, isScalarChar c = false

theorem follows_cons {c : Char} (hc : isScalarChar c = false) (rest : List Char) :
    Follows (c :: rest) := by
  intro d hd
  rwa [← Option.some.inj hd]

theorem follows_blank_append {before : List Char} (hbefore : Blank before) {c : Char}
    (hc : isScalarChar c = false) (rest : List Char) : Follows (before ++ c :: rest) := by
  cases before with
  | nil => exact follows_cons hc rest
  | cons d before =>
    have hd := hbefore d (List.mem_cons_self ..)
    simp only [isSpace, Bool.or_eq_true, beq_iff_eq] at hd
    refine follows_cons ?_ _
    rcases hd with ((rfl | rfl) | rfl) | rfl <;> rfl

/-- The text starts with a character that is neither blank nor closes a bracket. -/
def Starts (s : List Char) : Prop :=
  ∃ c rest, s = c :: rest ∧ isSpace c = false ∧ ∀ b : Bracket, c ≠ b.closing

theorem starts_of_isScalarChar {c : Char} (hc : isScalarChar c = true) (rest : List Char) :
    Starts (c :: rest) := by
  refine ⟨c, rest, rfl, ?_, ?_⟩
  · rw [← Bool.not_eq_true]
    intro hspace
    simp only [isSpace, Bool.or_eq_true, beq_iff_eq] at hspace
    rcases hspace with ((rfl | rfl) | rfl) | rfl <;> cases hc
  · rintro b rfl
    cases b <;> cases hc

theorem starts_quote (s : List Char) : Starts ('"' :: s) :=
  ⟨_, _, rfl, rfl, fun b ↦ by cases b <;> decide⟩

theorem starts_opening (b : Bracket) (s : List Char) : Starts (b.opening :: s) :=
  ⟨_, _, rfl, by cases b <;> rfl, fun b' ↦ by cases b <;> cases b' <;> decide⟩

/-- Words and numbers are made of such characters, of one at least. -/
theorem isScalarChar_of_scalar? {s : List Char} {j : Json} (h : scalar? s = some j) :
    s ≠ [] ∧ ∀ c ∈ s, isScalarChar c = true := by
  rcases scalar?_eq_some_iff.1 h with hword | ⟨hnumber, -⟩
  · simp only [words, List.mem_cons, List.not_mem_nil, or_false, Prod.mk.injEq] at hword
    rcases hword with ⟨rfl, -⟩ | ⟨rfl, -⟩ | ⟨rfl, -⟩ <;> decide
  · have hdigit : ∀ {digits : List Char}, IsDigits digits →
        ∀ c ∈ digits, isScalarChar c = true := fun hdigits c hc ↦ by
      simp [isScalarChar, Char.isAlphanum, hdigits.2 c hc]
    obtain ⟨sign, hsign, whole, fraction, exponent, hwhole, hfraction, hexponent, rfl⟩ := hnumber
    refine ⟨by simp [hwhole.1.1], ?_⟩
    simp only [List.forall_mem_append]
    refine ⟨?_, hdigit hwhole.1, ?_, ?_⟩
    · simp only [List.mem_cons, List.not_mem_nil, or_false] at hsign
      rcases hsign with rfl | rfl <;> decide
    · rcases hfraction with rfl | ⟨digits, hdigits, rfl⟩
      · simp
      · exact List.forall_mem_cons.2 ⟨rfl, hdigit hdigits⟩
    · rcases hexponent with rfl | ⟨letter, hletter, sign, hsign, digits, hdigits, rfl⟩
      · simp
      · simp only [List.mem_cons, List.not_mem_nil, or_false] at hletter hsign
        refine List.forall_mem_cons.2 ⟨?_, List.forall_mem_append.2 ⟨?_, hdigit hdigits⟩⟩
        · rcases hletter with rfl | rfl <;> rfl
        · rcases hsign with rfl | rfl | rfl <;> decide

theorem starts_of_scalar? {s : List Char} {j : Json} (h : scalar? s = some j) : Starts s := by
  obtain ⟨hne, hscalar⟩ := isScalarChar_of_scalar? h
  obtain ⟨c, rest, rfl⟩ := List.exists_cons_of_ne_nil hne
  exact starts_of_isScalarChar (hscalar c (List.mem_cons_self ..)) rest

/-- Characters of words and numbers are read to their end, and are a word or a number or not. -/
theorem readValue_of_isScalarChar {s : List Char} (hne : s ≠ [])
    (hscalar : ∀ c ∈ s, isScalarChar c = true) {n : Nat} (hn : s.length ≤ n) {rest : List Char}
    (hrest : Follows rest) : readValue n (s ++ rest) = (scalar? s).map fun j ↦ (j, rest) := by
  obtain ⟨c, s', rfl⟩ := List.exists_cons_of_ne_nil hne
  have hc := hscalar c (List.mem_cons_self ..)
  cases n with
  | zero => simp at hn
  | succ n =>
    have hquote : c ≠ '"' := by rintro rfl; cases hc
    have harray : c ≠ '[' := by rintro rfl; cases hc
    have hobject : c ≠ '\x7b' := by rintro rfl; cases hc
    rw [List.cons_append, readValue, if_neg hquote, if_neg harray, if_neg hobject,
      ← List.cons_append, readScalar, takeWhile_append_of_run hscalar hrest,
      dropWhile_append_of_run hscalar hrest]

theorem readValue_of_scalar? {s : List Char} {j : Json} (h : scalar? s = some j) {n : Nat}
    (hn : s.length ≤ n) {rest : List Char} (hrest : Follows rest) :
    readValue n (s ++ rest) = some (j, rest) := by
  obtain ⟨hne, hscalar⟩ := isScalarChar_of_scalar? h
  rw [readValue_of_isScalarChar hne hscalar hn hrest, h]
  rfl

theorem Starts.append {s : List Char} (h : Starts s) (rest : List Char) : Starts (s ++ rest) := by
  obtain ⟨c, s, rfl, hc⟩ := h
  exact ⟨c, _, rfl, hc⟩

theorem Starts.skip_eq {s : List Char} (h : Starts s) : skip s = s := by
  obtain ⟨c, s, rfl, hc, -⟩ := h
  exact skip_cons hc s

theorem Starts.skip {s before : List Char} (h : Starts s) (hbefore : Blank before) :
    skip (before ++ s) = s := by
  obtain ⟨c, s, rfl, hc, -⟩ := h
  exact skip_blank_append hbefore hc s

theorem Starts.length_pos {s : List Char} (h : Starts s) : 0 < s.length := by
  obtain ⟨c, s, rfl, -⟩ := h
  exact Nat.succ_pos _

/-- Values and elements of brackets start with a character that shows that they are none of the
other things which may stand at their places. -/
theorem Means.starts {p : Part} {s : List Char} {m : p.Meaning} (h : Means p s m) :
    match p with
    | .elements _ => ∃ before t, Blank before ∧ Starts t ∧ s = before ++ t
    | _ => Starts s := by
  induction h with
  | word h => exact starts_of_scalar? (scalar?_eq_some_iff.2 (Or.inl h))
  | number h => exact starts_of_scalar? (scalar?_eq_some_iff.2 (Or.inr ⟨h, rfl⟩))
  | text => exact starts_quote _
  | empty b | bracket b => exact starts_opening b _
  | item _ ih => exact ih
  | entry => exact starts_quote _
  | last hbefore _ _ ih => exact ⟨_, _, hbefore, ih.append _, rfl⟩
  | next hbefore _ _ _ ih => exact ⟨_, _, hbefore, ih.append _, rfl⟩

/-- The part of a text is read with its meaning, whatever follows, if the bounds are not below its
length: a value or an element, up to what does not go on with a word or a number, and elements, up
to the character that closes their bracket. -/
def IsRead : (p : Part) → List Char → p.Meaning → Prop
  | .value, s, j =>
    ∀ n rest, s.length ≤ n → Follows rest → readValue n (s ++ rest) = some (j, rest)
  | .element b, s, e =>
    ∀ n rest, s.length ≤ n → Follows rest →
      readElement (readValue n) b (s ++ rest) = some (e, rest)
  | .elements b, s, es =>
    ∀ n k rest, s.length ≤ n → s.length ≤ k →
      readElements (readElement (readValue n) b) b.closing k (s ++ b.closing :: rest) =
        some (es, rest)

theorem readValue_opening (b : Bracket) (n : Nat) (s : List Char) :
    readValue (n + 1) (b.opening :: s) = readBracket (readValue n) b n s := by
  cases b <;> rfl

theorem not_isScalarChar_closing (b : Bracket) : isScalarChar b.closing = false := by
  cases b <;> rfl

theorem not_isSpace_closing (b : Bracket) : isSpace b.closing = false := by
  cases b <;> rfl

section Elements

variable {α : Type} {read : List Char → Option (α × List Char)} {closing : Char} {n : Nat}
  {s tail rest : List Char} {r : Option α}

/-- What is read of an element with the closing character behind it. -/
theorem readElements_last (hr : read (skip s) = r.map fun e ↦ (e, tail))
    (htail : skip tail = closing :: rest) (hclosing : closing ≠ ',') :
    readElements read closing (n + 1) s = r.map fun e ↦ ([e], rest) := by
  cases r with
  | none => simp only [readElements, hr, Option.map_none, Option.bind_none]
  | some e =>
    simp only [readElements, hr, Option.map_some, Option.bind_some, htail, if_neg hclosing, if_true]

/-- What is read of an element with a comma behind it. -/
theorem readElements_next (hr : read (skip s) = r.map fun e ↦ (e, tail)) {after : List Char}
    (htail : skip tail = ',' :: after) :
    readElements read closing (n + 1) s =
      r.bind fun e ↦ (readElements read closing n after).map fun (es, rest) ↦ (e :: es, rest) := by
  cases r with
  | none => simp only [readElements, hr, Option.map_none, Option.bind_none]
  | some e => simp only [readElements, hr, Option.map_some, Option.bind_some, htail, if_true]

end Elements

/-- What is in the grammar is read. -/
theorem Means.isRead {p : Part} {s : List Char} {m : p.Meaning} (h : Means p s m) :
    IsRead p s m := by
  induction h with
  | word h =>
    intro n rest hn hrest
    exact readValue_of_scalar? (scalar?_eq_some_iff.2 (Or.inl h)) hn hrest
  | number h =>
    intro n rest hn hrest
    exact readValue_of_scalar? (scalar?_eq_some_iff.2 (Or.inr ⟨h, rfl⟩)) hn hrest
  | @text s us h =>
    intro n rest hn _
    cases n with
    | zero => simp at hn
    | succ n =>
      simp only [List.cons_append, List.append_assoc, List.nil_append, readValue, if_true,
        readBody_of_textBody h, Option.map_some]
      rfl
  | @empty b space hspace =>
    intro n rest hn _
    cases n with
    | zero => simp at hn
    | succ n =>
      simp only [List.cons_append, List.append_assoc, List.nil_append, readValue_opening,
        readBracket, skip_blank_append hspace (not_isSpace_closing b), if_true]
      rfl
  | @bracket b s es hs ih =>
    intro n rest hn _
    cases n with
    | zero => simp at hn
    | succ n =>
      have hlength : s.length ≤ n := by
        simp only [List.length_cons, List.length_append] at hn
        omega
      have helements := ih n n rest hlength hlength
      obtain ⟨before, t, hbefore, ht, rfl⟩ := hs.starts
      obtain ⟨c, t', htail, -, hc⟩ := ht.append (b.closing :: rest)
      have hskip : skip (before ++ t ++ b.closing :: rest) = c :: t' := by
        rw [List.append_assoc, (ht.append _).skip hbefore, htail]
      simp only [List.cons_append, List.append_assoc _ [b.closing] rest, List.nil_append,
        readValue_opening, readBracket, hskip, if_neg (hc b), helements]
      rfl
  | item _ ih => exact ih
  | @entry name before after s us j hname hbefore hafter hs ih =>
    intro n rest hn hrest
    have hlength : s.length ≤ n := by
      simp only [List.length_cons, List.length_append] at hn
      omega
    have hcolon : skip (before ++ ':' :: (after ++ (s ++ rest))) = ':' :: (after ++ (s ++ rest)) :=
      skip_blank_append hbefore rfl _
    simp only [readElement, readEntry, List.cons_append, List.append_assoc,
      readBody_of_textBody hname, Option.bind_some, hcolon, (hs.starts.append rest).skip hafter,
      ih n rest hlength hrest]
    rfl
  | @last b before s after e hbefore hafter hs ih =>
    intro n k rest hn hk
    have hpos : 0 < s.length := hs.starts.length_pos
    simp only [List.length_append] at hn hk
    cases k with
    | zero => omega
    | succ k =>
      have helement : readElement (readValue n) b
          (skip (before ++ (s ++ after) ++ b.closing :: rest)) =
            some (e, after ++ b.closing :: rest) := by
        rw [List.append_assoc, List.append_assoc, (hs.starts.append _).skip hbefore]
        exact ih n _ (by omega) (follows_blank_append hafter (not_isScalarChar_closing b) rest)
      exact readElements_last (r := some e) helement
        (skip_blank_append hafter (not_isSpace_closing b) rest)
        (by cases b <;> decide)
  | @next b before s after tail e es hbefore hafter hs _ ih ihtail =>
    intro n k rest hn hk
    simp only [List.length_append, List.length_cons] at hn hk
    cases k with
    | zero => omega
    | succ k =>
      have helement : readElement (readValue n) b
          (skip (before ++ (s ++ (after ++ ',' :: tail)) ++ b.closing :: rest)) =
            some (e, after ++ ',' :: (tail ++ b.closing :: rest)) := by
        simp only [List.append_assoc, List.cons_append, (hs.starts.append _).skip hbefore]
        exact ih n _ (by omega) (follows_blank_append hafter rfl _)
      rw [readElements_next (r := some e) helement (skip_blank_append hafter rfl _),
        ihtail n k rest (by omega) (by omega)]
      rfl

/-! ### Texts -/

/-- **A text is read as a tree exactly if it means the tree.** -/
theorem read?_eq_some_iff {s : List Char} {j : Json} : read? s = some j ↔ Denotes s j := by
  constructor
  · intro h
    obtain ⟨⟨j', rest⟩, hj, hrest⟩ := Option.bind_eq_some_iff.1 h
    obtain ⟨before, hbefore, hs⟩ := exists_blank_append_skip s
    obtain ⟨t, ht, hmeans⟩ := readValue_sound hj
    dsimp only at hrest
    split at hrest
    · next hblank =>
      cases hrest
      exact ⟨before, t, rest, hbefore, List.all_eq_true.1 hblank, hmeans, by rw [← ht, ← hs]⟩
    · cases hrest
  · rintro ⟨before, t, after, hbefore, hafter, hmeans, rfl⟩
    have hfollows : Follows after := by
      cases after with
      | nil => exact nofun
      | cons c after =>
        intro d hd
        have hc : Blank [c] := fun e he ↦
          hafter e (List.mem_singleton.1 he ▸ List.mem_cons_self ..)
        have hcomma : Follows ([c] ++ [',']) := follows_blank_append hc rfl []
        exact hcomma d hd
    have hlength : t.length ≤ (before ++ (t ++ after)).length := by
      simp only [List.length_append]
      omega
    rw [read?, (hmeans.starts.append after).skip hbefore, hmeans.isRead _ after hlength hfollows]
    exact if_pos (List.all_eq_true.2 hafter)

/-- Blanks may stand around tokens, and half of a pair of units may stand alone. -/
example : (read? " [ -0.5e+3 , \"\\ud83d\\/\" ]\n".toList).isSome = true := rfl

/-- A zero may not stand in front of other digits. -/
example : read? "[01]".toList = none := rfl

/-- No text means two trees. -/
theorem Denotes.unique {s : List Char} {j j' : Json} (h : Denotes s j) (h' : Denotes s j') :
    j = j' :=
  Option.some.inj ((read?_eq_some_iff.2 h).symm.trans (read?_eq_some_iff.2 h'))

end FluentSql.Json
