import FluentSql.Proofs.Guard
import Mathlib.Data.List.TakeWhile

/-!
# Keywords

Operators and directions are keywords, which are met up to letter case and blanks at the ends. The
guards take letter case from the mappings of all of Unicode, where letters of other scripts may have
letters of ASCII as their images, and one character may have several. Here it is shown how little of
this can be seen: a text is a keyword exactly if it spells one (`Spells`), that is, if it is the
keyword between blanks, up to the case of letters of ASCII. The one exception is the dotless i,
whose capital is that of `i`.

* Within some letters a mapping of characters to texts is a folding of characters to characters
  (`FoldsWithin`) if at each character both give the same, or neither stays within the letters. Then
  the same texts are taken to words of these letters (`FoldsWithin.flatMap_eq_iff`).
* That the mappings of Unicode fold like those of ASCII within the letters of the keywords is a
  fact about all characters. It is enough to look at these letters and at the characters that the
  folding changes one by one (`foldsWithin_caseImage`): whatever else the tables have leads out of
  the letters, which is seen by going through the tables (`leadsOut`).

Blanks are no part of it: no blank is folded to a letter of a keyword, so what is left when they are
taken off both ends is the word between them (`FoldsWithin.strip_eq_iff`).
-/

namespace FluentSql.Text

/-! ### Blanks at the ends -/

section Trim

variable {p : Char → Bool}

/-- What is taken off a text stands at its ends. -/
theorem exists_append_trim (p : Char → Bool) (s : List Char) :
    ∃ left right, s = left ++ trim p s ++ right ∧ (∀ c ∈ left, p c = true) ∧
      ∀ c ∈ right, p c = true := by
  refine ⟨s.takeWhile p, ((s.dropWhile p).reverse.takeWhile p).reverse, ?_,
    fun c hc ↦ List.all_eq_true.1 List.all_takeWhile c hc,
    fun c hc ↦ List.all_eq_true.1 List.all_takeWhile c (List.mem_reverse.1 hc)⟩
  rw [trim, List.append_assoc, ← List.reverse_append, List.takeWhile_append_dropWhile,
    List.reverse_reverse, List.takeWhile_append_dropWhile]

theorem dropWhile_eq_self {s : List Char} (hs : ∀ c ∈ s, p c = false) : s.dropWhile p = s := by
  cases s with
  | nil => rfl
  | cons c rest => rw [List.dropWhile_cons_of_neg (by simp [hs])]

/-- What stands between the characters of a set is left, if it has none of them. -/
theorem trim_append {left core right : List Char} (hleft : ∀ c ∈ left, p c = true)
    (hcore : ∀ c ∈ core, p c = false) (hright : ∀ c ∈ right, p c = true) :
    trim p (left ++ core ++ right) = core := by
  rw [trim, List.append_assoc, List.dropWhile_append_of_pos hleft]
  cases core with
  | nil =>
    rw [List.nil_append, List.dropWhile_eq_nil_iff.2 hright]
    rfl
  | cons c rest =>
    have hc : ¬ p c = true := by simp [hcore c (List.mem_cons_self ..)]
    rw [List.cons_append, List.dropWhile_cons_of_neg hc, ← List.cons_append, List.reverse_append,
      List.dropWhile_append_of_pos fun d hd ↦ hright d (List.mem_reverse.1 hd),
      dropWhile_eq_self fun d hd ↦ hcore d (List.mem_reverse.1 hd), List.reverse_reverse]

end Trim

/-! ### Folding letters -/

/-- A text spells a word if it is the word between blanks, up to a folding of its characters. -/
def Spells (fold : Char → Char) (s word : String) : Prop :=
  ∃ left core right, s.toList = left ++ core ++ right ∧ (∀ c ∈ left, isBlank c = true) ∧
    (∀ c ∈ right, isBlank c = true) ∧ core.map fold = word.toList

/-- A text that spells a word has blanks, and characters that are folded to those of the word. -/
theorem Spells.blank_or_mem {fold : Char → Char} {s word : String} (h : Spells fold s word)
    {c : Char} (hc : c ∈ s.toList) : isBlank c = true ∨ fold c ∈ word.toList := by
  obtain ⟨left, core, right, hs, hleft, hright, hcore⟩ := h
  rw [hs, List.mem_append, List.mem_append] at hc
  rcases hc with (hc | hc) | hc
  · exact Or.inl (hleft c hc)
  · exact Or.inr (hcore ▸ List.mem_map_of_mem hc)
  · exact Or.inl (hright c hc)

/-- The letters that some words are made of. -/
def lettersOf (words : List String) : List Char :=
  words.flatMap String.toList

theorem mem_lettersOf {words : List String} {word : String} (hword : word ∈ words) {d : Char}
    (hd : d ∈ word.toList) : d ∈ lettersOf words :=
  List.mem_flatMap.2 ⟨word, hword, hd⟩

/-- At a character, an image of several characters and a folding are the same, or neither of them
stays within the letters. -/
def Agrees (letters : List Char) (image : Char → List Char) (fold : Char → Char) (c : Char) :
    Prop :=
  image c = [fold c] ∨ (∃ d ∈ image c, d ∉ letters) ∧ fold c ∉ letters

instance (letters : List Char) (image : Char → List Char) (fold : Char → Char) :
    DecidablePred (Agrees letters image fold) := fun _ ↦
  inferInstanceAs (Decidable (_ ∨ (_ ∧ _)))

/-- Within some letters, images of several characters are a folding of characters. The letters stay
as they are, and no blank is folded to one of them. -/
structure FoldsWithin (letters : List Char) (image : Char → List Char) (fold : Char → Char) :
    Prop where
  agrees : ∀ c, Agrees letters image fold c
  letter : ∀ c ∈ letters, fold c = c
  blank : ∀ c, isBlank c = true → fold c ∉ letters

namespace FoldsWithin

variable {letters : List Char} {image : Char → List Char} {fold : Char → Char}

/-- The same texts are taken to a word of the letters. -/
theorem flatMap_eq_iff (h : FoldsWithin letters image fold) {s word : List Char}
    (hword : ∀ d ∈ word, d ∈ letters) : s.flatMap image = word ↔ s.map fold = word := by
  induction s generalizing word with
  | nil => exact Iff.rfl
  | cons c rest ih =>
    rw [List.flatMap_cons, List.map_cons]
    rcases h.agrees c with hsame | ⟨⟨d, hd, hout⟩, hfold⟩
    · rw [hsame, List.singleton_append]
      cases word with
      | nil => simp
      | cons d word =>
        rw [List.cons.injEq, List.cons.injEq, ih fun e he ↦ hword e (.tail _ he)]
    · -- Both sides have a character that the word has not.
      refine ⟨fun heq ↦ absurd (hword d ?_) hout, fun heq ↦ absurd (hword (fold c) ?_) hfold⟩
      · rw [← heq]
        exact List.mem_append_left _ hd
      · rw [← heq]
        exact List.mem_cons_self ..

/-- A text without its blanks is taken to a word exactly if it spells the word. -/
theorem strip_eq_iff (h : FoldsWithin letters image fold) {s word : String}
    (hword : ∀ d ∈ word.toList, d ∈ letters) :
    String.ofList ((strip s).toList.flatMap image) = word ↔ Spells fold s word := by
  rw [← String.toList_inj, String.toList_ofList, h.flatMap_eq_iff hword, strip,
    String.toList_ofList]
  constructor
  · intro hcore
    obtain ⟨left, right, hs, hleft, hright⟩ := exists_append_trim isBlank s.toList
    exact ⟨left, _, right, hs, hleft, hright, hcore⟩
  · rintro ⟨left, core, right, hs, hleft, hright, hcore⟩
    have hsolid : ∀ c ∈ core, isBlank c = false := by
      intro c hc
      rw [← Bool.not_eq_true]
      exact fun hblank ↦ h.blank c hblank (hword _ (hcore ▸ List.mem_map_of_mem hc))
    rw [hs, trim_append hleft hsolid hright, hcore]

/-- A word of the letters spells itself. -/
theorem spells_self (h : FoldsWithin letters image fold) {word : String}
    (hword : ∀ d ∈ word.toList, d ∈ letters) : Spells fold word word := by
  refine ⟨[], word.toList, [], by simp, by simp, by simp, ?_⟩
  rw [List.map_congr_left fun c hc ↦ h.letter c (hword c hc), List.map_id']

end FoldsWithin

/-! ### Case tables -/

/-- What a case mapping has in its tables leads out of some letters, unless it stands at one of them
or at one of a few other characters. -/
def leadsOut (letters others : List Char) (runs : List Run) (expansions : List (ℕ × List ℕ)) :
    Bool :=
  (expansions.all fun e ↦ e.2.any fun m ↦ !letters.contains (Char.ofNat m)) &&
    runs.all fun r ↦ letters.all fun d ↦
      let source := (d.toNat - r.shift : ℤ).toNat
      !r.covers source || (letters ++ others).contains (Char.ofNat source)

theorem toNat_ofNat_of_ne {n : ℕ} (h : Char.ofNat n ≠ '\x00') : (Char.ofNat n).toNat = n := by
  by_cases hn : n.isValidChar
  · rw [Char.ofNat, dif_pos hn]
    rfl
  · rw [Char.ofNat, dif_neg hn] at h
    exact absurd rfl h

section Tables

variable {letters others : List Char} {runs : List Run} {expansions : List (ℕ × List ℕ)}

/-- A case mapping leads out of the letters at all further characters. -/
theorem exists_not_mem_caseImage (hzero : '\x00' ∉ letters)
    (htables : leadsOut letters others runs expansions = true) {c : Char}
    (hc : c ∉ letters ++ others) : ∃ d ∈ caseImage runs expansions c, d ∉ letters := by
  obtain ⟨hexpansions, hruns⟩ := Bool.and_eq_true_iff.1 htables
  rw [List.all_eq_true] at hexpansions hruns
  unfold caseImage
  split
  · next image hlookup =>
    obtain ⟨before, after, hmem, -⟩ := List.lookup_eq_some_iff.1 hlookup
    obtain ⟨m, hm, hout⟩ := List.any_eq_true.1 (hexpansions (c.toNat, image) (by rw [hmem]; simp))
    exact ⟨Char.ofNat m, List.mem_map_of_mem hm, by simpa using hout⟩
  · split
    · next r hfind =>
      refine ⟨_, List.mem_singleton_self _, fun hin ↦ hc ?_⟩
      have hne : Char.ofNat (c.toNat + r.shift).toNat ≠ '\x00' := fun h ↦ hzero (h ▸ hin)
      have hpos : (c.toNat + r.shift).toNat ≠ 0 := fun h ↦ hne (by rw [h])
      have himage := toNat_ofNat_of_ne hne
      -- The letter gives the character back that it is the image of.
      have hback :
          ((Char.ofNat (c.toNat + r.shift).toNat).toNat - r.shift : ℤ).toNat = c.toNat := by
        omega
      have hcovers : r.covers c.toNat = true := by simpa using List.find?_some hfind
      have hsource := List.all_eq_true.1 (hruns r (List.mem_of_find?_eq_some hfind)) _ hin
      simpa [hback, hcovers] using hsource
    · exact ⟨c, List.mem_singleton_self c, fun hin ↦ hc (List.mem_append_left _ hin)⟩

/-- What a folding takes to one of the letters is one of them, or is changed. -/
theorem mem_of_fold_mem {fold : Char → Char} (hfold : ∀ c, c ∉ others → fold c = c) {c : Char}
    (hc : fold c ∈ letters) : c ∈ letters ++ others := by
  by_cases hother : c ∈ others
  · exact List.mem_append_right _ hother
  · exact List.mem_append_left _ (hfold c hother ▸ hc)

/-- A case mapping folds within the letters like a folding that changes none but a few other
characters, if it does at the letters and at these. -/
theorem foldsWithin_caseImage {fold : Char → Char} (hzero : '\x00' ∉ letters)
    (htables : leadsOut letters others runs expansions = true)
    (hfold : ∀ c, c ∉ others → fold c = c)
    (hletters : letters.all (fun c ↦ fold c = c) = true)
    (hseen : (letters ++ others).all (fun c ↦
      Agrees letters (caseImage runs expansions) fold c ∧
        (isBlank c = true → fold c ∉ letters)) = true) :
    FoldsWithin letters (caseImage runs expansions) fold := by
  have hin : ∀ c ∈ letters ++ others, _ := fun c hc ↦
    of_decide_eq_true (List.all_eq_true.1 hseen c hc)
  have hout : ∀ c, c ∉ letters ++ others → fold c ∉ letters := fun c hc hmem ↦
    hc (mem_of_fold_mem hfold hmem)
  refine ⟨fun c ↦ ?_, fun c hc ↦ ?_, fun c hblank ↦ ?_⟩
  · by_cases hc : c ∈ letters ++ others
    · exact (hin c hc).1
    · exact Or.inr ⟨exists_not_mem_caseImage hzero htables hc, hout c hc⟩
  · exact of_decide_eq_true (List.all_eq_true.1 hletters c hc)
  · by_cases hc : c ∈ letters ++ others
    · exact (hin c hc).2 hblank
    · exact hout c hc

end Tables

/-! ### The letters of keywords -/

/-- The characters from one to another. -/
def charsBetween (first last : Char) : List Char :=
  (List.range' first.toNat (last.toNat + 1 - first.toNat)).map Char.ofNat

theorem mem_charsBetween {first last c : Char} (hfirst : first ≤ c) (hlast : c ≤ last) :
    c ∈ charsBetween first last := by
  have hfirst' : first.toNat ≤ c.toNat := UInt32.le_iff_toNat_le.1 (Char.le_def.1 hfirst)
  have hlast' : c.toNat ≤ last.toNat := UInt32.le_iff_toNat_le.1 (Char.le_def.1 hlast)
  exact List.mem_map.2 ⟨c.toNat, List.mem_range'_1.2 ⟨hfirst', by omega⟩, Char.ofNat_toNat c⟩

/-- The letters of ASCII as capitals, and the dotless i as the capital of `i`. -/
def plainCapital (c : Char) : Char :=
  if c = '\u0131' then 'I' else c.toUpper

/-- The letters of ASCII as small letters. -/
def plainSmall (c : Char) : Char :=
  c.toLower

theorem plainCapital_of_not_mem {c : Char} (hc : c ∉ '\u0131' :: charsBetween 'a' 'z') :
    plainCapital c = c := by
  rw [List.mem_cons, not_or] at hc
  rw [plainCapital, if_neg hc.1]
  exact dif_neg fun h ↦ hc.2 (mem_charsBetween h.1 h.2)

theorem plainSmall_of_not_mem {c : Char} (hc : c ∉ charsBetween 'A' 'Z') : plainSmall c = c := by
  exact dif_neg fun h ↦ hc (mem_charsBetween h.1 h.2)

end FluentSql.Text

namespace FluentSql.Guard

open FluentSql.Text

/-- Within the letters of the operators, capitals are those of ASCII and that of the dotless i. -/
theorem foldsWithin_capital : FoldsWithin (lettersOf allowedOperators) capital plainCapital :=
  foldsWithin_caseImage (by decide +kernel) (by decide +kernel) (fun _ ↦ plainCapital_of_not_mem)
    (by decide +kernel) (by decide +kernel)

/-- Within the letters of the directions, small letters are those of ASCII. -/
theorem foldsWithin_small : FoldsWithin (lettersOf directions) small plainSmall :=
  foldsWithin_caseImage (by decide +kernel) (by decide +kernel) (fun _ ↦ plainSmall_of_not_mem)
    (by decide +kernel) (by decide +kernel)

/-- What is folded to a letter of an operator is a character of ASCII or the dotless i. -/
theorem ascii_or_dotless {c : Char} (hc : plainCapital c ∈ lettersOf allowedOperators) :
    c.toNat < 0x80 ∨ c = '\u0131' := by
  have hall : (lettersOf allowedOperators ++ '\u0131' :: charsBetween 'a' 'z').all
      (fun c ↦ c.toNat < 0x80 ∨ c = '\u0131') = true := by
    decide +kernel
  exact of_decide_eq_true
    (List.all_eq_true.1 hall c (mem_of_fold_mem (fun _ ↦ plainCapital_of_not_mem) hc))

/-- What is folded to a letter of a direction is a character of ASCII. -/
theorem ascii_of_small {c : Char} (hc : plainSmall c ∈ lettersOf directions) : c.toNat < 0x80 := by
  have hall : (lettersOf directions ++ charsBetween 'A' 'Z').all
      (fun c ↦ c.toNat < 0x80) = true := by
    decide +kernel
  exact of_decide_eq_true
    (List.all_eq_true.1 hall c (mem_of_fold_mem (fun _ ↦ plainSmall_of_not_mem) hc))

/-! ### The guards of operators and directions -/

/-- The guard of operators accepts the texts that spell an operator, and returns it. -/
theorem operator_text_eq_ok_iff {s : String} {w : Value} :
    operator (.text s) = .ok w ↔
      ∃ op ∈ allowedOperators, Spells plainCapital s op ∧ w = .text op := by
  rw [operator_eq_ok_iff]
  constructor
  · rintro ⟨s', hs, hop, rfl⟩
    obtain rfl := Value.text.inj hs
    exact ⟨_, hop, (foldsWithin_capital.strip_eq_iff fun _ ↦ mem_lettersOf hop).1 rfl, rfl⟩
  · rintro ⟨op, hop, hspells, rfl⟩
    have hupper : upper (strip s) = op :=
      (foldsWithin_capital.strip_eq_iff fun _ ↦ mem_lettersOf hop).2 hspells
    exact ⟨s, rfl, hupper ▸ hop, by rw [hupper]⟩

/-- The guard of directions accepts the texts that spell a direction, and returns it. -/
theorem direction_text_eq_ok_iff {s : String} {w : Value} :
    direction (.text s) = .ok w ↔ ∃ d ∈ directions, Spells plainSmall s d ∧ w = .text d := by
  rw [direction_eq_ok_iff]
  constructor
  · rintro ⟨hd, rfl⟩
    exact ⟨_, hd, (foldsWithin_small.strip_eq_iff fun _ ↦ mem_lettersOf hd).1 rfl, rfl⟩
  · rintro ⟨d, hd, hspells, rfl⟩
    have hlower : lower (strip s) = d :=
      (foldsWithin_small.strip_eq_iff fun _ ↦ mem_lettersOf hd).2 hspells
    exact ⟨hlower ▸ hd, by rw [← hlower]; rfl⟩

/-- **Keywords are met up to letter case and blanks, and no further.** A text is accepted as an
operator or as a direction exactly if it spells one of the listed words: the word between blanks, up
to the case of the letters of ASCII, where an operator may have a dotless i for an `I`. The word is
returned as the list has it, and is returned as it is when it is given again. Of the characters
beyond ASCII only blanks, and the dotless i in an operator, stand in a text that is accepted. -/
theorem keywords_spelled (s : String) :
    (∀ w, operator (.text s) = .ok w ↔
        ∃ op ∈ allowedOperators, Spells plainCapital s op ∧ w = .text op) ∧
      (∀ w, direction (.text s) = .ok w ↔
        ∃ d ∈ directions, Spells plainSmall s d ∧ w = .text d) ∧
      (∀ w, operator (.text s) = .ok w → operator w = .ok w ∧
        ∀ c ∈ s.toList, isBlank c = true ∨ c.toNat < 0x80 ∨ c = '\u0131') ∧
      ∀ w, direction (.text s) = .ok w → direction w = .ok w ∧
        ∀ c ∈ s.toList, isBlank c = true ∨ c.toNat < 0x80 := by
  refine ⟨fun w ↦ operator_text_eq_ok_iff, fun w ↦ direction_text_eq_ok_iff, fun w hw ↦ ?_,
    fun w hw ↦ ?_⟩
  · obtain ⟨op, hop, hspells, rfl⟩ := operator_text_eq_ok_iff.1 hw
    have hself := foldsWithin_capital.spells_self fun _ ↦ mem_lettersOf hop
    refine ⟨operator_text_eq_ok_iff.2 ⟨op, hop, hself, rfl⟩, fun c hc ↦ ?_⟩
    exact (hspells.blank_or_mem hc).imp_right fun hmem ↦ ascii_or_dotless (mem_lettersOf hop hmem)
  · obtain ⟨d, hd, hspells, rfl⟩ := direction_text_eq_ok_iff.1 hw
    have hself := foldsWithin_small.spells_self fun _ ↦ mem_lettersOf hd
    refine ⟨direction_text_eq_ok_iff.2 ⟨d, hd, hself, rfl⟩, fun c hc ↦ ?_⟩
    exact (hspells.blank_or_mem hc).imp_right fun hmem ↦ ascii_of_small (mem_lettersOf hd hmem)

/-- A dotless i is met, and so is a separator at the end. -/
example : operator (.text " l\u0131ke\x1f") = .ok (.text "LIKE") := by
  rfl

end FluentSql.Guard
