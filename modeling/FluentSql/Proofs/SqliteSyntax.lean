import FluentSql.Proofs.Layout
import FluentSql.Proofs.Projection
import Mathlib.Computability.Language
import Mathlib.Data.List.SplitBy

/-!
# Reads in the syntax of SQLite

Whether the text of a read can be derived in the syntax of SQLite, for which names, conditions,
terms of the order, limits and offsets whatever. The syntax is given without a look at how texts are
written.

* `lexemes` are the words of a text as a database reads them: names, keywords and numbers as far as
  they go, operators as far as they go, every other character by itself, and no blanks.
* `select` is a language of lexemes, put together as the railroad diagrams of a grammar are. Names
  are names whether or not they are reserved. What is restricted is where clauses may stand, and
  there is no offset without a limit.

Written texts come with a list of items (`read_sql_eq_layout`), and no lexeme goes over the end of
an item (`lexemesOf_layout`). So it is enough to derive the lexemes of the items, clause by clause.
A text that has an offset and no limit cannot be derived: before an offset stands a number, and up
to its order a read does not end with one (`ends_orderedSelect`).
-/

namespace FluentSql

open FluentSql.Number Statement
open scoped Computability

namespace Sqlite

/-! ### Lexemes -/

/-- The character can be part of an operator. -/
def isOperatorChar (c : Char) : Bool :=
  ['=', '<', '>', '!'].contains c

/-- Of two characters that follow each other, the second goes on with the lexeme of the first: with
a name, a keyword or a number, or with an operator. -/
def joins (c d : Char) : Bool :=
  (Column.isNamePart c && Column.isNamePart d) || (isOperatorChar c && isOperatorChar d)

/-- The lexemes that some characters are made of, without the blanks between them. -/
def lexemesOf (chars : List Char) : List String :=
  ((chars.splitBy joins).filter fun run ↦ !run.all Char.isWhitespace).map String.ofList

/-- The lexemes of a text. -/
def lexemes (text : String) : List String :=
  lexemesOf text.toList

/-- The character is a lexeme of its own, or a blank. -/
def Standalone (c : Char) : Prop :=
  Column.isNamePart c = false ∧ isOperatorChar c = false

instance (c : Char) : Decidable (Standalone c) :=
  inferInstanceAs (Decidable (_ ∧ _))

theorem Standalone.joins_eq {c : Char} (h : Standalone c) (d : Char) :
    joins c d = false ∧ joins d c = false := by
  simp [joins, h.1, h.2]

theorem lexemesOf_append {l m : List Char}
    (h : ∀ c ∈ l.getLast?, ∀ d ∈ m.head?, joins c d = false) :
    lexemesOf (l ++ m) = lexemesOf l ++ lexemesOf m := by
  rw [lexemesOf, List.splitBy_append h, List.filter_append, List.map_append]
  rfl

/-- Lexemes end before a character of its own, and start again after it. -/
theorem lexemesOf_append_cons {c : Char} (hc : Standalone c) (l m : List Char) :
    lexemesOf (l ++ c :: m) = lexemesOf l ++ (lexemesOf [c] ++ lexemesOf m) := by
  have hbefore : ∀ d ∈ l.getLast?, ∀ e ∈ (c :: m).head?, joins d e = false := by
    rintro d - e he
    obtain rfl : c = e := by simpa using he
    exact (hc.joins_eq d).2
  have hafter : ∀ d ∈ [c].getLast?, ∀ e ∈ m.head?, joins d e = false := by
    rintro d hd e -
    obtain rfl : c = d := by simpa using hd
    exact (hc.joins_eq e).1
  rw [lexemesOf_append hbefore, ← List.singleton_append, lexemesOf_append hafter]

theorem not_isWhitespace_of_isNamePart {c : Char} (h : Column.isNamePart c = true) :
    c.isWhitespace = false := by
  rw [← Bool.not_eq_true]
  intro hblank
  simp only [Char.isWhitespace, Bool.or_eq_true, decide_eq_true_eq] at hblank
  rcases hblank with ((rfl | rfl) | rfl) | rfl <;> exact absurd h (by decide)

/-- Characters that go on with each other are one lexeme. -/
theorem lexemesOf_run {run : List Char} (hne : run ≠ [])
    (hrun : ∀ c ∈ run, Column.isNamePart c = true) : lexemesOf run = [String.ofList run] := by
  have hchain : run.IsChain fun c d ↦ joins c d := by
    refine List.Pairwise.isChain (List.pairwise_of_forall_mem_list fun c hc d hd ↦ ?_)
    simp [joins, hrun c hc, hrun d hd]
  have hblank : run.all Char.isWhitespace = false := by
    obtain ⟨c, rest, rfl⟩ := List.exists_cons_of_ne_nil hne
    simp [not_isWhitespace_of_isNamePart (hrun c (List.mem_cons_self ..))]
  rw [lexemesOf, List.splitBy_of_isChain hne hchain]
  simp [hblank]

end Sqlite

/-- The lexemes of an item. -/
def Item.lexemes : Item → List String
  | word w => Sqlite.lexemes w
  | comma => [","]

namespace Sqlite

theorem lexemesOf_layout (items : List Item) (l : List Char) :
    lexemesOf (l ++ (layout items).toList) = lexemesOf l ++ items.flatMap Item.lexemes := by
  induction items generalizing l with
  | nil => simp [layout]
  | cons item rest ih =>
    cases item with
    | word w =>
      have htext : l ++ (layout (.word w :: rest)).toList =
          l ++ ' ' :: (w.toList ++ (layout rest).toList) := by
        simp [layout, Item.text]
      rw [htext, lexemesOf_append_cons (by decide), ih]
      rfl
    | comma =>
      have htext : l ++ (layout (.comma :: rest)).toList =
          l ++ ',' :: ([] ++ (layout rest).toList) := by
        simp [layout, Item.text]
      rw [htext, lexemesOf_append_cons (by decide), ih]
      rfl

/-! ### The grammar -/

/-- One lexeme of a kind. -/
def lexeme (P : String → Prop) : Language String :=
  {ts | ∃ s, P s ∧ ts = [s]}

/-- One lexeme of a given text. -/
def token (s : String) : Language String :=
  lexeme (· = s)

/-- Perhaps something. -/
def optional (L : Language String) : Language String :=
  1 + L

/-- Something once or several times, with a separator in between. -/
def separated (sep : String) (L : Language String) : Language String :=
  L * (token sep * L)∗

/-- The text is a name. -/
def IsName (s : String) : Prop :=
  Column.isName s.toList = true

instance (s : String) : Decidable (IsName s) :=
  inferInstanceAs (Decidable (_ = true))

/-- The text is a number in decimal digits. -/
def IsNumber (s : String) : Prop :=
  s ≠ "" ∧ s.toList.all Char.isDigit = true

instance (s : String) : Decidable (IsNumber s) :=
  inferInstanceAs (Decidable (_ ∧ _))

/-- The operators that compare two values. -/
def operators : List String :=
  ["=", "!=", "<>", "<", "<=", ">", ">=", "LIKE"]

/-- A column, perhaps with a qualifier. -/
def column : Language String :=
  optional (lexeme IsName * token ".") * lexeme IsName

/-- What a read gives back for each row: a column, or all of them. -/
def resultColumn : Language String :=
  lexeme IsName + token "*"

/-- A read of one column of a function of a mark. -/
def members : Language String :=
  token "(" * token "SELECT" * lexeme IsName * token "FROM" * lexeme IsName * token "(" *
    token "?" * token ")" * token ")"

/-- A condition: a comparison with a mark, or a test for membership. -/
def predicate : Language String :=
  column * (lexeme (· ∈ operators) * token "?" + token "IN" * members)

/-- A term of the order. -/
def orderTerm : Language String :=
  column * (token "ASC" + token "DESC")

/-- What is read, and from where. -/
def selectFrom : Language String :=
  token "SELECT" * optional (token "DISTINCT") * separated "," resultColumn * token "FROM" *
    lexeme IsName

/-- A read up to its order. -/
def orderedSelect : Language String :=
  selectFrom * optional (token "WHERE" * separated "AND" predicate) *
    optional (token "ORDER" * token "BY" * separated "," orderTerm)

/-- A read. There is no offset without a limit. -/
def select : Language String :=
  orderedSelect * optional (token "LIMIT" * lexeme IsNumber *
    optional (token "OFFSET" * lexeme IsNumber))

/-- The text is a read in the syntax of SQLite. -/
def IsSelect (text : String) : Prop :=
  lexemes text ∈ select

/-! ### Deriving -/

theorem mem_lexeme {P : String → Prop} {s : String} (h : P s) : [s] ∈ lexeme P :=
  ⟨s, h, rfl⟩

theorem mem_token (s : String) : [s] ∈ token s :=
  mem_lexeme rfl

theorem cons_mem_lexeme_mul {P : String → Prop} {s : String} (h : P s) {L : Language String}
    {ts : List String} (hts : ts ∈ L) : s :: ts ∈ lexeme P * L :=
  Language.append_mem_mul (mem_lexeme h) hts

theorem cons_mem_token_mul {s : String} {L : Language String} {ts : List String} (hts : ts ∈ L) :
    s :: ts ∈ token s * L :=
  Language.append_mem_mul (mem_token s) hts

theorem nil_mem_optional (L : Language String) : [] ∈ optional L :=
  Or.inl rfl

theorem mem_optional {L : Language String} {ts : List String} (h : ts ∈ L) : ts ∈ optional L :=
  Or.inr h

theorem mem_separated {sep : String} {L : Language String} {ts : List String} (h : ts ∈ L) :
    ts ∈ separated sep L := by
  rw [← List.append_nil ts]
  exact Language.append_mem_mul h (Language.nil_mem_kstar _)

theorem append_mem_separated {sep : String} {L : Language String} {ts us : List String}
    (h : ts ∈ L) (h' : us ∈ separated sep L) : ts ++ [sep] ++ us ∈ separated sep L := by
  obtain ⟨first, hfirst, rest, hrest, rfl⟩ := Language.mem_mul.1 h'
  have hmore : [sep] ++ first ++ rest ∈ (token sep * L)∗ := by
    rw [← Language.one_add_self_mul_kstar_eq_kstar (token sep * L)]
    exact Or.inr (Language.append_mem_mul (Language.append_mem_mul (mem_token sep) hfirst) hrest)
  simpa only [separated, List.append_assoc] using Language.append_mem_mul h hmore

/-- The lexemes of some items. -/
abbrev lexemesIn (items : List Item) : List String :=
  items.flatMap Item.lexemes

/-- Pieces in a language, with separators between them. -/
theorem intercalate_mem_separated {sep : Item} {word : String} (hsep : sep.lexemes = [word])
    {L : Language String} {pieces : List (List Item)} (hne : pieces ≠ [])
    (h : ∀ p ∈ pieces, lexemesIn p ∈ L) :
    lexemesIn ([sep].intercalate pieces) ∈ separated word L := by
  induction pieces with
  | nil => exact absurd rfl hne
  | cons p rest ih =>
    obtain ⟨hp, hrest⟩ := List.forall_mem_cons.1 h
    cases rest with
    | nil => simpa using mem_separated hp
    | cons q rest =>
      rw [List.intercalate_cons_cons, lexemesIn, List.flatMap_append, List.flatMap_append,
        List.flatMap_singleton, hsep]
      exact append_mem_separated hp (ih (by simp) hrest)

/-- A clause, if there are pieces for it. -/
theorem clauseItems_mem_optional {opening : List Item} {sep : Item} {word : String}
    (hsep : sep.lexemes = [word]) {O L : Language String} (hopening : lexemesIn opening ∈ O)
    {pieces : List (List Item)} (h : ∀ p ∈ pieces, lexemesIn p ∈ L) :
    lexemesIn (clauseItems opening sep pieces) ∈ optional (O * separated word L) := by
  unfold clauseItems
  split
  · exact nil_mem_optional _
  · next hne =>
    rw [lexemesIn, List.flatMap_append]
    exact mem_optional (Language.append_mem_mul hopening (intercalate_mem_separated hsep hne h))

/-! ### Words -/

theorem lexemes_of_isName {s : String} (h : IsName s) : lexemes s = [s] := by
  have hne : s.toList ≠ [] := by
    intro hnil
    rw [IsName, hnil] at h
    cases h
  rw [lexemes, lexemesOf_run hne fun c hc ↦ Column.isNamePart_of_mem h hc, String.ofList_toList]

theorem isNumber_repr (n : ℕ) : IsNumber n.repr :=
  ⟨Nat.repr_ne_empty, List.all_eq_true.2 fun _ ↦ isDigit_of_mem_repr⟩

theorem lexemes_repr (n : ℕ) : lexemes n.repr = [n.repr] := by
  have hne : n.repr.toList ≠ [] := fun hnil ↦
    Nat.repr_ne_empty (String.toList_eq_nil_iff.1 hnil)
  have hrun : ∀ c ∈ n.repr.toList, Column.isNamePart c = true := fun c hc ↦ by
    simp [Column.isNamePart, Char.isAlphanum, isDigit_of_mem_repr hc]
  rw [lexemes, lexemesOf_run hne hrun, String.ofList_toList]

/-- The newline that may stand at the end of a column is a blank. -/
theorem lexemesOf_dropFinalNewline (chars : List Char) :
    lexemesOf (Column.dropFinalNewline chars) = lexemesOf chars := by
  unfold Column.dropFinalNewline
  split
  · next hlast =>
    have hne : chars ≠ [] := by rintro rfl; simp at hlast
    have hget : chars.getLast hne = '\n' := by
      simpa [List.getLast?_eq_some_getLast hne] using hlast
    conv_rhs => rw [← List.dropLast_concat_getLast hne, hget]
    rw [lexemesOf_append_cons (by decide)]
    exact (List.append_nil _).symm
  · rfl

theorem lexemes_mem_column {s : String} (h : Column.isColumn s.toList = true) :
    lexemes s ∈ column := by
  have hname : ∀ l : List Char, Column.isName l = true → lexemesOf l ∈ lexeme IsName := by
    intro l hl
    have hof : IsName (String.ofList l) := by rwa [IsName, String.toList_ofList]
    have hlex : lexemesOf l = [String.ofList l] := by
      have := lexemes_of_isName hof
      rwa [lexemes, String.toList_ofList] at this
    rw [hlex]
    exact mem_lexeme hof
  rw [lexemes, ← lexemesOf_dropFinalNewline]
  unfold Column.isColumn at h
  dsimp only at h
  generalize Column.dropFinalNewline s.toList = body at h
  split at h
  · rw [← List.nil_append (lexemesOf body)]
    exact Language.append_mem_mul (nil_mem_optional _) (hname body h)
  · next point name hdrop =>
    obtain ⟨hqualifier, hlast⟩ := Bool.and_eq_true _ _ |>.mp h
    have hpoint : point = '.' := by
      have := List.head?_dropWhile_not (p := (· != '.')) (l := body)
      rw [hdrop] at this
      simpa using this
    have hpoint' : lexemesOf ['.'] = ["."] := by decide
    rw [← List.takeWhile_append_dropWhile (p := (· != '.')) (l := body), hdrop, hpoint,
      lexemesOf_append_cons (by decide), hpoint', ← List.append_assoc]
    exact Language.append_mem_mul (mem_optional (Language.append_mem_mul (hname _ hqualifier)
      (mem_token "."))) (hname _ hlast)

/-! ### Clauses -/

variable {model : Option RowModel}

theorem column_mem {v : Value} (h : IsColumnOf model v) : lexemes v.display ∈ column := by
  obtain ⟨s, rfl, hs, -⟩ := h
  exact lexemes_mem_column hs

/-- A test of membership reads the members from the array that is bound. -/
theorem membersItems_mem :
    ["(", "SELECT", "value", "FROM", "json_each", "(", "?", ")", ")"] ∈ members := by
  rw [members]
  simp only [mul_assoc]
  have hvalue : IsName "value" := by decide
  have hfunction : IsName "json_each" := by decide
  exact cons_mem_token_mul (cons_mem_token_mul (cons_mem_lexeme_mul hvalue (cons_mem_token_mul
    (cons_mem_lexeme_mul hfunction (cons_mem_token_mul (cons_mem_token_mul (cons_mem_token_mul
      (mem_token ")"))))))))

/-- A condition of a sound filter: each allowed operator is written as one of SQLite, or as the test
for membership. -/
theorem conditionItems_mem {f : Filter} (hf : f.Sound model) (n : ℕ) :
    lexemesIn (Backend.sqlite.conditionItems n (Backend.sqlite.condition f)) ∈ predicate := by
  obtain ⟨word, hword, hoperator⟩ := hf.operator
  have hwords : ∀ w ∈ Guard.allowedOperators,
      (Backend.sqlite.spelling (.text w)).display = "IN" ∨
        (Backend.sqlite.spelling (.text w)).display ∈ operators := by decide
  have hspelled := hwords word hword
  rw [Backend.conditionItems, Backend.condition, hoperator, lexemesIn, List.flatMap_cons]
  generalize (Backend.sqlite.spelling (.text word)).display = spelled at hspelled
  refine Language.append_mem_mul (column_mem hf.column) ?_
  rcases hspelled with rfl | hspelled
  · have htest : (Backend.sqlite.testItems "IN" (Backend.sqlite.mark n)).flatMap Item.lexemes =
        "IN" :: ["(", "SELECT", "value", "FROM", "json_each", "(", "?", ")", ")"] := by
      show lexemesIn [.word "IN", .word "(SELECT", .word "value", .word "FROM",
        .word "json_each(?))"] = _
      decide
    rw [htest]
    exact Or.inr (cons_mem_token_mul membersItems_mem)
  · have hne : spelled ≠ "IN" := by rintro rfl; exact absurd hspelled (by decide)
    have hlexemes : lexemes spelled = [spelled] :=
      (by decide : ∀ w ∈ operators, lexemes w = [w]) spelled hspelled
    have htest : (Backend.sqlite.testItems spelled (Backend.sqlite.mark n)).flatMap Item.lexemes =
        [spelled, "?"] := by
      rw [Backend.testItems_of_ne _ hne]
      show lexemes spelled ++ (lexemes "?" ++ []) = _
      rw [hlexemes]
      rfl
    rw [htest]
    exact Or.inl (cons_mem_lexeme_mul hspelled (mem_token "?"))

theorem whereItems_mem {filters : List Filter} (h : ∀ f ∈ filters, f.Sound model) :
    lexemesIn (Backend.sqlite.whereItems (filters.map Backend.sqlite.condition)) ∈
      optional (token "WHERE" * separated "AND" predicate) := by
  have hopening : lexemesIn [.word "WHERE"] = ["WHERE"] := by decide
  refine clauseItems_mem_optional (by decide) (hopening ▸ mem_token "WHERE") ?_
  rw [mapIdx_map]
  exact forall_mem_mapIdx fun i f hf ↦ conditionItems_mem (h f hf) (i + 1)

theorem sortItems_mem {t : SortTerm} (ht : t.Sound model) :
    lexemesIn (sortItems t) ∈ orderTerm := by
  have hdirection : lexemes (Text.upper t.direction.display) ∈ token "ASC" + token "DESC" := by
    rcases ht.direction with h | h <;> rw [h]
    · exact Or.inl (mem_token "ASC")
    · exact Or.inr (mem_token "DESC")
  rw [lexemesIn, sortItems, List.flatMap_cons, List.flatMap_singleton]
  exact Language.append_mem_mul (column_mem ht.column) hdirection

theorem orderItems_mem {orders : List SortTerm} (h : ∀ t ∈ orders, t.Sound model) :
    lexemesIn (orderItems orders) ∈
      optional (token "ORDER" * token "BY" * separated "," orderTerm) := by
  have hopening : lexemesIn [.word "ORDER", .word "BY"] = ["ORDER"] ++ ["BY"] := by decide
  refine clauseItems_mem_optional (by decide)
    (hopening ▸ Language.append_mem_mul (mem_token "ORDER") (mem_token "BY")) ?_
  intro p hp
  obtain ⟨t, ht, rfl⟩ := List.mem_map.1 hp
  exact sortItems_mem (h t ht)

/-- A column of the projection: a name, or the star. -/
def IsResultColumn (v : Value) : Prop :=
  ∃ word : String, v = .text word ∧ (IsName word ∨ word = "*")

theorem columnItems_mem {words : List String} (hne : words ≠ [])
    (h : ∀ w ∈ words, IsName w ∨ w = "*") :
    lexemesIn (columnItems (words.map .text)) ∈ separated "," resultColumn := by
  refine intercalate_mem_separated (by decide) (by simpa using hne) ?_
  intro p hp
  obtain ⟨v, hv, rfl⟩ := List.mem_map.1 hp
  obtain ⟨w, hw, rfl⟩ := List.mem_map.1 hv
  rw [lexemesIn, List.flatMap_singleton]
  show lexemes w ∈ resultColumn
  rcases h w hw with hname | rfl
  · exact Or.inl (lexemes_of_isName hname ▸ mem_lexeme hname)
  · exact Or.inr (mem_token "*")

theorem selectItems_mem (distinct : Bool) {words : List String} (hne : words ≠ [])
    (hwords : ∀ w ∈ words, IsName w ∨ w = "*") {table : String} (htable : IsName table) :
    ["SELECT"] ++ lexemesIn (selectItems distinct (words.map .text) (.text table)) ∈
      selectFrom := by
  have hdistinct : lexemesIn (if distinct then [.word "DISTINCT"] else []) ∈
      optional (token "DISTINCT") := by
    cases distinct
    · exact nil_mem_optional _
    · exact mem_optional (mem_token "DISTINCT")
  have hfrom : lexemesIn [.word "FROM", .word (Value.text table).display] =
      ["FROM"] ++ [table] := by
    show lexemes "FROM" ++ (lexemes table ++ []) = _
    rw [lexemes_of_isName htable]
    rfl
  rw [selectItems, lexemesIn, List.flatMap_append, List.flatMap_append, ← lexemesIn, ← lexemesIn,
    ← lexemesIn, hfrom]
  simp only [← List.append_assoc]
  exact Language.append_mem_mul (Language.append_mem_mul (Language.append_mem_mul
    (Language.append_mem_mul (mem_token "SELECT") hdistinct) (columnItems_mem hne hwords))
      (mem_token "FROM")) (mem_lexeme htable)

/-! ### What a read ends with -/

/-- All words of the language end with a lexeme that has the property. -/
def Ends (P : String → Prop) (L : Language String) : Prop :=
  ∀ ts ∈ L, ∃ front last, ts = front ++ [last] ∧ P last

namespace Ends

variable {P : String → Prop} {L M : Language String}

theorem lexeme {Q : String → Prop} (h : ∀ s, Q s → P s) : Ends P (Sqlite.lexeme Q) := by
  rintro _ ⟨s, hs, rfl⟩
  exact ⟨[], s, rfl, h s hs⟩

theorem token {s : String} (h : P s) : Ends P (Sqlite.token s) :=
  lexeme fun _ hs ↦ hs ▸ h

theorem add (hL : Ends P L) (hM : Ends P M) : Ends P (L + M) := by
  rintro ts (h | h)
  · exact hL ts h
  · exact hM ts h

theorem mul (L : Language String) (hM : Ends P M) : Ends P (L * M) := by
  intro ts hts
  obtain ⟨us, -, vs, hvs, rfl⟩ := Language.mem_mul.1 hts
  obtain ⟨front, last, rfl, hlast⟩ := hM vs hvs
  exact ⟨us ++ front, last, (List.append_assoc ..).symm, hlast⟩

theorem mul_optional (hL : Ends P L) (hM : Ends P M) : Ends P (L * optional M) := by
  rw [optional, mul_add, mul_one]
  exact hL.add (hM.mul L)

theorem separated (sep : String) (hL : Ends P L) : Ends P (Sqlite.separated sep L) := by
  rw [Sqlite.separated, ← Language.one_add_kstar_mul_self_eq_kstar]
  exact hL.mul_optional ((hL.mul _).mul _)

end Ends

theorem not_isNameStart_of_isDigit {c : Char} (h : c.isDigit = true) :
    Column.isNameStart c = false := by
  rw [← Bool.not_eq_true, Column.isNameStart, Bool.or_eq_true, beq_iff_eq]
  have hdigit : c.toNat ≤ 57 :=
    UInt32.le_iff_toNat_le.1 (of_decide_eq_true (Bool.and_eq_true_iff.1 h).2)
  rintro (halpha | rfl)
  · rcases Bool.or_eq_true_iff.1 halpha with hupper | hlower
    · have hletter : 65 ≤ c.toNat := UInt32.le_iff_toNat_le.1 (of_decide_eq_true hupper).1
      omega
    · have hletter : 97 ≤ c.toNat :=
        UInt32.le_iff_toNat_le.1 (of_decide_eq_true (Bool.and_eq_true_iff.1 hlower).1)
      omega
  · cases h

theorem not_isNumber_of_isName {s : String} (h : IsName s) : ¬ IsNumber s := by
  rintro ⟨-, hdigits⟩
  rw [IsName] at h
  cases hchars : s.toList with
  | nil => rw [hchars] at h; cases h
  | cons c rest =>
    rw [hchars] at h hdigits
    have hstart : Column.isNameStart c = true := (Bool.and_eq_true _ _ |>.mp h).1
    have hdigit : c.isDigit = true := (Bool.and_eq_true _ _ |>.mp hdigits).1
    rw [not_isNameStart_of_isDigit hdigit] at hstart
    cases hstart

/-- Up to its order a read never ends with a number. -/
theorem ends_orderedSelect : Ends (¬ IsNumber ·) orderedSelect := by
  have hmembers : Ends (¬ IsNumber ·) members := Ends.mul _ (Ends.token (by decide))
  have hpredicate : Ends (¬ IsNumber ·) predicate :=
    Ends.mul _ ((Ends.mul _ (Ends.token (by decide))).add (Ends.mul _ hmembers))
  have horder : Ends (¬ IsNumber ·) orderTerm :=
    Ends.mul _ ((Ends.token (by decide)).add (Ends.token (by decide)))
  have hfrom : Ends (¬ IsNumber ·) (lexeme IsName) := Ends.lexeme fun _ ↦ not_isNumber_of_isName
  exact ((Ends.mul _ hfrom).mul_optional (Ends.mul _ (hpredicate.separated _))).mul_optional
    (Ends.mul _ (horder.separated _))

/-- After the order, an offset has no place without a limit. -/
theorem offset_not_mem {ts : List String} (hts : ts ∈ orderedSelect) {n : String}
    (hn : IsNumber n) : ts ++ ["OFFSET", n] ∉ select := by
  intro h
  obtain ⟨front, hfront, bounds, hbounds, heq⟩ := Language.mem_mul.1 h
  rcases hbounds with rfl | hbounds
  · -- Without any bounds, the number would be the end of the order.
    obtain ⟨rest, last, rfl, hlast⟩ := ends_orderedSelect _ hfront
    have hends : last = n := by simpa using congrArg List.getLast? heq
    exact hlast (hends ▸ hn)
  · obtain ⟨_, ⟨_, ⟨_, rfl, rfl⟩, _, ⟨k, hk, rfl⟩, rfl⟩, offset, hoffset, rfl⟩ := hbounds
    rcases hoffset with rfl | ⟨_, ⟨_, rfl, rfl⟩, _, ⟨m, -, rfl⟩, rfl⟩
    · -- With a limit only, its keyword would be that of the offset.
      have hbounds := (List.append_inj' heq rfl).2
      simp at hbounds
    · -- With both, the number of the limit would be the end of the order.
      have hsplit : front ++ ["LIMIT", k] ++ ["OFFSET", m] = ts ++ ["OFFSET", n] := by
        simpa using heq
      obtain ⟨rest, last, rfl, hlast⟩ := ends_orderedSelect _ hts
      have hends : k = last := by
        simpa using congrArg List.getLast? (List.append_inj' hsplit rfl).1
      exact hlast (hends ▸ hk)

/-! ### The text of a read -/

theorem lexemes_read {q : Query} (hq : q.Sound Backend.sqlite.dialect model) {columns : List Value}
    (hcolumns : q.columns = .list columns) {s : Statement}
    (h : Statement.read Backend.sqlite.dialect q = .ok s) :
    lexemes s.sql = ["SELECT"] ++ lexemesIn (Backend.sqlite.readItems q) := by
  have hselect : lexemesOf "SELECT".toList = ["SELECT"] := by decide
  rw [Backend.sqlite.read_sql_eq_layout hq hcolumns h, lexemes, String.toList_append,
    lexemesOf_layout, hselect]

/-- What the text of a read has up to its bounds. -/
theorem front_mem {q : Query} (hq : q.Sound Backend.sqlite.dialect model) {words : List String}
    (hwords : ∀ w ∈ words, IsName w ∨ w = "*") (hcolumns : q.columns = .list (words.map .text))
    {table : String} (htable : q.table = .text table) (hname : IsName table) :
    ["SELECT"] ++ lexemesIn (selectItems q.distinct.truthy q.projection q.table) ++
        lexemesIn (Backend.sqlite.whereItems (q.filters.map Backend.sqlite.condition)) ++
          lexemesIn (orderItems q.orders) ∈ orderedSelect := by
  rw [Query.projection_of_texts hcolumns, htable]
  refine Language.append_mem_mul (Language.append_mem_mul (selectItems_mem _ ?_ ?_ hname)
    (whereItems_mem hq.filters)) (orderItems_mem hq.orders)
  · cases words <;> simp
  · split
    · simp
    · exact hwords

/-- Limit and offset have their places after the order, the offset only if there is a limit. -/
theorem append_bounds_mem_iff {ts : List String} (hts : ts ∈ orderedSelect) {limit offset : Value}
    (hlimit : IsPagination limit) (hoffset : IsPagination offset) :
    ts ++ lexemesIn (boundItems "LIMIT" limit ++ boundItems "OFFSET" offset) ∈ select ↔
      offset = .null ∨ limit ≠ .null := by
  have hbound : ∀ keyword, lexemes keyword = [keyword] → ∀ n : ℕ,
      lexemesIn (boundItems keyword (.int n)) = [keyword] ++ [n.repr] := by
    intro keyword hkeyword n
    show lexemes keyword ++ (lexemes n.repr ++ []) = _
    rw [hkeyword, lexemes_repr, List.append_nil]
  have hLIMIT := hbound "LIMIT" (by decide)
  have hOFFSET := hbound "OFFSET" (by decide)
  have hnull : ∀ keyword, lexemesIn (boundItems keyword .null) = [] := fun _ ↦ rfl
  rw [lexemesIn, List.flatMap_append, ← lexemesIn, ← lexemesIn]
  rcases hlimit with rfl | ⟨_, hn, rfl⟩ <;> rcases hoffset with rfl | ⟨_, hm, rfl⟩
  · rw [hnull, hnull]
    exact iff_of_true (Language.append_mem_mul hts (nil_mem_optional _)) (Or.inl rfl)
  · obtain ⟨m, rfl⟩ := Int.eq_ofNat_of_zero_le hm
    rw [hnull, hOFFSET]
    exact iff_of_false (offset_not_mem hts (isNumber_repr m)) (by simp)
  · obtain ⟨n, rfl⟩ := Int.eq_ofNat_of_zero_le hn
    rw [hLIMIT, hnull]
    exact iff_of_true (Language.append_mem_mul hts (mem_optional (Language.append_mem_mul
      (Language.append_mem_mul (mem_token _) (mem_lexeme (isNumber_repr n)))
        (nil_mem_optional _)))) (Or.inl rfl)
  · obtain ⟨n, rfl⟩ := Int.eq_ofNat_of_zero_le hn
    obtain ⟨m, rfl⟩ := Int.eq_ofNat_of_zero_le hm
    rw [hLIMIT, hOFFSET]
    exact iff_of_true (Language.append_mem_mul hts (mem_optional (Language.append_mem_mul
      (Language.append_mem_mul (mem_token _) (mem_lexeme (isNumber_repr n)))
        (mem_optional (Language.append_mem_mul (mem_token _) (mem_lexeme (isNumber_repr m)))))))
      (Or.inr nofun)

/-- A query that reads names or the star has their texts for its columns. -/
theorem exists_words {q : Query} (h : q.Projects IsResultColumn) :
    ∃ words : List String, q.columns = .list (words.map .text) ∧
      ∀ w ∈ words, IsName w ∨ w = "*" := by
  obtain ⟨columns, hcolumns, hall⟩ := h.columns
  obtain ⟨words, rfl, hwords⟩ := exists_texts hall
  exact ⟨words, hcolumns, hwords⟩

/-- The text of a read is one of SQLite unless it has an offset and no limit. -/
theorem isSelect_read_iff {q : Query} (hq : q.Sound Backend.sqlite.dialect model)
    {words : List String} (hwords : ∀ w ∈ words, IsName w ∨ w = "*")
    (hcolumns : q.columns = .list (words.map .text)) {table : String}
    (htable : q.table = .text table) (hname : IsName table) {s : Statement}
    (h : Statement.read Backend.sqlite.dialect q = .ok s) :
    IsSelect s.sql ↔ q.offset = .null ∨ q.limit ≠ .null := by
  have hfront := front_mem hq hwords hcolumns htable hname
  have hlexemes := lexemes_read hq hcolumns h
  rw [Backend.readItems, Backend.tailItems, ← List.append_assoc, ← List.append_assoc,
    lexemesIn, List.flatMap_append, List.flatMap_append, List.flatMap_append] at hlexemes
  rw [IsSelect, hlexemes, ← append_bounds_mem_iff hfront hq.limit hq.offset]
  simp only [List.append_assoc]

end Sqlite

namespace Builder

/-- **Reads are in the syntax of SQLite exactly if they have no offset without a limit.** After any
run of calls on a builder of SQLite whose table is a name, and of which the calls select nothing but
names and the star, reading all rows sends one text; and the text can be derived in the grammar
unless the query has an offset and no limit. -/
theorem isSelect_get_iff {σ : Type} (execute : Executor σ) (s : σ) (model : Option RowModel)
    {table : String} (htable : Sqlite.IsName table) {calls : List Call}
    (hcalls : ∀ call ∈ calls, call.Selects Sqlite.IsResultColumn) :
    let before := (fresh .sqlite model (.text table)).performAll execute s calls
    let q := before.builder.query
    ∃ r, (before.builder.perform execute (.terminal .get) before.state).sent = [r] ∧
      (Sqlite.IsSelect r.sql ↔ q.offset = .null ∨ q.limit ≠ .null) := by
  intro before q
  have hbuilder : before.builder = calls.foldl after (fresh .sqlite model (.text table)) :=
    performAll_builder execute calls _ s
  have hsound : q.Sound Backend.sqlite.dialect model := by
    show before.builder.query.Sound Dialect.sqlite model
    rw [hbuilder]
    exact sound_of_fresh .sqlite model (.text table) calls
  have hprojects : q.Projects Sqlite.IsResultColumn := by
    show before.builder.query.Projects _
    rw [hbuilder]
    exact projects_of_fresh ⟨"*", rfl, Or.inr rfl⟩ .sqlite model (.text table) hcalls
  have hname : q.table = .text table := by
    show before.builder.query.table = _
    rw [hbuilder, foldl_after_table]
    rfl
  obtain ⟨words, hcolumns, hwords⟩ := Sqlite.exists_words hprojects
  obtain ⟨text, htext⟩ := hsound.exists_read hcolumns
  have htruthy : q.table.truthy = true := by
    have hne : table ≠ "" := by rintro rfl; exact absurd htable (by decide)
    simpa [hname, Value.truthy] using hne
  have hdialect : before.builder.dialect = .sqlite := by
    rw [hbuilder, foldl_after_dialect]
    rfl
  have hrequest : before.builder.request .get = .ok ⟨text.sql, text.values⟩ := by
    rw [request, hdialect]
    exact Query.request_eq_ok_iff.2 ⟨htruthy, .get htext⟩
  refine ⟨⟨text.sql, text.values⟩, ?_,
    Sqlite.isSelect_read_iff hsound hwords hcolumns hname htable htext⟩
  show (before.builder.run execute .get before.state).sent = _
  rw [run_eq, hrequest]

/-- With a limit, an offset is written where SQLite has it. -/
theorem isSelect_get_of_limit :
    let before := (fresh .sqlite none (.text "users")).performAll (fun _ s ↦ (.ok (.list []), s)) ()
      [.fluent (.limit (.int 2)), .fluent (.offset (.int 5))]
    ∃ r, (before.builder.perform (fun _ s ↦ (.ok (.list []), s)) (.terminal .get)
      before.state).sent = [r] ∧ Sqlite.IsSelect r.sql := by
  intro before
  have hcalls : ∀ call ∈ [Call.fluent (.limit (.int 2)), .fluent (.offset (.int 5))],
      call.Selects Sqlite.IsResultColumn := by
    intro call hcall
    simp only [List.mem_cons, List.not_mem_nil, or_false] at hcall
    rcases hcall with rfl | rfl <;> trivial
  obtain ⟨r, hsent, hselect⟩ := isSelect_get_iff (fun _ s ↦ (.ok (.list []), s)) () none
    (by decide : Sqlite.IsName "users") hcalls
  exact ⟨r, hsent, hselect.2 (Or.inr nofun)⟩

/-- Without a limit, an offset is written where SQLite has none. -/
theorem offset_sent_not_isSelect :
    let before := (fresh .sqlite none (.text "users")).performAll (fun _ s ↦ (.ok (.list []), s)) ()
      [.fluent (.offset (.int 5))]
    (before.builder.perform (fun _ s ↦ (.ok (.list []), s)) (.terminal .get) before.state).sent =
        [{ sql := "SELECT * FROM users OFFSET 5", params := [] }] ∧
      ¬ Sqlite.IsSelect "SELECT * FROM users OFFSET 5" := by
  refine ⟨rfl, ?_⟩
  have hlexemes : Sqlite.lexemes "SELECT * FROM users OFFSET 5" =
      ["SELECT", "*", "FROM", "users"] ++ ["OFFSET", "5"] := by decide
  rw [Sqlite.IsSelect, hlexemes]
  have hsound : Query.Sound Backend.sqlite.dialect none { table := .text "users" } :=
    Query.Sound.of_table _
  have hwords : ∀ w ∈ ["*"], Sqlite.IsName w ∨ w = "*" := by decide
  have hfront := Sqlite.front_mem hsound hwords rfl rfl (by decide : Sqlite.IsName "users")
  exact Sqlite.offset_not_mem hfront (by decide)

end Builder

end FluentSql
