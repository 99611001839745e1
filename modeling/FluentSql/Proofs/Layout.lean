import FluentSql.Proofs.Clauses

/-!
# The layout of a read

The text of a read as a list of items: words, each with a space before it, and commas. The items are
the list-level shadow of the text. Clauses become concatenations of lists, and a question about the
text is asked of the items instead.

* `layout` writes items, and `layout_injective` finds them again in the text. It rests on nothing
  but that there are no spaces and no commas inside words.
* `Backend.readItems` are the items of a read, and `read_sql_eq_layout` says that the text of the
  read is what they are written as. They are made of what the text of a read depends on: of a
  filter, that is its column and the spelling of its operator (`Backend.condition`).
* A clause is an opening and pieces with separators between them, or nothing at all if there are no
  pieces (`clauseItems`). All clauses of a read after the table are of this form.
-/

namespace FluentSql

open FluentSql.Number Statement

/-! ### Words and items -/

/-- The text has no spaces and no commas in it. -/
def IsWord (s : String) : Prop :=
  Avoids [' ', ','] s

instance (s : String) : Decidable (IsWord s) :=
  inferInstanceAs (Decidable (Avoids _ s))

/-- A part of a text: a word after a space, or a comma. -/
inductive Item where
  | word (w : String)
  | comma
deriving Repr, DecidableEq

/-- An item as it is written. -/
def Item.text : Item → String
  | word w => " " ++ w
  | comma => ","

/-- The item can be found again in a text. -/
def Item.Clean : Item → Prop
  | word w => IsWord w
  | comma => True

@[simp]
theorem Item.clean_word {w : String} : (word w).Clean ↔ IsWord w :=
  Iff.rfl

@[simp]
theorem Item.clean_comma : comma.Clean :=
  trivial

instance (i : Item) : Decidable i.Clean := by
  cases i <;> unfold Item.Clean <;> infer_instance

/-- Items written one after the other. -/
def layout : List Item → String
  | [] => ""
  | item :: rest => item.text ++ layout rest

@[simp]
theorem layout_append (items rest : List Item) :
    layout (items ++ rest) = layout items ++ layout rest := by
  induction items with
  | nil => simp [layout]
  | cons item items ih => rw [List.cons_append, layout, ih, layout, String.append_assoc]

@[simp]
theorem layout_singleton (item : Item) : layout [item] = item.text := by
  simp [layout]

/-- Written items start with a space or a comma, so a word before them ends there. -/
theorem head?_layout (items : List Item) :
    ∀ c ∈ (layout items).toList.head?, c = ' ' ∨ c = ',' := by
  intro c hc
  cases items with
  | nil => simp [layout] at hc
  | cons item rest => cases item <;> simp [layout, Item.text] at hc <;> simp [← hc]

theorem takeWhile_isWord {w : String} (hw : IsWord w) (items : List Item) :
    (w ++ layout items).toList.takeWhile (fun c ↦ c != ' ' && c != ',') = w.toList := by
  have hall : ∀ c ∈ w.toList, (c != ' ' && c != ',') = true := by
    intro c hc
    have hspace : c ≠ ' ' := by rintro rfl; exact hw _ (by simp) hc
    have hcomma : c ≠ ',' := by rintro rfl; exact hw _ (by simp) hc
    simp [hspace, hcomma]
  have hrest : (layout items).toList.takeWhile (fun c ↦ c != ' ' && c != ',') = [] := by
    rcases hchars : (layout items).toList with - | ⟨c, rest⟩
    · rfl
    · rcases head?_layout items c (by rw [hchars]; rfl) with rfl | rfl <;> rfl
  rw [String.toList_append, List.takeWhile_append_of_pos hall, hrest, List.append_nil]

/-- A word and what is written after it can be told apart. -/
theorem word_append_inj {w w' : String} {items items' : List Item} (hw : IsWord w)
    (hw' : IsWord w') (h : w ++ layout items = w' ++ layout items') :
    w = w' ∧ layout items = layout items' := by
  have hword : w = w' := by
    rw [← String.toList_inj, ← takeWhile_isWord hw items, h, takeWhile_isWord hw' items']
  subst hword
  exact ⟨rfl, (String.append_right_inj w).1 h⟩

theorem layout_cons_ne_empty (item : Item) (rest : List Item) : layout (item :: rest) ≠ "" := by
  cases item <;> simp [layout, Item.text]

/-- Clean items are found again in the text that they are written as. -/
theorem layout_injective {items items' : List Item} (h : ∀ i ∈ items, i.Clean)
    (h' : ∀ i ∈ items', i.Clean) (heq : layout items = layout items') : items = items' := by
  induction items generalizing items' with
  | nil =>
    cases items' with
    | nil => rfl
    | cons item' rest' => exact absurd heq.symm (layout_cons_ne_empty item' rest')
  | cons item rest ih =>
    cases items' with
    | nil => exact absurd heq (layout_cons_ne_empty item rest)
    | cons item' rest' =>
      obtain ⟨hitem, hrest⟩ := List.forall_mem_cons.1 h
      obtain ⟨hitem', hrest'⟩ := List.forall_mem_cons.1 h'
      have htext : item.text ++ layout rest = item'.text ++ layout rest' := heq
      -- The first character tells a word from a comma.
      have hhead := congrArg (·.toList.head?) htext
      cases item with
      | word w =>
        cases item' with
        | word w' =>
          simp only [Item.text, String.append_assoc, String.append_right_inj] at htext
          obtain ⟨rfl, htail⟩ := word_append_inj hitem hitem' htext
          rw [ih hrest hrest' htail]
        | comma => simp [Item.text] at hhead
      | comma =>
        cases item' with
        | word w' => simp [Item.text] at hhead
        | comma => rw [ih hrest hrest' ((String.append_right_inj ",").1 htext)]

/-! ### Pieces -/

/-- Texts with glue between them are written by their pieces with a separator between them. -/
theorem layout_intercalate {sep : Item} {glue : String} (hglue : glue = sep.text ++ " ")
    {pieces : List (List Item)} {texts : List String}
    (h : List.Forall₂ (fun piece text ↦ layout piece = " " ++ text) pieces texts)
    (hne : texts ≠ []) :
    layout ([sep].intercalate pieces) = " " ++ glue.intercalate texts := by
  induction h with
  | nil => exact absurd rfl hne
  | @cons piece text pieces texts hpiece hrest ih =>
    cases hrest with
    | nil => rw [List.intercalate_singleton, String.intercalate_singleton, hpiece]
    | cons hnext hrest =>
      rw [List.intercalate_cons_cons, String.intercalate_cons_cons, layout_append, layout_append,
        layout_singleton, ih (by simp), hpiece, hglue]
      simp only [String.append_assoc]

/-- A clause with some pieces; without any, nothing is left of it. -/
def clauseItems (opening : List Item) (sep : Item) (pieces : List (List Item)) : List Item :=
  if pieces = [] then [] else opening ++ [sep].intercalate pieces

theorem layout_clauseItems {sep : Item} (glue : String) (hglue : glue = sep.text ++ " ")
    {pieces : List (List Item)} {texts : List String}
    (h : List.Forall₂ (fun piece text ↦ layout piece = " " ++ text) pieces texts)
    (opening : List Item) :
    layout (clauseItems opening sep pieces) =
      if texts.isEmpty then "" else layout opening ++ " " ++ glue.intercalate texts := by
  cases h with
  | nil => rfl
  | cons hpiece hrest =>
    rw [clauseItems, if_neg (by simp), layout_append,
      layout_intercalate hglue (.cons hpiece hrest) (by simp)]
    simp only [List.isEmpty_cons, Bool.false_eq_true, if_false, String.append_assoc]

/-! ### Reads -/

/-- The columns that a query reads: a star if it names none. -/
def Query.projection (q : Query) : List Value :=
  match q.columns with
  | .collection .list [] => [.text "*"]
  | .collection .list columns => columns
  | v => [v]

namespace Backend

/-- The operator that is written for an operator: there is one for patterns only where letter case
is not told. -/
def spelling : Backend → Value → Value
  | .sqlite, .text "ILIKE" => .text "LIKE"
  | _, operator => operator

/-- What the text of a filter depends on. -/
def condition (be : Backend) (f : Filter) : Value × Value :=
  (f.column, be.spelling f.operator)

/-- What stands after the column of a condition. -/
def testItems : Backend → String → String → List Item
  | .postgres, "IN", mark => [.word "=", .word ("ANY(" ++ mark ++ ")")]
  | .sqlite, "IN", mark =>
    [.word "IN", .word "(SELECT", .word "value", .word "FROM",
      .word ("json_each(" ++ mark ++ "))")]
  | _, operator, mark => [.word operator, .word mark]

/-- A condition on the mark with a number. -/
def conditionItems (be : Backend) (n : ℕ) (c : Value × Value) : List Item :=
  .word c.1.display :: be.testItems c.2.display (be.mark n)

/-- The conditions, numbered from one. -/
def whereItems (be : Backend) (conditions : List (Value × Value)) : List Item :=
  clauseItems [.word "WHERE"] (.word "AND")
    (conditions.mapIdx fun i c ↦ be.conditionItems (i + 1) c)

end Backend

/-- A sort term. -/
def sortItems (t : SortTerm) : List Item :=
  [.word t.column.display, .word (Text.upper t.direction.display)]

/-- The order. -/
def orderItems (orders : List SortTerm) : List Item :=
  clauseItems [.word "ORDER", .word "BY"] .comma (orders.map sortItems)

/-- A value that may be absent, as a list. -/
def presentValues : Value → List Value
  | .null => []
  | v => [v]

/-- A limit or an offset. -/
def boundItems (keyword : String) (v : Value) : List Item :=
  clauseItems [.word keyword] .comma ((presentValues v).map fun v ↦ [.word v.display])

/-- The columns that are read. -/
def columnItems (projection : List Value) : List Item :=
  [.comma].intercalate (projection.map fun v ↦ [.word v.display])

/-- What is read, and from where. -/
def selectItems (distinct : Bool) (projection : List Value) (table : Value) : List Item :=
  (if distinct then [.word "DISTINCT"] else []) ++ columnItems projection ++
    [.word "FROM", .word table.display]

/-- What follows the table of a read. -/
def Backend.tailItems (be : Backend) (q : Query) : List Item :=
  be.whereItems (q.filters.map be.condition) ++ (orderItems q.orders ++
    (boundItems "LIMIT" q.limit ++ boundItems "OFFSET" q.offset))

/-- A read without its first word. -/
def Backend.readItems (be : Backend) (q : Query) : List Item :=
  selectItems q.distinct.truthy q.projection q.table ++ be.tailItems q

/-! ### The text of a read -/

theorem Query.projection_of_texts {q : Query} {words : List String}
    (h : q.columns = .list (words.map .text)) :
    q.projection = (if words.isEmpty then ["*"] else words).map .text := by
  cases words with
  | nil => simp [projection, h]
  | cons word words => simp [projection, h]

theorem layout_selectItems {distinct : Bool} {table : Value} {words : List String}
    (hne : words ≠ []) :
    "SELECT" ++ layout (selectItems distinct (words.map .text) table) =
      "SELECT " ++ (if distinct then "DISTINCT " else "") ++ ", ".intercalate words ++ " FROM " ++
        table.display := by
  have hcolumns : layout (columnItems (words.map .text)) = " " ++ ", ".intercalate words := by
    refine layout_intercalate (by decide) ?_ hne
    simp only [List.forall₂_map_left_iff, List.forall₂_same]
    intro word _
    rw [layout_singleton]
    rfl
  cases distinct <;>
    simp [selectItems, hcolumns, layout, Item.text, ← String.append_assoc]

theorem layout_boundItems (keyword : String) (v : Value) :
    layout (boundItems keyword v) = boundClause keyword v := by
  cases v <;>
    simp [boundItems, presentValues, clauseItems, boundClause, layout, Item.text,
      ← String.append_assoc]

/-- The order of sound sort terms is written by its items. -/
theorem layout_orderItems {model : Option RowModel} {orders : List SortTerm}
    (horders : ∀ t ∈ orders, t.Sound model) {sql : String} (h : orderClause orders = .ok sql) :
    layout (orderItems orders) = sql := by
  let write : SortTerm → String := fun t ↦ t.column.display ++ " " ++ Text.upper t.direction.display
  have hterms : List.Forall₂ (fun t s ↦ sortTerm t = .ok s) orders (orders.map write) := by
    simp only [List.forall₂_map_right_iff, List.forall₂_same]
    exact fun t ht ↦ (horders t ht).sortTerm_eq
  have hpieces : List.Forall₂ (fun piece text ↦ layout piece = " " ++ text)
      (orders.map sortItems) (orders.map write) := by
    simp only [List.forall₂_map_left_iff, List.forall₂_map_right_iff, List.forall₂_same]
    intro t _
    simp [sortItems, layout, Item.text, write, String.append_assoc]
  obtain rfl := Except.ok.inj (h.symm.trans (orderClause_eq_ok_iff.2 ⟨_, hterms, rfl⟩))
  have hopening : layout [.word "ORDER", .word "BY"] ++ " " = " ORDER BY " := by decide
  rw [orderItems, layout_clauseItems ", " (by decide) hpieces, List.isEmpty_map, hopening]

namespace Backend

variable (be : Backend) {model : Option RowModel}

theorem testItems_of_ne {operator : String} (h : operator ≠ "IN") (mark : String) :
    be.testItems operator mark = [.word operator, .word mark] := by
  unfold testItems
  split
  · exact absurd rfl h
  · exact absurd rfl h
  · rfl

theorem spelling_of_ne {operator : String} (h : operator ≠ "ILIKE") :
    be.spelling (.text operator) = .text operator := by
  unfold spelling
  split
  · next heq => exact absurd (Value.text.inj heq) h
  · rfl

/-- What is written for the operator of a sound filter is an allowed operator again. -/
theorem exists_spelling {f : Filter} (hf : f.Sound model) :
    ∃ word ∈ Guard.allowedOperators, be.spelling f.operator = .text word := by
  obtain ⟨word, hword, hoperator⟩ := hf.operator
  rw [hoperator]
  by_cases hilike : word = "ILIKE"
  · subst hilike
    cases be with
    | postgres => exact ⟨"ILIKE", hword, rfl⟩
    | sqlite => exact ⟨"LIKE", by decide, rfl⟩
  · exact ⟨word, hword, be.spelling_of_ne hilike⟩

/-- A sound filter is written by its items. -/
theorem layout_conditionItems {f : Filter} (hf : f.Sound model) (n : ℕ) :
    layout (be.conditionItems n (be.condition f)) =
      " " ++ be.dialect.filterText f (label n) := by
  obtain ⟨word, -, hoperator⟩ := hf.operator
  have hsame : ∀ other : String, f.operator.same (.text other) = decide (word = other) := by
    intro other
    rw [Bool.eq_iff_iff, Value.same_text_iff, hoperator, Value.text.injEq, decide_eq_true_iff]
  have hcomparison : ∀ mark : String, " " ++ Dialect.comparison f mark =
      layout [.word f.column.display, .word word, .word mark] := by
    intro mark
    rw [Dialect.comparison, hoperator, ← String.toList_inj]
    simp [layout, Item.text, Value.display]
  rw [Dialect.filterText, mark_label, conditionItems, condition]
  cases be with
  | postgres =>
    have hspelling : (spelling .postgres f.operator).display = word := by rw [hoperator]; rfl
    simp only [hspelling, dialect, Dialect.postgres, Dialect.withArrays, Dialect.isMembership,
      Guard.membership, hsame]
    by_cases hin : word = "IN"
    · subst hin
      rw [← String.toList_inj]
      simp [testItems, layout, Item.text]
    · rw [testItems_of_ne _ hin, if_neg (by simpa using hin), hcomparison]
  | sqlite =>
    simp only [dialect, Dialect.sqlite, Dialect.isMembership, Guard.membership, hsame]
    by_cases hin : word = "IN"
    · subst hin
      rw [hoperator, ← String.toList_inj]
      simp [spelling, Value.display, testItems, layout, Item.text]
    · by_cases hilike : word = "ILIKE"
      · subst hilike
        rw [hoperator, ← String.toList_inj]
        simp [spelling, Value.display, testItems, layout, Item.text]
      · rw [hoperator, spelling_of_ne _ hilike, Value.display, testItems_of_ne _ hin,
          if_neg (by simpa using hin), if_neg (by simpa using hilike), hcomparison]

/-- The conditions of sound filters are written by their items. -/
theorem layout_whereItems {filters : List Filter} (hfilters : ∀ f ∈ filters, f.Sound model) :
    layout (be.whereItems (filters.map be.condition)) = whereClause be.dialect 0 filters := by
  have hpieces : List.Forall₂ (fun piece text ↦ layout piece = " " ++ text)
      ((filters.map be.condition).mapIdx fun i c ↦ be.conditionItems (i + 1) c)
      (predicates be.dialect 0 filters) := by
    have hpredicates := be.predicates_eq 0 filters
    rw [mapIdx_map, show (0 : ℤ) = ((0 : ℕ) : ℤ) from rfl, hpredicates]
    refine forall₂_mapIdx fun i f hf ↦ ?_
    rw [Nat.zero_add]
    exact be.layout_conditionItems (hfilters f hf) (i + 1)
  have hempty : (predicates be.dialect 0 filters).isEmpty = filters.isEmpty := by
    cases filters <;> rfl
  have hopening : layout [.word "WHERE"] ++ " " = " WHERE " := by decide
  rw [whereItems, layout_clauseItems " AND " (by decide) hpieces, hempty, hopening,
    whereClause]

/-- A read of a sound query is written by its items. -/
theorem read_sql_eq_layout {q : Query} (hq : q.Sound be.dialect model) {columns : List Value}
    (hcolumns : q.columns = .list columns) {s : Statement} (h : read be.dialect q = .ok s) :
    s.sql = "SELECT" ++ layout (be.readItems q) := by
  obtain ⟨select, order, hselect, horder, -, hsql⟩ := read_eq_ok_iff.1 h
  rw [hcolumns] at hselect
  obtain ⟨words, rfl, rfl⟩ := selectClause_eq_ok_iff.1 hselect
  have hprojection : (if words.isEmpty then "*" else ", ".intercalate words) =
      ", ".intercalate (if words.isEmpty then ["*"] else words) := by
    cases words <;> simp
  rw [hsql, readItems, tailItems, Query.projection_of_texts hcolumns, layout_append,
    ← String.append_assoc, layout_selectItems (by cases words <;> simp), hprojection]
  simp only [layout_append, be.layout_whereItems hq.filters, layout_orderItems hq.orders horder,
    layout_boundItems, String.append_assoc]

end Backend

end FluentSql
