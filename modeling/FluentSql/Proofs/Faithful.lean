import FluentSql.Proofs.Layout
import FluentSql.Proofs.Projection

/-!
# The text of a read is faithful

Two reads have the same text only if their queries agree in everything that is written. The text is
put together from optional clauses, with a table and columns in it that no guard has looked at, so
one clause might be mistaken for another. That none is rests on the items of the text
(`read_sql_eq_layout`), which are found again in it (`layout_injective`).

* What a piece of a clause stands for can be told from whatever follows it (`UniquelyRead`): a piece
  has as many words as its kind has, and among conditions the second word tells how many there are.
* After a clause comes one of the words that open later clauses, or nothing (`StartsIn`). So a
  clause can be told from what follows it, and it does not matter whether it is there at all
  (`UniquelyRead.clause`).
* A column may be spelled like the keyword for leaving out duplicates, and a table like any keyword.
  There the first words do not decide. `Tail` says how what follows a table starts, and
  `Tail.not_cons` that with one more word before it nothing starts so: what follows a table cannot
  be read as the table and what follows that.

On the values of filters a text does not depend, nor on whether an operator for patterns tells
letter case where the database has only one (`Backend.SameParts`).
-/

namespace FluentSql

open FluentSql.Number Statement

/-! ### Unique reading -/

/-- What a piece stands for can be told from whatever follows it. -/
def UniquelyRead {β : Type} (R : List Item → β → Prop) : Prop :=
  ∀ ⦃p p' : List Item⦄ ⦃o o' : β⦄ ⦃r r' : List Item⦄,
    R p o → R p' o' → p ++ r = p' ++ r' → o = o' ∧ r = r'

/-- Items that go on after a clause start with one of a few words, if with anything. -/
def StartsIn (words : List String) (items : List Item) : Prop :=
  ∀ item ∈ items.head?, ∃ w ∈ words, item = .word w

theorem StartsIn.head?_ne {words : List String} {items : List Item} (h : StartsIn words items)
    {item : Item} (hitem : ∀ w ∈ words, item ≠ .word w) : items.head? ≠ some item := by
  intro hhead
  obtain ⟨w, hw, heq⟩ := h item hhead
  exact hitem w hw heq

theorem startsIn_nil (words : List String) : StartsIn words [] := by
  simp [StartsIn]

theorem StartsIn.clause {words : List String} {items : List Item} (h : StartsIn words items)
    (w : String) (opening : List Item) (sep : Item) (pieces : List (List Item)) :
    StartsIn (w :: words) (clauseItems (.word w :: opening) sep pieces ++ items) := by
  intro item hitem
  unfold clauseItems at hitem
  split at hitem
  · obtain ⟨v, hv, rfl⟩ := h item hitem
    exact ⟨v, .tail _ hv, rfl⟩
  · exact ⟨w, .head _, by simpa [eq_comm] using hitem⟩

section

variable {β : Type} {R : List Item → β → Prop} {sep : Item} {ps ps' : List (List Item)}
  {os os' : List β} {r r' : List Item}

/-- Pieces with separators between them can be told from whatever follows without a separator. -/
theorem UniquelyRead.separated (hR : UniquelyRead R)
    (h : List.Forall₂ R ps os) (h' : List.Forall₂ R ps' os') (hne : ps ≠ []) (hne' : ps' ≠ [])
    (hr : r.head? ≠ some sep) (hr' : r'.head? ≠ some sep)
    (heq : [sep].intercalate ps ++ r = [sep].intercalate ps' ++ r') : os = os' ∧ r = r' := by
  induction h generalizing ps' os' with
  | nil => exact absurd rfl hne
  | @cons p o ps os hp hps ih =>
    cases h' with
    | nil => exact absurd rfl hne'
    | @cons p' o' ps' os' hp' hps' =>
      -- After the first piece comes a separator or the end, and both sides agree which it is.
      cases hps with
      | nil =>
        cases hps' with
        | nil =>
          obtain ⟨rfl, hrest⟩ := hR hp hp' (by simpa using heq)
          exact ⟨rfl, hrest⟩
        | cons hq' hqs' =>
          obtain ⟨-, hrest⟩ := hR hp hp' (by
            simpa only [List.intercalate_singleton, List.intercalate_cons_cons,
              List.append_assoc] using heq)
          exact absurd (congrArg List.head? hrest) (by simpa using hr)
      | cons hq hqs =>
        cases hps' with
        | nil =>
          obtain ⟨-, hrest⟩ := hR hp hp' (by
            simpa only [List.intercalate_singleton, List.intercalate_cons_cons,
              List.append_assoc] using heq)
          exact absurd (congrArg List.head? hrest.symm) (by simpa using hr')
        | cons hq' hqs' =>
          obtain ⟨rfl, hrest⟩ := hR hp hp' (by
            simpa only [List.intercalate_cons_cons, List.append_assoc] using heq)
          obtain ⟨hos, hend⟩ := ih (.cons hq' hqs') (by simp) (by simp)
            (List.append_cancel_left hrest)
          exact ⟨by rw [hos], hend⟩

/-- A clause can be told from whatever follows, if that starts neither with the word that opens the
clause nor with a separator. -/
theorem UniquelyRead.clause (hR : UniquelyRead R) {w : String} {opening : List Item}
    {words : List String} (hw : w ∉ words) (hsep : ∀ v ∈ words, sep ≠ .word v)
    (h : List.Forall₂ R ps os) (h' : List.Forall₂ R ps' os')
    (hr : StartsIn words r) (hr' : StartsIn words r')
    (heq : clauseItems (.word w :: opening) sep ps ++ r =
      clauseItems (.word w :: opening) sep ps' ++ r') : os = os' ∧ r = r' := by
  have hopen : ∀ v ∈ words, Item.word w ≠ .word v := by
    rintro v hv hwv
    exact hw (Item.word.inj hwv ▸ hv)
  by_cases hps : ps = []
  · obtain rfl : os = [] := by subst hps; cases h; rfl
    by_cases hps' : ps' = []
    · obtain rfl : os' = [] := by subst hps'; cases h'; rfl
      exact ⟨rfl, by simpa [clauseItems, hps, hps'] using heq⟩
    · rw [clauseItems, if_pos hps, clauseItems, if_neg hps'] at heq
      exact absurd (congrArg List.head? heq) (hr.head?_ne hopen)
  · by_cases hps' : ps' = []
    · rw [clauseItems, if_neg hps, clauseItems, if_pos hps'] at heq
      exact absurd (congrArg List.head? heq.symm) (hr'.head?_ne hopen)
    · rw [clauseItems, if_neg hps, clauseItems, if_neg hps', List.append_assoc,
        List.append_assoc] at heq
      exact hR.separated h h' hps hps' (hr.head?_ne hsep) (hr'.head?_ne hsep)
        (List.append_cancel_left heq)

end

/-! ### What pieces stand for -/

/-- The piece is the word of a text. -/
def ReadsText (p : List Item) (v : Value) : Prop :=
  ∃ s, v = .text s ∧ p = [.word s]

theorem uniquelyRead_text : UniquelyRead ReadsText := by
  rintro _ _ _ _ r r' ⟨s, rfl, rfl⟩ ⟨s', rfl, rfl⟩ heq
  obtain ⟨hs, hr⟩ := List.cons.inj heq
  exact ⟨by rw [Item.word.inj hs], hr⟩

/-- The piece is a natural number. -/
def ReadsNumber (p : List Item) (v : Value) : Prop :=
  ∃ n : ℕ, v = .int n ∧ p = [.word n.repr]

theorem repr_ne {w : String} (hw : w.toList.all Char.isDigit = false) (n : ℕ) : n.repr ≠ w := by
  rintro rfl
  have hdigits : n.repr.toList.all Char.isDigit = true :=
    List.all_eq_true.2 fun _ hc ↦ isDigit_of_mem_repr hc
  rw [hdigits] at hw
  cases hw

theorem repr_not_mem_allowedOperators (n : ℕ) : n.repr ∉ Guard.allowedOperators := fun h ↦
  repr_ne ((by decide : ∀ w ∈ Guard.allowedOperators, w.toList.all Char.isDigit = false) _ h) n rfl

theorem uniquelyRead_number : UniquelyRead ReadsNumber := by
  rintro _ _ _ _ r r' ⟨n, rfl, rfl⟩ ⟨n', rfl, rfl⟩ heq
  obtain ⟨hn, hr⟩ := List.cons.inj heq
  -- A number is what its digits denote.
  have hdigits := congrArg (fun s ↦ Nat.ofDigitChars 10 s.toList 0) (Item.word.inj hn)
  obtain rfl : n = n' := by simpa [Nat.toList_repr, Nat.ofDigitChars_toDigits] using hdigits
  exact ⟨rfl, hr⟩

/-- The piece is a sort term that has passed its guards. -/
def ReadsSortTerm (p : List Item) (t : SortTerm) : Prop :=
  p = sortItems t ∧ (∃ s, t.column = .text s) ∧
    (t.direction = .text "asc" ∨ t.direction = .text "desc")

theorem uniquelyRead_sortTerm : UniquelyRead ReadsSortTerm := by
  rintro _ _ ⟨c, d⟩ ⟨c', d'⟩ r r' ⟨rfl, ⟨s, hs⟩, hd⟩ ⟨rfl, ⟨s', hs'⟩, hd'⟩ heq
  dsimp only at hs hs' hd hd'
  subst hs hs'
  simp only [sortItems, List.cons_append, List.nil_append, List.cons.injEq, Item.word.injEq,
    Value.display] at heq
  obtain ⟨rfl, hdirection, hr⟩ := heq
  have hupper : Text.upper "asc" ≠ Text.upper "desc" := by decide
  refine ⟨?_, hr⟩
  rcases hd with rfl | rfl <;> rcases hd' with rfl | rfl
  · rfl
  · exact absurd hdirection hupper
  · exact absurd hdirection.symm hupper
  · rfl

namespace Backend

variable (be : Backend)

/-- A test of membership is not written like any other test. -/
theorem testItems_membership_ne {w : String} (hw : w ≠ "IN") (n n' : ℕ) (r r' : List Item) :
    be.testItems "IN" (be.mark n) ++ r ≠ be.testItems w (be.mark n') ++ r' := by
  rw [be.testItems_of_ne hw]
  intro heq
  cases be with
  | postgres =>
    -- An array stands where the other tests have nothing but the mark.
    simp only [testItems, mark, List.cons_append, List.cons.injEq, Item.word.injEq] at heq
    have hhead := congrArg (·.toList.head?) heq.2.1
    simp at hhead
  | sqlite =>
    simp only [testItems, List.cons_append, List.cons.injEq, Item.word.injEq] at heq
    exact hw heq.1.symm

/-- The operator of a test is told by its text, whatever its mark is. -/
theorem testItems_append_inj {w w' : String} {n n' : ℕ} {r r' : List Item}
    (heq : be.testItems w (be.mark n) ++ r = be.testItems w' (be.mark n') ++ r') :
    w = w' ∧ r = r' := by
  by_cases hw : w = "IN"
  · by_cases hw' : w' = "IN"
    · subst hw hw'
      cases be <;> simp [testItems] at heq <;> simp [heq]
    · subst hw
      exact absurd heq (be.testItems_membership_ne hw' n n' r r')
  · by_cases hw' : w' = "IN"
    · subst hw'
      exact absurd heq.symm (be.testItems_membership_ne hw n' n r' r)
    · rw [be.testItems_of_ne hw, be.testItems_of_ne hw'] at heq
      simp only [List.cons_append, List.cons.injEq, Item.word.injEq] at heq
      exact ⟨heq.1, heq.2.2⟩

/-- The piece is a condition with some number. -/
def ReadsCondition (p : List Item) (c : Value × Value) : Prop :=
  ∃ n, p = be.conditionItems n c ∧ (∃ s, c.1 = .text s) ∧
    ∃ word ∈ Guard.allowedOperators, c.2 = .text word

theorem uniquelyRead_condition : UniquelyRead be.ReadsCondition := by
  rintro _ _ ⟨c, op⟩ ⟨c', op'⟩ r r' ⟨n, rfl, ⟨s, hs⟩, word, -, hword⟩
    ⟨n', rfl, ⟨s', hs'⟩, word', -, hword'⟩ heq
  dsimp only at hs hs' hword hword'
  subst hs hs' hword hword'
  simp only [conditionItems, List.cons_append, List.cons.injEq, Item.word.injEq,
    Value.display] at heq
  obtain ⟨rfl, hwords, hr⟩ := And.imp_right be.testItems_append_inj heq
  exact ⟨by rw [hwords], hr⟩

end Backend

/-! ### What follows the table -/

/-- A sound sort term is read off its piece. -/
theorem readsSortTerm_of_sound {model : Option RowModel} {t : SortTerm} (ht : t.Sound model) :
    ReadsSortTerm (sortItems t) t := by
  obtain ⟨s, hs, -⟩ := ht.column
  exact ⟨rfl, ⟨s, hs⟩, ht.direction⟩

/-- A limit or an offset is read off its clause. -/
theorem readsNumber_presentValues {v : Value} (hv : IsPagination v) :
    List.Forall₂ ReadsNumber ((presentValues v).map fun v ↦ [.word v.display])
      (presentValues v) := by
  rcases hv with rfl | ⟨n, hn, rfl⟩
  · exact .nil
  · obtain ⟨k, rfl⟩ := Int.eq_ofNat_of_zero_le hn
    exact .cons ⟨k, rfl, by rfl⟩ .nil

theorem presentValues_inj {v w : Value} (h : presentValues v = presentValues w) : v = w := by
  cases v <;> cases w <;> simp_all [presentValues]

namespace Backend

variable {be : Backend} {model model' : Option RowModel} {q q' : Query}

/-- A sound filter is read off its piece, as far as it is written. -/
theorem readsCondition_of_sound {f : Filter} (hf : f.Sound model) (n : ℕ) :
    be.ReadsCondition (be.conditionItems n (be.condition f)) (be.condition f) := by
  obtain ⟨s, hs, -⟩ := hf.column
  exact ⟨n, rfl, ⟨s, hs⟩, be.exists_spelling hf⟩

theorem readsConditions_of_sound {filters : List Filter} (h : ∀ f ∈ filters, f.Sound model) :
    List.Forall₂ be.ReadsCondition
      ((filters.map be.condition).mapIdx fun i c ↦ be.conditionItems (i + 1) c)
      (filters.map be.condition) := by
  have hcopy : filters.map be.condition = filters.mapIdx fun _ f ↦ be.condition f :=
    List.ext_getElem? fun i ↦ by simp only [List.getElem?_map, List.getElem?_mapIdx]
  rw [mapIdx_map, hcopy]
  exact forall₂_mapIdx fun i f hf ↦ readsCondition_of_sound (h f hf) (i + 1)

/-- What follows the table of a read tells the filters as far as they are written, the order, the
limit and the offset. -/
theorem tailItems_inj (hq : q.Sound be.dialect model) (hq' : q'.Sound be.dialect model')
    (heq : be.tailItems q = be.tailItems q') :
    q.filters.map be.condition = q'.filters.map be.condition ∧ q.orders = q'.orders ∧
      q.limit = q'.limit ∧ q.offset = q'.offset := by
  have hsorts : ∀ {orders : List SortTerm} {m : Option RowModel}, (∀ t ∈ orders, t.Sound m) →
      List.Forall₂ ReadsSortTerm (orders.map sortItems) orders := by
    intro orders m h
    rw [List.forall₂_map_left_iff, List.forall₂_same]
    exact fun t ht ↦ readsSortTerm_of_sound (h t ht)
  -- Each clause is followed by some of the clauses after it, and so by one of their first words.
  have hoffset : ∀ v, StartsIn ["OFFSET"] (boundItems "OFFSET" v ++ []) := fun v ↦
    (startsIn_nil []).clause "OFFSET" [] .comma _
  have hlimit : ∀ v w, StartsIn ["LIMIT", "OFFSET"]
      (boundItems "LIMIT" v ++ (boundItems "OFFSET" w ++ [])) := fun v w ↦
    (hoffset w).clause "LIMIT" [] .comma _
  have horder : ∀ orders v w, StartsIn ["ORDER", "LIMIT", "OFFSET"]
      (orderItems orders ++ (boundItems "LIMIT" v ++ (boundItems "OFFSET" w ++ []))) :=
    fun orders v w ↦ (hlimit v w).clause "ORDER" [.word "BY"] .comma _
  rw [tailItems, tailItems, ← List.append_nil (boundItems "OFFSET" q.offset),
    ← List.append_nil (boundItems "OFFSET" q'.offset)] at heq
  obtain ⟨hfilters, heq⟩ := be.uniquelyRead_condition.clause (by decide) (by decide)
    (readsConditions_of_sound hq.filters) (readsConditions_of_sound hq'.filters)
    (horder _ _ _) (horder _ _ _) heq
  obtain ⟨horders, heq⟩ := uniquelyRead_sortTerm.clause (by decide) (by decide)
    (hsorts hq.orders) (hsorts hq'.orders) (hlimit _ _) (hlimit _ _) heq
  obtain ⟨hlimits, heq⟩ := uniquelyRead_number.clause (by decide) (by decide)
    (readsNumber_presentValues hq.limit) (readsNumber_presentValues hq'.limit)
    (hoffset _) (hoffset _) heq
  obtain ⟨hoffsets, -⟩ := uniquelyRead_number.clause (by decide) (by decide)
    (readsNumber_presentValues hq.offset) (readsNumber_presentValues hq'.offset)
    (startsIn_nil []) (startsIn_nil []) heq
  exact ⟨hfilters, horders, presentValues_inj hlimits, presentValues_inj hoffsets⟩

/-! ### What a tail starts with -/

/-- A test is written as an operator and something that is none. -/
theorem testItems_cases {word : String} (hword : word ∈ Guard.allowedOperators) (n : ℕ) :
    ∃ first second rest, be.testItems word (be.mark n) = .word first :: .word second :: rest ∧
      first ∈ Guard.allowedOperators ∧ second ∉ Guard.allowedOperators := by
  -- Of what stands second, only the query over the members of a list has no mark in it.
  have hmarked : ∀ s : String, be.opener ∈ s.toList → s ∉ Guard.allowedOperators := fun s hs hmem ↦
    opener_not_mem_of_unmarked be (unmarked_of_mem_allowedOperators hmem) hs
  have hopener : be.opener ∈ (be.mark n).toList := by
    cases be <;> simp [mark, opener]
  by_cases hin : word = "IN"
  · subst hin
    cases be with
    | postgres =>
      refine ⟨"=", _, [], rfl, by decide, hmarked _ ?_⟩
      simp only [String.toList_append, List.mem_append]
      exact Or.inl (Or.inr hopener)
    | sqlite => exact ⟨"IN", "(SELECT", _, rfl, by decide, by decide⟩
  · exact ⟨word, be.mark n, [], be.testItems_of_ne hin _, hword, hmarked _ hopener⟩

end Backend

/-- What follows the table starts with the first word of a clause, and after that comes what no
other clause has there. -/
inductive Tail : List Item → Prop
  | none : Tail []
  | conditions {column operator test : String} {rest : List Item}
    (hoperator : operator ∈ Guard.allowedOperators) (htest : test ∉ Guard.allowedOperators) :
    Tail (.word "WHERE" :: .word column :: .word operator :: .word test :: rest)
  | order {rest : List Item} : Tail (.word "ORDER" :: .word "BY" :: rest)
  | bound {keyword : String} {n : ℕ} {rest : List Item}
    (hkeyword : keyword = "LIMIT" ∨ keyword = "OFFSET") :
    Tail (.word keyword :: .word n.repr :: rest)

/-- What follows a table does not do so any more with a word before it. -/
theorem Tail.not_cons {w : String} {items : List Item} (h : Tail items) :
    ¬ Tail (.word w :: items) := by
  intro h'
  cases h' with
  | conditions hoperator htest =>
    -- The first words of `items` are a column, an operator and a test. As the column they are now a
    -- keyword, so the test would have to be an operator.
    generalize hitems : Item.word _ :: Item.word _ :: Item.word _ :: _ = items at h
    cases h with
    | none => simp at hitems
    | conditions hoperator' htest' =>
      simp only [List.cons.injEq, Item.word.injEq] at hitems
      exact htest (hitems.2.2.1 ▸ hoperator')
    | order =>
      simp only [List.cons.injEq, Item.word.injEq] at hitems
      exact absurd (hitems.2.1 ▸ hoperator) (by decide)
    | bound hkeyword =>
      simp only [List.cons.injEq, Item.word.injEq] at hitems
      exact repr_not_mem_allowedOperators _ (hitems.2.1 ▸ hoperator)
  | order =>
    generalize hitems : Item.word "BY" :: _ = items at h
    cases h with
    | none => simp at hitems
    | conditions hoperator' htest' => simp at hitems
    | order => simp at hitems
    | bound hkeyword => rcases hkeyword with rfl | rfl <;> simp at hitems
  | @bound keyword n rest hkeyword =>
    have hword : ∀ w ∈ ["WHERE", "ORDER", "LIMIT", "OFFSET"], n.repr ≠ w := fun w hw ↦
      repr_ne ((by decide : ∀ w ∈ ["WHERE", "ORDER", "LIMIT", "OFFSET"],
        w.toList.all Char.isDigit = false) w hw) n
    generalize hitems : Item.word n.repr :: _ = items at h
    cases h with
    | none => simp at hitems
    | conditions hoperator' htest' => simp [hword] at hitems
    | order => simp [hword] at hitems
    | bound hkeyword => rcases hkeyword with rfl | rfl <;> simp [hword] at hitems

namespace Backend

variable {be : Backend} {model : Option RowModel} {q : Query}

theorem tail_boundItems {keyword : String} (hkeyword : keyword = "LIMIT" ∨ keyword = "OFFSET")
    {v : Value} (hv : IsPagination v) {rest : List Item} (hrest : Tail rest) :
    Tail (boundItems keyword v ++ rest) := by
  rcases hv with rfl | ⟨n, hn, rfl⟩
  · exact hrest
  · obtain ⟨k, rfl⟩ := Int.eq_ofNat_of_zero_le hn
    exact .bound hkeyword

theorem tail_tailItems (hq : q.Sound be.dialect model) : Tail (be.tailItems q) := by
  have hbounds : Tail (boundItems "LIMIT" q.limit ++ boundItems "OFFSET" q.offset) := by
    have hoffset := tail_boundItems (Or.inr rfl) hq.offset Tail.none
    rw [List.append_nil] at hoffset
    exact tail_boundItems (Or.inl rfl) hq.limit hoffset
  have horder : Tail (orderItems q.orders ++
      (boundItems "LIMIT" q.limit ++ boundItems "OFFSET" q.offset)) := by
    cases q.orders with
    | nil => exact hbounds
    | cons t orders => exact .order
  rw [tailItems]
  rcases hfilters : q.filters with - | ⟨f, filters⟩
  · exact horder
  · have hread : be.ReadsCondition _ (be.condition f) :=
      readsCondition_of_sound (hq.filters f (by simp [hfilters])) 1
    obtain ⟨-, -, -, word, hword, hoperator⟩ := hread
    obtain ⟨first, second, rest, htest, hfirst, hsecond⟩ := be.testItems_cases hword 1
    obtain ⟨others, hothers⟩ := exists_intercalate_cons [.word "AND"]
      (be.conditionItems 1 (be.condition f))
      ((filters.map be.condition).mapIdx fun i c ↦ be.conditionItems (i + 1 + 1) c)
    have hdisplay : (be.condition f).2.display = word := by rw [hoperator]; rfl
    rw [whereItems, List.map_cons, List.mapIdx_cons, clauseItems, if_neg (by simp), hothers,
      conditionItems, hdisplay, htest]
    exact .conditions hfirst hsecond

end Backend

theorem columnItems_cons (v : Value) (projection : List Value) :
    columnItems (v :: projection) = .word v.display ::
      if projection = [] then [] else .comma :: columnItems projection := by
  cases projection with
  | nil => simp [columnItems]
  | cons w rest => simp [columnItems, List.intercalate_cons_cons]

/-- A column that is spelled like the keyword for leaving out duplicates is not taken for it: after
the keyword there is one more word before the table, and with that word what follows the table would
follow no table. -/
theorem selectItems_distinct_ne {projection projection' : List Value} {table table' : Value}
    {tail tail' : List Item} (hne : projection ≠ []) (htail : Tail tail) (htail' : Tail tail') :
    selectItems true projection table ++ tail ≠ selectItems false projection' table' ++ tail' := by
  intro heq
  cases projection with
  | nil => exact hne rfl
  | cons v rest =>
    cases projection' with
    | nil => simp [selectItems, columnItems] at heq
    | cons v' rest' =>
      rw [selectItems, selectItems, columnItems_cons, columnItems_cons] at heq
      by_cases hrest' : rest' = []
      · by_cases hrest : rest = []
        · simp only [hrest, hrest', if_true, Bool.false_eq_true, if_false, List.cons_append,
            List.nil_append, List.cons.injEq, Item.word.injEq] at heq
          obtain ⟨-, -, -, rfl⟩ := heq
          exact htail.not_cons htail'
        · simp [hrest, hrest'] at heq
      · simp [hrest'] at heq

/-- What is read, and from where, can be told from what follows it. -/
theorem selectItems_append_inj {distinct distinct' : Bool} {projection projection' : List Value}
    {table table' : Value} {tail tail' : List Item} (hne : projection ≠ [])
    (hne' : projection' ≠ [])
    (hprojection : ∀ v ∈ projection, ∃ s, v = .text s)
    (hprojection' : ∀ v ∈ projection', ∃ s, v = .text s) (htail : Tail tail) (htail' : Tail tail')
    (heq : selectItems distinct projection table ++ tail =
      selectItems distinct' projection' table' ++ tail') :
    distinct = distinct' ∧ projection = projection' ∧ table.display = table'.display ∧
      tail = tail' := by
  obtain rfl : distinct = distinct' := by
    cases distinct <;> cases distinct'
    · rfl
    · exact absurd heq.symm (selectItems_distinct_ne hne' htail' htail)
    · exact absurd heq (selectItems_distinct_ne hne htail htail')
    · rfl
  have hreads : ∀ {projection : List Value}, (∀ v ∈ projection, ∃ s, v = .text s) →
      List.Forall₂ ReadsText (projection.map fun v ↦ [.word v.display]) projection := by
    intro projection h
    rw [List.forall₂_map_left_iff, List.forall₂_same]
    intro v hv
    obtain ⟨s, rfl⟩ := h v hv
    exact ⟨s, rfl, rfl⟩
  rw [selectItems, selectItems, List.append_assoc, List.append_assoc, List.append_assoc,
    List.append_assoc] at heq
  obtain ⟨rfl, hrest⟩ := uniquelyRead_text.separated (hreads hprojection) (hreads hprojection')
    (by simpa using hne) (by simpa using hne') (by simp) (by simp) (List.append_cancel_left heq)
  simp only [List.cons_append, List.nil_append, List.cons.injEq, Item.word.injEq] at hrest
  exact ⟨rfl, rfl, hrest.2⟩

/-! ### Clean items -/

theorem IsColumnOf.isWord {model : Option RowModel} {v : Value} (h : IsColumnOf model v) :
    IsWord v.display := by
  obtain ⟨s, rfl, hs, -⟩ := h
  exact avoids_of_isColumn (by decide) hs

theorem clean_intercalate {sep : Item} (hsep : sep.Clean) {pieces : List (List Item)}
    (h : ∀ p ∈ pieces, ∀ i ∈ p, i.Clean) : ∀ i ∈ [sep].intercalate pieces, i.Clean := by
  induction pieces with
  | nil => simp
  | cons p pieces ih =>
    obtain ⟨hp, hpieces⟩ := List.forall_mem_cons.1 h
    cases pieces with
    | nil => simpa using hp
    | cons q pieces =>
      intro i hi
      rw [List.intercalate_cons_cons, List.mem_append, List.mem_append, List.mem_singleton] at hi
      rcases hi with (hi | rfl) | hi
      · exact hp i hi
      · exact hsep
      · exact ih hpieces i hi

theorem clean_clauseItems {opening : List Item} (hopening : ∀ i ∈ opening, i.Clean) {sep : Item}
    (hsep : sep.Clean) {pieces : List (List Item)} (h : ∀ p ∈ pieces, ∀ i ∈ p, i.Clean) :
    ∀ i ∈ clauseItems opening sep pieces, i.Clean := by
  unfold clauseItems
  split
  · simp
  · intro i hi
    rcases List.mem_append.1 hi with hi | hi
    · exact hopening i hi
    · exact clean_intercalate hsep h i hi

theorem clean_boundItems {keyword : String} (hkeyword : IsWord keyword) {v : Value}
    (hv : IsPagination v) : ∀ i ∈ boundItems keyword v, i.Clean := by
  refine clean_clauseItems (by simpa using hkeyword) (by decide) ?_
  rcases hv with rfl | ⟨n, hn, rfl⟩
  · simp [presentValues]
  · obtain ⟨k, rfl⟩ := Int.eq_ofNat_of_zero_le hn
    have hword : IsWord (Value.int k).display := avoids_repr (by decide) k
    simpa [presentValues] using hword

theorem clean_orderItems {model : Option RowModel} {orders : List SortTerm}
    (h : ∀ t ∈ orders, t.Sound model) : ∀ i ∈ orderItems orders, i.Clean := by
  refine clean_clauseItems (by decide) (by decide) ?_
  intro p hp
  obtain ⟨t, ht, rfl⟩ := List.mem_map.1 hp
  have hdirection : IsWord (Text.upper t.direction.display) := by
    rcases (h t ht).direction with hd | hd <;> rw [hd] <;> decide
  simpa [sortItems] using And.intro (h t ht).column.isWord hdirection

/-- The table of the query and the columns that it reads are texts without spaces and commas. -/
structure Query.Worded (q : Query) : Prop where
  table : ∃ s, q.table = .text s ∧ IsWord s
  columns : ∃ words : List String, q.columns = .list (words.map .text) ∧ ∀ w ∈ words, IsWord w

theorem Query.Worded.projection {q : Query} (h : q.Worded) :
    ∃ words : List String, q.projection = words.map .text ∧ words ≠ [] ∧ ∀ w ∈ words, IsWord w := by
  obtain ⟨words, hcolumns, hwords⟩ := h.columns
  refine ⟨if words.isEmpty then ["*"] else words, Query.projection_of_texts hcolumns, ?_, ?_⟩
  · cases words <;> simp
  · split
    · decide
    · exact hwords

theorem clean_selectItems (distinct : Bool) {words : List String} (hwords : ∀ w ∈ words, IsWord w)
    {table : String} (htable : IsWord table) :
    ∀ i ∈ selectItems distinct (words.map .text) (.text table), i.Clean := by
  have hcolumns : ∀ i ∈ columnItems (words.map .text), i.Clean := by
    refine clean_intercalate Item.clean_comma ?_
    simpa [Value.display] using hwords
  intro i hi
  rw [selectItems, List.mem_append, List.mem_append] at hi
  rcases hi with (hi | hi) | hi
  · cases distinct
    · simp at hi
    · obtain rfl := List.mem_singleton.1 hi
      decide
  · exact hcolumns i hi
  · have hend : Item.Clean (.word "FROM") ∧ Item.Clean (.word table) := ⟨by decide, htable⟩
    simp only [List.mem_cons, List.not_mem_nil, or_false] at hi
    rcases hi with rfl | rfl
    · exact hend.1
    · exact hend.2

namespace Backend

variable {be : Backend} {model model' : Option RowModel} {q q' : Query}

theorem isWord_mark (n : ℕ) : IsWord (be.mark n) := by
  cases be with
  | postgres => exact avoids_append.2 ⟨by decide, avoids_repr (by decide) n⟩
  | sqlite => show IsWord "?"; decide

theorem clean_testItems {word : String} (hword : IsWord word) (n : ℕ) :
    ∀ i ∈ be.testItems word (be.mark n), i.Clean := by
  have hmark : IsWord (be.mark n) := isWord_mark n
  by_cases hin : word = "IN"
  · -- The mark is in a word of its own here, together with brackets.
    have haround : ∀ before after : String, IsWord before → IsWord after →
        Item.Clean (.word (before ++ be.mark n ++ after)) := fun before after hb ha ↦
      avoids_append.2 ⟨avoids_append.2 ⟨hb, hmark⟩, ha⟩
    subst hin
    cases be with
    | postgres =>
      have hequals : IsWord "=" := by decide
      simpa [testItems] using And.intro hequals (haround "ANY(" ")" (by decide) (by decide))
    | sqlite =>
      have hquery : IsWord "IN" ∧ IsWord "(SELECT" ∧ IsWord "value" ∧ IsWord "FROM" := by decide
      simpa [testItems, hquery] using haround "json_each(" "))" (by decide) (by decide)
  · rw [be.testItems_of_ne hin]
    simpa [Item.Clean] using And.intro hword hmark

theorem clean_whereItems {filters : List Filter} (h : ∀ f ∈ filters, f.Sound model) :
    ∀ i ∈ be.whereItems (filters.map be.condition), i.Clean := by
  refine clean_clauseItems (by decide) (by decide) ?_
  rw [mapIdx_map]
  refine forall_mem_mapIdx fun k f hf i hi ↦ ?_
  obtain ⟨word, hword, hoperator⟩ := be.exists_spelling (h f hf)
  rcases List.mem_cons.1 hi with rfl | hi
  · exact (h f hf).column.isWord
  · rw [condition, hoperator] at hi
    exact clean_testItems ((by decide : ∀ w ∈ Guard.allowedOperators, IsWord w) word hword) _ i hi

theorem clean_readItems (hq : q.Sound be.dialect model) (hw : q.Worded) :
    ∀ i ∈ be.readItems q, i.Clean := by
  obtain ⟨table, htable, htableWord⟩ := hw.table
  obtain ⟨words, hprojection, -, hwords⟩ := hw.projection
  intro i hi
  simp only [readItems, tailItems, List.mem_append, hprojection, htable] at hi
  rcases hi with hi | hi | hi | hi | hi
  · exact clean_selectItems _ hwords htableWord i hi
  · exact clean_whereItems hq.filters i hi
  · exact clean_orderItems hq.orders i hi
  · exact clean_boundItems (by decide) hq.limit i hi
  · exact clean_boundItems (by decide) hq.offset i hi

/-! ### The text of a read -/

/-- Two queries agree in what the text of a read depends on. -/
structure SameParts (be : Backend) (q q' : Query) : Prop where
  table : q.table = q'.table
  distinct : q.distinct = q'.distinct
  projection : q.projection = q'.projection
  /-- The columns of the filters are the same, and the operators that are written for them. -/
  conditions : q.filters.map be.condition = q'.filters.map be.condition
  orders : q.orders = q'.orders
  limit : q.limit = q'.limit
  offset : q.offset = q'.offset

/-- The items of a read depend on nothing else. -/
theorem SameParts.readItems_eq (h : be.SameParts q q') : be.readItems q = be.readItems q' := by
  rw [readItems, readItems, tailItems, tailItems, h.table, h.distinct, h.projection, h.conditions,
    h.orders, h.limit, h.offset]

/-- The items of a read tell all that they depend on. -/
theorem sameParts_of_readItems_eq (hq : q.Sound be.dialect model) (hq' : q'.Sound be.dialect model')
    (hw : q.Worded) (hw' : q'.Worded) (hdistinct : ∃ d, q.distinct = .bool d)
    (hdistinct' : ∃ d, q'.distinct = .bool d) (h : be.readItems q = be.readItems q') :
    be.SameParts q q' := by
  obtain ⟨words, hprojection, hne, -⟩ := hw.projection
  obtain ⟨words', hprojection', hne', -⟩ := hw'.projection
  obtain ⟨table, htable, -⟩ := hw.table
  obtain ⟨table', htable', -⟩ := hw'.table
  obtain ⟨d, hd⟩ := hdistinct
  obtain ⟨d', hd'⟩ := hdistinct'
  obtain ⟨hsame, hcolumns, htables, htail⟩ := selectItems_append_inj
    (by simpa [hprojection] using hne) (by simpa [hprojection'] using hne')
    (by simp [hprojection]) (by simp [hprojection']) (tail_tailItems hq) (tail_tailItems hq') h
  obtain ⟨hconditions, horders, hlimit, hoffset⟩ := tailItems_inj hq hq' htail
  have htable_eq : q.table = q'.table := by
    rw [htable, htable'] at htables ⊢
    exact congrArg Value.text htables
  have hdistinct_eq : q.distinct = q'.distinct := by
    rw [hd, hd'] at hsame ⊢
    exact congrArg Value.bool hsame
  exact ⟨htable_eq, hdistinct_eq, hcolumns, hconditions, horders, hlimit, hoffset⟩

/-- The texts of two reads are the same only if the queries agree in all that a text depends on. -/
theorem read_sql_eq_iff (hq : q.Sound be.dialect model) (hq' : q'.Sound be.dialect model')
    (hw : q.Worded) (hw' : q'.Worded) (hdistinct : ∃ d, q.distinct = .bool d)
    (hdistinct' : ∃ d, q'.distinct = .bool d) {s s' : Statement}
    (hs : Statement.read be.dialect q = .ok s) (hs' : Statement.read be.dialect q' = .ok s') :
    s.sql = s'.sql ↔ be.SameParts q q' := by
  obtain ⟨words, hcolumns, -⟩ := hw.columns
  obtain ⟨words', hcolumns', -⟩ := hw'.columns
  rw [be.read_sql_eq_layout hq hcolumns hs, be.read_sql_eq_layout hq' hcolumns' hs',
    String.append_right_inj]
  constructor
  · intro h
    exact sameParts_of_readItems_eq hq hq' hw hw' hdistinct hdistinct'
      (layout_injective (clean_readItems hq hw) (clean_readItems hq' hw') h)
  · intro h
    rw [h.readItems_eq]

end Backend

namespace Builder

/-- **Reads are faithful.** After two runs of calls on builders of one database, whatever the
arguments and outcomes of the calls were, the queries can be read, and their texts are the same only
if the queries are the same in all but the values of filters: in the table, the flag for duplicates,
the projection, the columns and written operators of the filters, the order, the limit and the
offset. Table and columns may be spelled like keywords; they only must have no spaces and commas. -/
theorem read_faithful_of_run (be : Backend) {σ σ' : Type} (execute : Executor σ)
    (execute' : Executor σ') (s : σ) (s' : σ') (model model' : Option RowModel)
    (table table' : Value) (calls calls' : List Call) :
    let q := ((fresh be.dialect model table).performAll execute s calls).builder.query
    let q' := ((fresh be.dialect model' table').performAll execute' s' calls').builder.query
    q.Worded → q'.Worded →
      ∃ text text', Statement.read be.dialect q = .ok text ∧
        Statement.read be.dialect q' = .ok text' ∧
          (text.sql = text'.sql ↔ be.SameParts q q') := by
  intro q q' hw hw'
  have hsound := sound_of_fresh be.dialect model table calls
  have hsound' := sound_of_fresh be.dialect model' table' calls'
  have hdistinct := (projects_any_of_fresh be.dialect model table calls).distinct
  have hdistinct' := (projects_any_of_fresh be.dialect model' table' calls').distinct
  rw [← performAll_builder execute calls _ s] at hsound hdistinct
  rw [← performAll_builder execute' calls' _ s'] at hsound' hdistinct'
  obtain ⟨words, hcolumns, -⟩ := hw.columns
  obtain ⟨words', hcolumns', -⟩ := hw'.columns
  obtain ⟨text, htext⟩ := hsound.exists_read hcolumns
  obtain ⟨text', htext'⟩ := hsound'.exists_read hcolumns'
  exact ⟨text, text', htext, htext',
    Backend.read_sql_eq_iff hsound hsound' hw hw' hdistinct hdistinct' htext htext'⟩

/-- A column that is spelled like the keyword for leaving out duplicates does not leave out any,
not even from a table that is spelled like a keyword itself. -/
theorem read_faithful_of_keywords :
    let q : Query := { table := .text "FROM", distinct := .bool true }
    let q' : Query := { table := .text "FROM", columns := .list [.text "DISTINCT"] }
    ∃ text text', Statement.read .sqlite q = .ok text ∧ Statement.read .sqlite q' = .ok text' ∧
      text.sql ≠ text'.sql := by
  intro q q'
  have hw : q.Worded := ⟨⟨"FROM", rfl, by decide⟩, ["*"], rfl, by decide⟩
  have hw' : q'.Worded := ⟨⟨"FROM", rfl, by decide⟩, ["DISTINCT"], rfl, by decide⟩
  obtain ⟨text, text', htext, htext', hsame⟩ := read_faithful_of_run .sqlite
    (fun _ s ↦ (.ok .null, s)) (fun _ s ↦ (.ok .null, s)) () () none none (.text "FROM")
    (.text "FROM") [.fluent .distinct] [.fluent (.select [.text "DISTINCT"])] hw hw'
  refine ⟨text, text', htext, htext', fun heq ↦ ?_⟩
  have hdistinct := (hsame.1 heq).distinct
  cases hdistinct

end Builder

end FluentSql
