import FluentSql.Builder.Payload
import FluentSql.Model.Catalog
import FluentSql.Proofs.Guard

/-!
# Instances of row models, and what they are dumped to

`RowModel.validate` makes an instance of a row, and a dump makes entries of an instance again. What
each of them does is said once, by `RowModel.validate_eq_ok_iff` and `Validates.asPayload_eq`, and
the question is then when a dump can be read.

* Rows hold a field under its key, and a dump holds it under its name. If keys and names are the
  same (`RowModel.Keyed`), a dump is validated to the instance that it was made of
  (`validate_shown`): what a field was given is in the dump, in the form that the field has made of
  it and takes as it is (`Field.admit_idem`); every other field is missing in the dump and falls
  back once more.
* If they are not, a field that every row must have is not found in a dump (`validate_shown_ne`).

Entries beside the fields are dumped as well, so here something is asked of them: that a dump leaves
them as they are, which it does not do with instances of other models.
-/

namespace FluentSql

/-! ### Named values -/

/-- Named values as the entries of a dictionary. -/
def namedEntries (named : List (String × Value)) : List (Value × Value) :=
  named.map fun e ↦ (.text e.1, e.2)

theorem namedEntries_append (named rest : List (String × Value)) :
    namedEntries (named ++ rest) = namedEntries named ++ namedEntries rest :=
  List.map_append

/-- Looking up a text among named values. -/
theorem lookupKey?_namedEntries (key : String) (named : List (String × Value)) :
    lookupKey? (.text key) (namedEntries named) = named.lookup key := by
  induction named with
  | nil => rfl
  | cons e rest ih =>
    have hsame : (Value.text e.1).same (.text key) = (key == e.1) := by
      rw [Bool.eq_iff_iff, Value.same_text_iff, Value.text.injEq, beq_iff_eq, eq_comm]
    have hstep : lookupKey? (.text key) (namedEntries (e :: rest)) =
        if key == e.1 then some e.2 else lookupKey? (.text key) (namedEntries rest) := by
      rw [← hsame]
      cases h : (Value.text e.1).same (.text key) <;> simp [lookupKey?, namedEntries, h]
    rw [hstep, ih, List.lookup_cons]
    cases key == e.1 <;> rfl

/-! ### Fields -/

/-- What a field holds after it has made something of a value is never null, and a dump leaves it as
it is. -/
theorem FieldKind.plain_of_admit_ok {kind : FieldKind} {v w : Value} (h : kind.admit v = .ok w) :
    w.plain = w ∧ w ≠ .null := by
  cases kind with
  | text =>
    obtain ⟨s, -, rfl⟩ := map_eq_ok_iff.1 h
    exact ⟨rfl, nofun⟩
  | integer atLeast =>
    obtain ⟨n, -, hn⟩ := bind_eq_ok_iff.1 h
    obtain rfl : w = .int n := by
      cases atLeast with
      | none => exact (Except.ok.inj hn).symm
      | some bound =>
        dsimp only at hn
        split at hn
        · exact (Except.ok.inj hn).symm
        · cases hn
    exact ⟨rfl, nofun⟩
  | number positive =>
    obtain ⟨x, -, hx⟩ := bind_eq_ok_iff.1 h
    split at hx
    · cases hx
    · obtain rfl := Except.ok.inj hx
      exact ⟨rfl, nofun⟩

/-- What a field has made of a value, it takes as it is. -/
theorem FieldKind.admit_idem {kind : FieldKind} {v w : Value} (h : kind.admit v = .ok w) :
    kind.admit w = .ok w := by
  cases kind with
  | text =>
    obtain ⟨s, -, rfl⟩ := map_eq_ok_iff.1 h
    rfl
  | integer atLeast =>
    obtain ⟨n, -, hn⟩ := bind_eq_ok_iff.1 h
    cases atLeast with
    | none =>
      obtain rfl := Except.ok.inj hn
      rfl
    | some bound =>
      dsimp only at hn
      split at hn
      · next hbound =>
        obtain rfl := Except.ok.inj hn
        exact bind_eq_ok_iff.2 ⟨n, rfl, by simp [hbound, pure, Except.pure]⟩
      · cases hn
  | number positive =>
    obtain ⟨x, -, hx⟩ := bind_eq_ok_iff.1 h
    split at hx
    · cases hx
    · next hpositive =>
      obtain rfl := Except.ok.inj hx
      exact bind_eq_ok_iff.2 ⟨x, rfl, by simp [hpositive, pure, Except.pure]⟩

/-- A field holds null if it may, and otherwise what its kind makes of a value. -/
theorem Field.admit_eq_ok_iff {f : Field} {v w : Value} :
    f.admit v = .ok w ↔
      (v = .null ∧ f.nullable = true ∧ w = .null) ∨
        ((v = .null → f.nullable = false) ∧ f.kind.admit v = .ok w) := by
  by_cases hv : v = .null
  · subst hv
    cases hnullable : f.nullable <;> simp [hnullable, Field.admit, eq_comm (b := w)]
  · have hkind : f.admit v = f.kind.admit v := by
      unfold Field.admit
      split
      · exact absurd rfl hv
      · rfl
    simp [hv, hkind]

theorem Field.plain_of_admit_ok {f : Field} {v w : Value} (h : f.admit v = .ok w) :
    w.plain = w := by
  rcases Field.admit_eq_ok_iff.1 h with ⟨-, -, rfl⟩ | ⟨-, hkind⟩
  · rfl
  · exact (FieldKind.plain_of_admit_ok hkind).1

theorem Field.admit_idem {f : Field} {v w : Value} (h : f.admit v = .ok w) : f.admit w = .ok w := by
  rcases Field.admit_eq_ok_iff.1 h with ⟨rfl, -, rfl⟩ | ⟨-, hkind⟩
  · exact h
  · exact Field.admit_eq_ok_iff.2 (Or.inr
      ⟨fun hnull ↦ absurd hnull (FieldKind.plain_of_admit_ok hkind).2, FieldKind.admit_idem hkind⟩)

/-- The value of a field is what it makes of the one in the row, or the one that it falls back on.
-/
theorem Field.read_eq_ok_iff {f : Field} {row : List (Value × Value)} {w : Value} :
    f.read row = .ok w ↔
      (∃ v, lookupKey? (.text f.key) row = some v ∧ f.admit v = .ok w) ∨
        (lookupKey? (.text f.key) row = none ∧ f.fallback = some w) := by
  unfold Field.read
  cases hlookup : lookupKey? (.text f.key) row with
  | none => cases f.fallback <;> simp
  | some v => cases hmade : f.admit v <;> simp [hmade]

/-! ### Instances -/

section Attempts

variable {ε α : Type}

@[simp]
theorem successes_map_ok (as : List α) : successes (as.map (.ok : α → Except ε α)) = as := by
  induction as with
  | nil => rfl
  | cons a as ih => exact congrArg (a :: ·) ih

/-- Nothing fails if all attempts have succeeded. -/
theorem failures_eq_nil_iff {attempts : List (Except ε α)} :
    failures attempts = [] ↔ ∃ as : List α, attempts = as.map .ok := by
  induction attempts with
  | nil => simp [failures]
  | cons a rest ih =>
    cases a with
    | error e =>
      refine ⟨nofun, ?_⟩
      rintro ⟨as, has⟩
      cases as <;> simp at has
    | ok a =>
      refine (show failures (.ok a :: rest) = [] ↔ _ from ih).trans ⟨?_, ?_⟩
      · rintro ⟨as, rfl⟩
        exact ⟨a :: as, rfl⟩
      · rintro ⟨as, has⟩
        cases as with
        | nil => simp at has
        | cons _ as => exact ⟨as, (List.cons.inj has).2⟩

end Attempts

namespace RowModel

/-- What validation makes of a row: every field has a value, every further entry that counts is
kept, and it is remembered what was given. -/
structure Validates (m : RowModel) (row : List (Value × Value))
    (fields extras : List (String × Value)) (given : List String) : Prop where
  reads : List.Forall₂ (fun f e ↦ e.1 = f.name ∧ f.read row = .ok e.2) m.fields fields
  keeps : m.readExtras row = extras.map .ok
  given_eq : given = (m.fields.filter (·.isGiven row)).map Field.name ++ extras.map Prod.fst

theorem readFields_eq_ok_iff {m : RowModel} {row : List (Value × Value)}
    {fields : List (String × Value)} :
    m.readFields row = fields.map .ok ↔
      List.Forall₂ (fun f e ↦ e.1 = f.name ∧ f.read row = .ok e.2) m.fields fields := by
  unfold readFields
  generalize m.fields = fs
  induction fs generalizing fields with
  | nil => cases fields <;> simp
  | cons f fs ih =>
    cases fields with
    | nil => simp
    | cons e fields =>
      rw [List.map_cons, List.map_cons, List.cons.injEq, ih, List.forall₂_cons, map_eq_ok_iff]
      refine and_congr_left fun _ ↦ ⟨?_, ?_⟩
      · rintro ⟨w, hw, rfl⟩
        exact ⟨rfl, hw⟩
      · rintro ⟨hname, hw⟩
        exact ⟨e.2, hw, Prod.ext hname rfl⟩

/-- A row is validated if all its parts are. -/
theorem validate_eq_ok_iff {m : RowModel} {row : List (Value × Value)} {v : Value} :
    m.validate row = .ok v ↔
      ∃ fields extras given, v = .record m.name fields extras given ∧
        m.Validates row fields extras given := by
  have hissues : (failures (m.readFields row) ++ failures (m.readExtras row)).isEmpty = true ↔
      (∃ fields : List (String × Value), m.readFields row = fields.map .ok) ∧
        ∃ extras : List (String × Value), m.readExtras row = extras.map .ok := by
    rw [List.isEmpty_iff, List.append_eq_nil_iff, failures_eq_nil_iff, failures_eq_nil_iff]
  unfold validate
  dsimp only
  constructor
  · intro h
    by_cases hall : (failures (m.readFields row) ++ failures (m.readExtras row)).isEmpty = true
    · obtain ⟨⟨fields, hfields⟩, extras, hkeeps⟩ := hissues.1 hall
      rw [if_pos hall, hfields, hkeeps, successes_map_ok, successes_map_ok] at h
      exact ⟨fields, extras, _, (Except.ok.inj h).symm, readFields_eq_ok_iff.1 hfields, hkeeps, rfl⟩
    · rw [if_neg hall] at h
      cases h
  · rintro ⟨fields, extras, given, rfl, hreads, hkeeps, rfl⟩
    have hfields := readFields_eq_ok_iff.2 hreads
    rw [if_pos (hissues.2 ⟨⟨fields, hfields⟩, extras, hkeeps⟩), hfields, hkeeps, successes_map_ok,
      successes_map_ok]

/-! ### Dumps -/

/-- The fields are held in rows under their names. -/
def Keyed (m : RowModel) : Prop :=
  ∀ f ∈ m.fields, f.key = f.name

instance (m : RowModel) : Decidable m.Keyed :=
  List.decidableBAll _ m.fields

/-- The named values that a dump shows: those that were given. -/
def shown (fields extras : List (String × Value)) (given : List String) : List (String × Value) :=
  (fields ++ extras).filter fun e ↦ given.contains e.1

theorem claims_text_iff {m : RowModel} {key : String} :
    m.claims (.text key) = true ↔ ∃ f ∈ m.fields, f.key = key := by
  simp [claims, Value.same_text_iff]

theorem plainFields_eq {given : List String} {named : List (String × Value)}
    (h : ∀ e ∈ named, given.contains e.1 = true → e.2.plain = e.2) :
    plainFields given named = named.filter fun e ↦ given.contains e.1 := by
  induction named with
  | nil => simp [plainFields]
  | cons e rest ih =>
    obtain ⟨he, hrest⟩ := List.forall_mem_cons.1 h
    rw [plainFields, List.filter_cons, ih hrest]
    split
    · next hgiven => rw [he hgiven]
    · rfl

namespace Validates

variable {m : RowModel} {row : List (Value × Value)} {fields extras : List (String × Value)}
  {given : List String}

theorem names (h : m.Validates row fields extras given) : fields.map Prod.fst = m.columns := by
  obtain ⟨hreads, -, -⟩ := h
  unfold columns
  generalize m.fields = fs at hreads
  induction hreads with
  | nil => rfl
  | cons he _ ih => rw [List.map_cons, List.map_cons, ih, he.1]

/-- An entry beside the fields is kept only if the model keeps such entries, and no field has its
key. -/
theorem of_mem_extras (h : m.Validates row fields extras given) {e : String × Value}
    (he : e ∈ extras) : m.extras = .kept ∧ m.claims (.text e.1) = false := by
  have hmem : (.ok e : Except Issue (String × Value)) ∈ m.readExtras row :=
    h.keeps ▸ List.mem_map_of_mem he
  unfold readExtras at hmem
  split at hmem
  · simp at hmem
  · next hignored =>
    obtain ⟨⟨key, v⟩, hentry, hread⟩ := List.mem_map.1 hmem
    have hunclaimed := (List.mem_filter.1 hentry).2
    unfold readExtra at hread
    cases key with
    | text name =>
      dsimp only at hread hunclaimed
      split at hread
      · cases hread
      · next hforbidden =>
        obtain rfl := Except.ok.inj hread
        refine ⟨?_, by simpa using hunclaimed⟩
        cases hextras : m.extras with
        | ignored => simp [hextras] at hignored
        | kept => rfl
        | forbidden => simp [hextras] at hforbidden
    | _ => cases hread

/-- A field is among what was given if the row holds it, and if no further entry has its name. -/
theorem contains_given (h : m.Validates row fields extras given) (hnodup : m.columns.Nodup)
    {f : Field} (hf : f ∈ m.fields) (hname : f.name ∉ extras.map Prod.fst) :
    given.contains f.name = f.isGiven row := by
  rw [Bool.eq_iff_iff, List.contains_iff_mem, h.given_eq, List.mem_append]
  constructor
  · rintro (hmem | hmem)
    · obtain ⟨g, hg, hsame⟩ := List.mem_map.1 hmem
      obtain ⟨hgmem, hgiven⟩ := List.mem_filter.1 hg
      obtain rfl := List.inj_on_of_nodup_map hnodup hgmem hf hsame
      exact hgiven
    · exact absurd hmem hname
  · intro hgiven
    exact Or.inl (List.mem_map_of_mem (List.mem_filter.2 ⟨hf, hgiven⟩))

/-- No further entry has the name of a field if the names are the keys, nor if there are no further
entries. -/
theorem name_not_mem_extras (h : m.Validates row fields extras given)
    (hm : m.Keyed ∨ m.extras ≠ .kept) {f : Field} (hf : f ∈ m.fields) :
    f.name ∉ extras.map Prod.fst := by
  intro hmem
  obtain ⟨e, he, hname⟩ := List.mem_map.1 hmem
  obtain ⟨hkept, hunclaimed⟩ := h.of_mem_extras he
  rcases hm with hkeyed | hextras
  · have hclaimed := claims_text_iff.2 ⟨f, hf, hkeyed f hf⟩
    rw [← hname, hunclaimed] at hclaimed
    cases hclaimed
  · exact hextras hkept

/-- The value of a given field was made by the field, so a dump shows it as it is. -/
theorem plain_of_given (h : m.Validates row fields extras given) (hnodup : m.columns.Nodup)
    (hm : m.Keyed ∨ m.extras ≠ .kept) {e : String × Value} (he : e ∈ fields)
    (hgiven : given.contains e.1 = true) : e.2.plain = e.2 := by
  obtain ⟨j, hj⟩ := List.mem_iff_getElem?.1 he
  obtain ⟨f, hf, hname, hread⟩ := exists_of_forall₂ h.reads.flip hj
  have hmem := List.mem_of_getElem? hf
  rw [hname, h.contains_given hnodup hmem (h.name_not_mem_extras hm hmem)] at hgiven
  rcases Field.read_eq_ok_iff.1 hread with ⟨v, -, hmade⟩ | ⟨hlookup, -⟩
  · exact Field.plain_of_admit_ok hmade
  · simp [Field.isGiven, hlookup] at hgiven

/-- An instance is dumped to what was given to it. -/
theorem asPayload_eq (h : m.Validates row fields extras given) (hnodup : m.columns.Nodup)
    (hm : m.Keyed ∨ m.extras ≠ .kept) (hplain : ∀ e ∈ extras, e.2.plain = e.2) :
    (Value.record m.name fields extras given).asPayload =
      .ok (namedEntries (shown fields extras given)) := by
  have hfields := plainFields_eq fun e he ↦ h.plain_of_given hnodup hm he
  have hextras : plainFields given extras = _ := plainFields_eq fun e he _ ↦ hplain e he
  rw [Value.asPayload, Value.plain, hfields, hextras, shown, List.filter_append]
  rfl

/-- What is dumped has the same further entries. -/
theorem readExtras_shown (hkeyed : m.Keyed) (h : m.Validates row fields extras given) :
    m.readExtras (namedEntries (shown fields extras given)) = extras.map .ok := by
  have hkeeps := h.keeps
  unfold readExtras at hkeeps ⊢
  split at hkeeps
  · next hignored => rw [if_pos hignored, hkeeps]
  · next hignored =>
    -- The fields that are shown are claimed, and the further entries are all shown.
    have hfields : (namedEntries (fields.filter fun e ↦ given.contains e.1)).filter
        (fun e ↦ !m.claims e.1) = [] := by
      rw [List.filter_eq_nil_iff]
      intro entry hentry
      obtain ⟨e, he, rfl⟩ := List.mem_map.1 hentry
      have hname : e.1 ∈ m.columns := h.names ▸ List.mem_map_of_mem (List.mem_filter.1 he).1
      obtain ⟨f, hf, hsame⟩ := List.mem_map.1 hname
      simp [claims_text_iff.2 ⟨f, hf, (hkeyed f hf).trans hsame⟩]
    have hshown : extras.filter (fun e ↦ given.contains e.1) = extras := by
      rw [List.filter_eq_self]
      intro e he
      rw [List.contains_iff_mem, h.given_eq]
      exact List.mem_append_right _ (List.mem_map_of_mem he)
    have hextras : (namedEntries extras).filter (fun e ↦ !m.claims e.1) = namedEntries extras := by
      rw [List.filter_eq_self]
      intro entry hentry
      obtain ⟨e, he, rfl⟩ := List.mem_map.1 hentry
      simp [(h.of_mem_extras he).2]
    rw [if_neg hignored, shown, List.filter_append, hshown, namedEntries_append,
      List.filter_append, hfields, hextras, List.nil_append, namedEntries, List.map_map]
    refine List.map_congr_left fun e he ↦ ?_
    simp [readExtra, (h.of_mem_extras he).1]

section Keyed

variable (hkeyed : m.Keyed) (hnodup : m.columns.Nodup) (h : m.Validates row fields extras given)

include hkeyed hnodup h

/-- In what is dumped, a field that was given is found with its value, and no other field. -/
theorem lookup_shown {f : Field} {e : String × Value} (hf : f ∈ m.fields) (he : e ∈ fields)
    (hname : e.1 = f.name) :
    lookupKey? (.text f.key) (namedEntries (shown fields extras given)) =
      if f.isGiven row then some e.2 else none := by
  have hvalue : fields.lookup f.name = some e.2 :=
    lookup_of_mem (h.names ▸ hnodup) (hname ▸ he)
  rw [lookupKey?_namedEntries, shown, hkeyed f hf, lookup_filter_name, List.lookup_append, hvalue,
    h.contains_given hnodup hf (h.name_not_mem_extras (Or.inl hkeyed) hf)]
  rfl

/-- What is dumped is read back, field by field: those that were given have made their values
themselves, and the others fall back as before. -/
theorem reads_shown :
    List.Forall₂ (fun f e ↦ e.1 = f.name ∧
      f.read (namedEntries (shown fields extras given)) = .ok e.2) m.fields fields := by
  rw [List.forall₂_iff_zip]
  obtain ⟨hlength, hzip⟩ := List.forall₂_iff_zip.1 h.reads
  refine ⟨hlength, fun {f e} hpair ↦ ?_⟩
  obtain ⟨hname, hread⟩ := hzip hpair
  obtain ⟨hf, he⟩ := List.of_mem_zip hpair
  have hlookup := lookup_shown hkeyed hnodup h hf he hname
  refine ⟨hname, Field.read_eq_ok_iff.2 ?_⟩
  rcases Field.read_eq_ok_iff.1 hread with ⟨v, hfound, hmade⟩ | ⟨hmissing, hfallback⟩
  · refine Or.inl ⟨e.2, ?_, Field.admit_idem hmade⟩
    rw [hlookup, if_pos (by simp [Field.isGiven, hfound])]
  · refine Or.inr ⟨?_, hfallback⟩
    rw [hlookup, if_neg (by simp [Field.isGiven, hmissing])]

/-- **A dump is validated to the same instance.** -/
theorem validate_shown :
    m.validate (namedEntries (shown fields extras given)) =
      .ok (.record m.name fields extras given) := by
  refine validate_eq_ok_iff.2 ⟨fields, extras, given, rfl, reads_shown hkeyed hnodup h,
    readExtras_shown hkeyed h, ?_⟩
  have hgiven : m.fields.filter (·.isGiven (namedEntries (shown fields extras given))) =
      m.fields.filter (·.isGiven row) := by
    refine List.filter_congr fun f hf ↦ ?_
    obtain ⟨j, hj⟩ := List.mem_iff_getElem?.1 hf
    obtain ⟨e, he, hname, -⟩ := exists_of_forall₂ h.reads hj
    rw [Field.isGiven, lookup_shown hkeyed hnodup h hf (List.mem_of_getElem? he) hname]
    cases f.isGiven row <;> rfl
  rw [hgiven]
  exact h.given_eq

end Keyed

/-- A field that every row must have is not found in a dump if its key is neither the name of a
field nor kept beside the fields. -/
theorem validate_shown_ne (h : m.Validates row fields extras given) (hextras : m.extras ≠ .kept)
    {f : Field} (hf : f ∈ m.fields) (hrequired : f.fallback = none) (hkey : f.key ∉ m.columns)
    (v : Value) : m.validate (namedEntries (shown fields extras given)) ≠ .ok v := by
  intro hvalid
  obtain ⟨fields', extras', given', -, h'⟩ := validate_eq_ok_iff.1 hvalid
  have hmissing : lookupKey? (.text f.key) (namedEntries (shown fields extras given)) = none := by
    have hnone : extras = [] :=
      List.eq_nil_iff_forall_not_mem.2 fun e he ↦ hextras (h.of_mem_extras he).1
    rw [lookupKey?_namedEntries, List.lookup_eq_none_iff]
    rintro e he
    subst hnone
    rw [shown, List.append_nil] at he
    have hname : e.1 ∈ m.columns := h.names ▸ List.mem_map_of_mem (List.mem_filter.1 he).1
    rw [bne_iff_ne]
    rintro heq
    exact hkey (heq ▸ hname)
  obtain ⟨j, hj⟩ := List.mem_iff_getElem?.1 hf
  obtain ⟨e, -, -, hread⟩ := exists_of_forall₂ h'.reads hj
  rcases Field.read_eq_ok_iff.1 hread with ⟨v, hfound, -⟩ | ⟨-, hfallback⟩
  · rw [hmissing] at hfound
    cases hfound
  · rw [hrequired] at hfallback
    cases hfallback

end Validates

end RowModel

end FluentSql
