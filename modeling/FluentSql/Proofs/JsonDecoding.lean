import FluentSql.Proofs.Instance
import FluentSql.Proofs.JsonWriting
import FluentSql.Proofs.Offender

/-!
# Decoding what is bound

Reading the text that a test for membership binds in SQLite gives the members again. `Json.decode?`
reads a text as JSON and makes a value of the tree; what it gives for a member is the member's JSON
view, where tuples are lists and where calendar data, decimals and identifiers are their texts.

This holds for values in which no floating-point number occurs and the keys of dictionaries are
texts (`Value.IsDecodable`). For each of them there is a tree, the tree has no numbers but integers,
so its text means it, and it is made into the view of the value again (`IsDecodable.hasView`). A
dictionary is made of the entries of an object by inserting them one by one; since the names in it
are distinct, none is lost and the order is kept (`dictionaryOf_namedEntries`).
-/

namespace FluentSql

open FluentSql.Calendar FluentSql.Number

/-! ### Decoding -/

mutual

/-- The value that a JSON tree is read as. -/
def Json.toValue : Json → Value
  | .null => .null
  | .bool b => .bool b
  | .integer n => .int n
  | .number x => .float x
  | .text s => .text s
  | .array items => .list (itemValues items)
  | .object entries => .dictionary (dictionaryOf (namedEntries (entryValues entries)))

/-- The values that some JSON trees are read as. -/
def itemValues : List Json → List Value
  | [] => []
  | item :: rest => item.toValue :: itemValues rest

/-- The named values that the entries of an object are read as. -/
def entryValues : List (String × Json) → List (String × Value)
  | [] => []
  | (name, item) :: rest => (name, item.toValue) :: entryValues rest

end

/-- The value that a JSON text is read as. -/
def Json.decode? (s : String) : Option Value :=
  (Json.read? s.toList).map Json.toValue

/-! ### Views -/

mutual

/-- What is left of a value in JSON: a list for a tuple, and texts for what is written as a text. -/
def Value.jsonView : Value → Value
  | .collection .list members => .list (memberViews members)
  | .collection .tuple members => .list (memberViews members)
  | .dictionary entries => .dictionary (entryViews entries)
  | .date d => .text d.isoText
  | .dateTime t => .text (t.isoText "T")
  | .time t => .text t.isoText
  | .decimal d => .text d.text
  | .uuid bits => .text (uuidText bits)
  | v => v

/-- What is left of some values. -/
def memberViews : List Value → List Value
  | [] => []
  | v :: rest => v.jsonView :: memberViews rest

/-- What is left of some entries. -/
def entryViews : List (Value × Value) → List (Value × Value)
  | [] => []
  | (k, v) :: rest => (k, v.jsonView) :: entryViews rest

end

/-- A value made of null, truth values, integers, texts, calendar data, decimals and identifiers by
lists, tuples, and dictionaries with distinct texts as keys. -/
inductive Value.IsDecodable : Value → Prop where
  | null : IsDecodable .null
  | bool (b : Bool) : IsDecodable (.bool b)
  | int (n : Int) : IsDecodable (.int n)
  | text (s : String) : IsDecodable (.text s)
  | date (d : Date) : IsDecodable (.date d)
  | dateTime (t : DateTime) : IsDecodable (.dateTime t)
  | time (t : TimeOfDay) : IsDecodable (.time t)
  | decimal (d : Decimal) : IsDecodable (.decimal d)
  | uuid (bits : Nat) : IsDecodable (.uuid bits)
  | list {members : List Value} (h : ∀ v ∈ members, v.IsDecodable) : IsDecodable (.list members)
  | tuple {members : List Value} (h : ∀ v ∈ members, v.IsDecodable) : IsDecodable (.tuple members)
  | dictionary {fields : List (String × Value)} (hnames : (fields.map Prod.fst).Nodup)
    (h : ∀ f ∈ fields, f.2.IsDecodable) : IsDecodable (.dictionary (namedEntries fields))

theorem memberViews_eq (members : List Value) :
    memberViews members = members.map Value.jsonView := by
  induction members with
  | nil => rfl
  | cons v rest ih => rw [memberViews, ih, List.map_cons]

theorem entryViews_namedEntries (fields : List (String × Value)) :
    entryViews (namedEntries fields) = namedEntries (fields.map fun f ↦ (f.1, f.2.jsonView)) := by
  induction fields with
  | nil => rfl
  | cons f rest ih => exact congrArg (_ :: ·) ih

/-! ### Dictionaries -/

/-- A new name is inserted at the end. -/
theorem insertEntry_namedEntries {name : String} {v : Value} {fields : List (String × Value)}
    (h : name ∉ fields.map Prod.fst) :
    insertEntry (.text name) v (namedEntries fields) = namedEntries (fields ++ [(name, v)]) := by
  induction fields with
  | nil => rfl
  | cons f rest ih =>
    rw [List.map_cons, List.mem_cons, not_or] at h
    have hsame : ¬ (Value.text f.1).same (.text name) = true := fun hsame ↦
      h.1 (Value.text.inj (Value.same_text_iff.1 hsame)).symm
    show (if (Value.text f.1).same (.text name) then _ else _) = _
    rw [if_neg hsame]
    exact congrArg (_ :: ·) (ih h.2)

/-- Named values with distinct names are inserted one after the other. -/
theorem foldl_insertEntry_namedEntries {fields rest : List (String × Value)}
    (h : ((fields ++ rest).map Prod.fst).Nodup) :
    (namedEntries rest).foldl (fun d e ↦ insertEntry e.1 e.2 d) (namedEntries fields) =
      namedEntries (fields ++ rest) := by
  induction rest generalizing fields with
  | nil => rw [List.append_nil]; rfl
  | cons f rest ih =>
    rw [List.append_cons] at h ⊢
    have hname : f.1 ∉ fields.map Prod.fst := by
      rw [List.map_append, List.map_append] at h
      intro hmem
      exact List.disjoint_of_nodup_append (List.nodup_append.1 h).1 hmem (List.mem_singleton.2 rfl)
    rw [← ih h, ← insertEntry_namedEntries hname]
    rfl

/-- Named values with distinct names are a dictionary. -/
theorem dictionaryOf_namedEntries {fields : List (String × Value)}
    (h : (fields.map Prod.fst).Nodup) :
    dictionaryOf (namedEntries fields) = namedEntries fields := by
  have hnames : (([] ++ fields).map Prod.fst).Nodup := h
  exact foldl_insertEntry_namedEntries hnames

/-! ### Trees with a view -/

/-- The value has a tree without floating-point numbers, and the tree is read as its view. -/
def Value.HasView (v : Value) : Prop :=
  ∃ j, v.toJson = .ok j ∧ j.numbers = [] ∧ j.toValue = v.jsonView

theorem exists_items_of_hasView {members : List Value} (h : ∀ v ∈ members, v.HasView) :
    ∃ items, toJsonItems members = .ok items ∧ Json.itemNumbers items = [] ∧
      itemValues items = memberViews members := by
  induction members with
  | nil => exact ⟨[], rfl, rfl, rfl⟩
  | cons v rest ih =>
    rw [List.forall_mem_cons] at h
    obtain ⟨j, hj, hnumbers, hvalue⟩ := h.1
    obtain ⟨items, hitems, hnumbers', hvalues⟩ := ih h.2
    refine ⟨j :: items, ?_, ?_, ?_⟩
    · rw [toJsonItems, hj, hitems]
      rfl
    · rw [Json.itemNumbers, hnumbers, hnumbers', List.append_nil]
    · rw [itemValues, hvalue, hvalues, memberViews]

theorem exists_entries_of_hasView {fields : List (String × Value)} (h : ∀ f ∈ fields, f.2.HasView) :
    ∃ entries, toJsonEntries (namedEntries fields) = .ok entries ∧
      Json.entryNumbers entries = [] ∧
      entryValues entries = fields.map fun f ↦ (f.1, f.2.jsonView) := by
  induction fields with
  | nil => exact ⟨[], rfl, rfl, rfl⟩
  | cons f rest ih =>
    rw [List.forall_mem_cons] at h
    obtain ⟨j, hj, hnumbers, hvalue⟩ := h.1
    obtain ⟨entries, hentries, hnumbers', hvalues⟩ := ih h.2
    refine ⟨(f.1, j) :: entries, ?_, ?_, ?_⟩
    · show toJsonEntries ((.text f.1, f.2) :: namedEntries rest) = _
      rw [toJsonEntries, hj, hentries]
      rfl
    · rw [Json.entryNumbers, hnumbers, hnumbers', List.append_nil]
    · rw [entryValues, hvalue, hvalues, List.map_cons]

/-- Every such value has a tree that is read as its view. -/
theorem Value.IsDecodable.hasView {v : Value} (h : v.IsDecodable) : v.HasView := by
  induction h with
  | null | bool | int | text | date | dateTime | time | decimal | uuid =>
    exact ⟨_, rfl, rfl, rfl⟩
  | list _ ih =>
    obtain ⟨items, hitems, hnumbers, hvalues⟩ := exists_items_of_hasView ih
    exact ⟨.array items, by rw [toJson, hitems]; rfl, by rwa [Json.numbers],
      by rw [Json.toValue, hvalues, jsonView]⟩
  | tuple _ ih =>
    obtain ⟨items, hitems, hnumbers, hvalues⟩ := exists_items_of_hasView ih
    exact ⟨.array items, by rw [toJson, hitems]; rfl, by rwa [Json.numbers],
      by rw [Json.toValue, hvalues, jsonView]⟩
  | @dictionary fields hnames _ ih =>
    obtain ⟨entries, hentries, hnumbers, hvalues⟩ := exists_entries_of_hasView ih
    refine ⟨.object entries, by rw [toJson, hentries]; rfl, by rwa [Json.numbers], ?_⟩
    have hnames' : ((fields.map fun f ↦ (f.1, f.2.jsonView)).map Prod.fst).Nodup := by
      rwa [List.map_map]
    rw [Json.toValue, hvalues, dictionaryOf_namedEntries hnames', jsonView, entryViews_namedEntries]

namespace Dialect

/-- **Decoding gives the members again.** If the members of a value are made of null, truth values,
integers, texts, lists, tuples, dictionaries with texts as keys, calendar data, decimals and
identifiers, then a test for membership binds a text of ASCII characters in SQLite, and reading this
text as JSON gives the list of the members in order, each as its JSON view. -/
theorem decode?_bind_membership {column value : Value} {members : List Value}
    (hmembers : value.members = .ok members) (hdata : ∀ v ∈ members, v.IsDecodable) :
    ∃ s, sqlite.bind (membershipFilter column value) = .ok (.text s) ∧
      Json.IsAscii s.toList ∧ Json.decode? s = some (.list (members.map Value.jsonView)) := by
  obtain ⟨items, hitems, hnumbers, hvalues⟩ :=
    exists_items_of_hasView fun v hv ↦ (hdata v hv).hasView
  have hread : Json.read? (Json.array items).chars = some (.array items) :=
    Json.read?_eq_some_iff.2 (Json.denotes_chars (by rwa [Json.numbers]))
  refine ⟨(Json.array items).render, ?_, ?_, ?_⟩
  · rw [bind_membershipFilter hmembers, hitems]
  · rw [Json.render, String.toList_ofList]
    exact Json.isAscii_chars _
  · rw [Json.decode?, Json.render, String.toList_ofList, hread, Option.map_some, Json.toValue,
      hvalues, memberViews_eq]

/-- A tuple comes back as a list, a day as its text, and nothing is lost below an object: a name of
two characters that are escaped, one of them by a pair of code units, and an empty list. -/
theorem decode?_bind_membership_nested :
    let value : Value := .tuple [.tuple [.int (-7), .bool false, .date ⟨2024, 2, 29⟩],
      .dictionary [(.text "\n😀", .null), (.text "", .list [])]]
    Guard.value (.text "c") (.text Guard.membership) value = .ok () ∧
      ∃ s, sqlite.bind (membershipFilter (.text "c") value) = .ok (.text s) ∧
        Json.decode? s = some (.list [.list [.int (-7), .bool false, .text "2024-02-29"],
          .dictionary [(.text "\n😀", .null), (.text "", .list [])]]) := by
  intro value
  have hdata : ∀ v ∈ [Value.tuple [.int (-7), .bool false, .date ⟨2024, 2, 29⟩],
      .dictionary (namedEntries [("\n😀", .null), ("", .list [])])], v.IsDecodable := by
    simp only [List.forall_mem_cons]
    refine ⟨.tuple ?_, .dictionary (by decide) ?_, nofun⟩
    · simp only [List.forall_mem_cons]
      exact ⟨.int _, .bool _, .date _, nofun⟩
    · simp only [List.forall_mem_cons]
      exact ⟨.null, .list nofun, nofun⟩
  obtain ⟨s, hbind, -, hdecode⟩ := @decode?_bind_membership (.text "c") value _ rfl hdata
  have hdate : Date.isoText ⟨2024, 2, 29⟩ = "2024-02-29" := by decide
  refine ⟨Guard.value_eq_ok_iff.2 fun _ ↦ rfl, s, hbind, ?_⟩
  rw [hdecode, ← hdate]
  rfl

end Dialect

end FluentSql
