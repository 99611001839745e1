import FluentSql.Builder.Application
import FluentSql.Proofs.Independence
import FluentSql.Proofs.Request
import Mathlib.Data.List.Sort
import Mathlib.Data.String.Basic

/-!
# The last registration of a name prevails

A registry is a list of entries that is changed in place. What is meant by it is a map: a name has
the dialect that was registered last under it, and the names are those that were registered.

* `Registry.Records` is the invariant over all registrations. A registration changes the entry of
  its name or adds one at the end, so no name is entered twice, and an entry of another name is
  found as before (`find?_put`).
* The names are listed by putting one after the other where it belongs. As no name is entered twice,
  that is insertion sort, and the list increases strictly (`sortValues_texts`).
* A builder asks the registry once, when it is made. What is registered later is no move of its
  family, so its family becomes what it would become without (`becomes_of_run`); and no member of
  a family has another dialect than its root (`Family.dialect_of_run`).
-/

namespace FluentSql

/-! ### Names in order -/

/-- A new name is put where it belongs. -/
theorem insertSorted_text {s : String} {words : List String} (hs : s ∉ words) :
    insertSorted (.text s) (words.map .text) =
      .ok ((words.orderedInsert (· ≤ ·) s).map .text) := by
  induction words with
  | nil => rfl
  | cons w rest ih =>
    obtain ⟨hne, hrest⟩ := not_or.1 (List.mem_cons.not.1 hs)
    have hprecedes : (Value.text s).precedes (.text w) = .ok (decide (s < w)) := rfl
    have hle : s ≤ w ↔ s < w := ⟨fun h ↦ lt_of_le_of_ne h hne, le_of_lt⟩
    rw [List.map_cons, insertSorted, hprecedes, ih hrest]
    by_cases hlt : s < w
    · simp [hlt, hle, bind, Except.bind, pure, Except.pure]
    · simp [hlt, hle, bind, Except.bind, pure, Except.pure]

/-- Names without repetitions are sorted by insertion. -/
theorem sortValues_texts {words : List String} (h : words.Nodup) :
    sortValues (words.map .text) =
      .ok ((words.reverse.insertionSort (· ≤ ·)).map .text) := by
  induction words using List.reverseRecOn with
  | nil => rfl
  | append_singleton words s ih =>
    rw [← List.concat_eq_append, List.nodup_concat] at h
    obtain ⟨hs, hwords⟩ := h
    have hsorted : s ∉ words.reverse.insertionSort (· ≤ ·) := by
      rwa [(List.perm_insertionSort _ _).mem_iff, List.mem_reverse]
    have ih := ih hwords
    rw [sortValues] at ih
    rw [sortValues, List.map_append, List.foldlM_append, ih, List.reverse_append]
    show (insertSorted (.text s) _ >>= fun sorted ↦ pure sorted) = _
    rw [bind_pure, insertSorted_text hsorted]
    rfl

/-- Names without repetitions are listed in strictly increasing order. -/
theorem exists_sorted_texts {words : List String} (h : words.Nodup) :
    ∃ sorted : List String, sortValues (words.map .text) = .ok (sorted.map .text) ∧
      sorted.Pairwise (· < ·) ∧ ∀ w, w ∈ sorted ↔ w ∈ words := by
  have hperm := (List.perm_insertionSort (· ≤ ·) words.reverse).trans (List.reverse_perm words)
  have hstrict := List.sortedLE_insertionSort.sortedLT_of_nodup (hperm.nodup_iff.2 h)
  exact ⟨_, sortValues_texts h, hstrict.pairwise, fun _ ↦ hperm.mem_iff⟩

/-! ### Registries -/

/-- The dialect that was registered last under a name. -/
def lastRegistered (all : List (String × Dialect)) (name : String) : Option Dialect :=
  all.reverse.lookup name

theorem lastRegistered_concat (all : List (String × Dialect)) (name other : String) (d : Dialect) :
    lastRegistered (all ++ [(name, d)]) other =
      if other = name then some d else lastRegistered all other := by
  rw [lastRegistered, List.reverse_concat, List.lookup_cons, lastRegistered]
  by_cases h : other = name
  · rw [if_pos h, beq_iff_eq.2 h]
  · rw [if_neg h, beq_eq_false_iff_ne.2 h]

theorem lastRegistered_eq_none_iff {all : List (String × Dialect)} {name : String} :
    lastRegistered all name = none ↔ name ∉ all.map Prod.fst := by
  rw [lastRegistered, List.lookup_eq_none_iff, ← List.forall_mem_ne]
  simp

namespace Registry

theorem find?_cons (n : Value) (c : Blueprint) (rest : List (Value × Blueprint)) (name : Value) :
    find? { entries := (n, c) :: rest } name =
      if n.same name then some c else find? { entries := rest } name := by
  rw [find?, List.find?_cons]
  cases n.same name <;> rfl

/-- A registration changes what is found under its name, and nothing else. -/
theorem find?_put (name other : String) (b : Blueprint) (entries : List (Value × Blueprint)) :
    find? { entries := put (.text name) b entries } (.text other) =
      if other = name then some b else find? { entries } (.text other) := by
  have htext : ∀ s t : String, (Value.text s).same (.text t) = true ↔ t = s := fun s t ↦ by
    rw [Value.same_text_iff, Value.text.injEq, eq_comm]
  induction entries with
  | nil =>
    rw [put, find?_cons]
    simp only [htext]
  | cons e rest ih =>
    obtain ⟨n, c⟩ := e
    by_cases hname : n.same (.text name) = true
    · obtain rfl := Value.same_text_iff.1 hname
      rw [put, if_pos hname, find?_cons, find?_cons]
      simp only [htext]
      split <;> rfl
    · rw [put, if_neg hname, find?_cons, find?_cons, ih]
      by_cases hother : n.same (.text other) = true
      · have hne : other ≠ name := fun h ↦ hname (h ▸ hother)
        rw [if_pos hother, if_neg hne, if_pos hother]
      · rw [if_neg hother, if_neg hother]

/-- The names after a registration: a new name comes last, and any other keeps its place. -/
theorem put_fst (name : String) (b : Blueprint) {entries : List (Value × Blueprint)}
    {words : List String} (h : entries.map Prod.fst = words.map .text) :
    (put (.text name) b entries).map Prod.fst =
      (if name ∈ words then words else words ++ [name]).map .text := by
  induction entries generalizing words with
  | nil =>
    obtain rfl : words = [] := by simpa [eq_comm] using h
    rfl
  | cons e rest ih =>
    obtain ⟨n, c⟩ := e
    cases words with
    | nil => cases h
    | cons w words =>
      obtain ⟨rfl, hrest⟩ := List.cons.inj h
      rw [put]
      by_cases hw : w = name
      · simp [hw, Value.same_text_iff, hrest]
      · have hsame : ¬ (Value.text w).same (.text name) = true := by
          rwa [Value.same_text_iff, Value.text.injEq]
        have hmem : name ∈ w :: words ↔ name ∈ words := by simp [Ne.symm hw]
        rw [if_neg hsame, List.map_cons, ih hrest]
        simp only [hmem]
        split <;> rfl

/-! ### Registrations -/

/-- What a registry is after some registrations: the names are those that were registered, none is
entered twice, and under each one the last dialect is found. -/
structure Records (all : List (String × Dialect)) (r : Registry) : Prop where
  names : ∃ words : List String, r.entries.map Prod.fst = words.map .text ∧ words.Nodup ∧
    ∀ name, name ∈ words ↔ name ∈ all.map Prod.fst
  find? : ∀ name, r.find? (.text name) = (lastRegistered all name).map .complete

/-- The dialects that the library registers itself. -/
def builtIn : List (String × Dialect) :=
  [("postgres", .postgres), ("sqlite", .sqlite)]

variable {all : List (String × Dialect)} {r : Registry} {name : String} {d : Dialect}

/-- A registration is one more registration. -/
theorem Records.register (h : Records all r) (name : String) (d : Dialect) :
    ∃ r', r.register (.text name) (.complete d) = .ok r' ∧ Records (all ++ [(name, d)]) r' := by
  refine ⟨{ entries := put (.text name) (.complete d) r.entries }, rfl, ?_, fun other ↦ ?_⟩
  · obtain ⟨words, hwords, hnodup, hmem⟩ := h.names
    have hall : ∀ other, other ∈ (all ++ [(name, d)]).map Prod.fst ↔ other ∈ words ∨ other = name :=
      fun other ↦ by simp [hmem]
    refine ⟨_, put_fst name _ hwords, ?_, fun other ↦ ?_⟩
    · split
      · exact hnodup
      · next hnew => exact List.concat_eq_append ▸ hnodup.concat hnew
    · rw [hall]
      split
      · next hold => exact ⟨Or.inl, fun h ↦ h.elim id fun heq ↦ heq ▸ hold⟩
      · rw [List.mem_append, List.mem_singleton]
  · rw [find?_put, lastRegistered_concat, h.find?]
    split <;> rfl

theorem records_initial : Records builtIn .initial where
  names := ⟨["postgres", "sqlite"], rfl, by decide, fun _ ↦ Iff.rfl⟩
  find? := by
    intro name
    have hlast : lastRegistered builtIn name =
        if name = "sqlite" then some .sqlite
        else if name = "postgres" then some .postgres else none := by
      rw [builtIn, ← List.singleton_append, ← List.nil_append [("postgres", Dialect.postgres)],
        lastRegistered_concat, lastRegistered_concat]
      rfl
    rw [initial, find?_cons, find?_cons, hlast]
    simp only [Value.same_text_iff, Value.text.injEq, eq_comm (b := name)]
    by_cases hpostgres : name = "postgres"
    · subst hpostgres
      rfl
    · rw [if_neg hpostgres, if_neg hpostgres]
      split <;> rfl

/-- The names are listed in strictly increasing order. -/
theorem Records.exists_names (h : Records all r) :
    ∃ names : List String, r.names = .ok (names.map .text) ∧ names.Pairwise (· < ·) ∧
      ∀ name, name ∈ names ↔ name ∈ all.map Prod.fst := by
  obtain ⟨words, hwords, hnodup, hmem⟩ := h.names
  obtain ⟨sorted, hsorted, hstrict, hperm⟩ := exists_sorted_texts hnodup
  refine ⟨sorted, ?_, hstrict, fun name ↦ (hperm name).trans (hmem name)⟩
  rw [Registry.names, hwords, hsorted]

/-- The fault of an unknown name can always be written. -/
theorem Records.exists_unknown (h : Records all r) (name : Value) :
    ∃ message, r.unknown name = .compilation message .null := by
  obtain ⟨names, hnames, -⟩ := h.exists_names
  have htexts : (r.names >>= textsFrom 0) = .ok names := by
    rw [hnames]
    exact textsFrom_eq_ok_iff.2 rfl
  rw [unknown, htexts]
  exact ⟨_, rfl⟩

/-- What is made for a name is the dialect that was registered last under it, if there is one. -/
theorem Records.create_eq (h : Records all r) (name : String) :
    r.create (.text name) =
      (lastRegistered all name).elim (.error (r.unknown (.text name))) .ok := by
  have hkey : (Value.text name).asKey = .ok (.text name) := rfl
  simp only [create, hkey, h.find?]
  cases lastRegistered all name <;> rfl

theorem Records.create_eq_ok_iff (h : Records all r) :
    r.create (.text name) = .ok d ↔ lastRegistered all name = some d := by
  rw [h.create_eq]
  cases lastRegistered all name <;> simp

/-- There is no dialect for a name that was never registered, and for no other. -/
theorem Records.create_fails_iff (h : Records all r) :
    (∃ message, r.create (.text name) = .error (.compilation message .null)) ↔
      name ∉ all.map Prod.fst := by
  obtain ⟨message, hmessage⟩ := h.exists_unknown (.text name)
  rw [← lastRegistered_eq_none_iff, h.create_eq, hmessage]
  cases lastRegistered all name <;> simp

/-- A registry is a map in which the last registration of a name prevails. -/
structure LastPrevails (all : List (String × Dialect)) (r : Registry) : Prop where
  /-- A name has the dialect that was registered last under it. -/
  create : ∀ name d, r.create (.text name) = .ok d ↔ lastRegistered all name = some d
  /-- A name has none if it was never registered. -/
  unknown : ∀ name, (∃ message, r.create (.text name) = .error (.compilation message .null)) ↔
    name ∉ all.map Prod.fst
  /-- The names that were registered are listed in order, each of them once. -/
  names : ∃ names : List String, r.names = .ok (names.map .text) ∧ names.Pairwise (· < ·) ∧
    ∀ name, name ∈ names ↔ name ∈ all.map Prod.fst
  /-- One more registration changes the dialect of its own name only. -/
  register : ∀ name d, ∃ r', r.register (.text name) (.complete d) = .ok r' ∧
    r'.create (.text name) = .ok d ∧ ∀ other, other ≠ name → ∀ e,
      r'.create (.text other) = .ok e ↔ r.create (.text other) = .ok e

theorem Records.lastPrevails (h : Records all r) : LastPrevails all r where
  create _ _ := h.create_eq_ok_iff
  unknown _ := h.create_fails_iff
  names := h.exists_names
  register name d := by
    obtain ⟨r', hr', hrecords⟩ := h.register name d
    refine ⟨r', hr', ?_, fun other hother e ↦ ?_⟩
    · rw [hrecords.create_eq_ok_iff, lastRegistered_concat, if_pos rfl]
    · rw [hrecords.create_eq_ok_iff, lastRegistered_concat, if_neg hother, h.create_eq_ok_iff]

end Registry

/-! ### Families -/

/-- All members of a family have the dialect of its root. -/
theorem Family.dialect_of_run {b : Builder} {moves : List Move} {family : Family}
    (h : (root b).run? moves = some family) {m : Member} (hm : m ∈ family.members) :
    m.builder.dialect = b.dialect := by
  obtain ⟨i, hi⟩ := List.mem_iff_getElem?.1 hm
  obtain ⟨o, ho, halone⟩ := (apart_of_run h).exists_origin hi
  have hsame := congrArg Builder.dialect (Member.receiveAll_reset halone)
  have horigin := origins_dialect (List.mem_of_getElem? ho)
  exact hsame.trans horigin

/-! ### Applications -/

namespace Application

/-- The dialect that an event registers, with its name. -/
def Event.registration? : Event → Option (String × Dialect)
  | .register name d => some (name, d)
  | _ => none

/-- The event is an attempt to make a builder. -/
def Event.isMake : Event → Bool
  | .make .. => true
  | _ => false

/-- What an event is to the family of an attempt. -/
def Event.moveOf? (i : ℕ) : Event → Option Move
  | .move j m => if j = i then some m else none
  | _ => none

/-- The registrations among some events. -/
def registrations (events : List Event) : List (String × Dialect) :=
  events.filterMap Event.registration?

/-- The moves of one family among some events. -/
def movesOf (i : ℕ) (events : List Event) : List Move :=
  events.filterMap (Event.moveOf? i)

/-- What has become of an attempt after some moves: a failure stays one, and a family is what the
moves make of it. -/
def Becomes (moves : List Move) : Except Fault Family → Except Fault Family → Prop
  | .error f, attempt => attempt = .error f
  | .ok family, attempt => ∃ family', family.run? moves = some family' ∧ attempt = .ok family'

variable {app app' : Application} {event : Event} {events : List Event}
  {all : List (String × Dialect)} {i : ℕ} {attempt : Except Fault Family}

theorem run?_cons : app.run? (event :: events) = (app.step? event).bind (·.run? events) :=
  List.foldlM_cons

theorem step?_register_eq_some_iff {name : String} {d : Dialect} :
    app.step? (.register name d) = some app' ↔
      ∃ r, app.registry.register (.text name) (.complete d) = .ok r ∧
        { app with registry := r } = app' := by
  cases hregister : app.registry.register (.text name) (.complete d) <;>
    simp [step?, hregister, Except.toOption]

theorem step?_move_eq_some_iff {j : ℕ} {m : Move} :
    app.step? (.move j m) = some app' ↔
      ∃ family, app.attempts[j]? = some (.ok family) ∧ ∃ family', family.step? m = some family' ∧
        { app with attempts := app.attempts.set j (.ok family') } = app' := by
  rcases hattempt : app.attempts[j]? with _ | f | family
  · simp [step?, hattempt]
  · simp [step?, hattempt, Except.toOption]
  · simp [step?, hattempt, Except.toOption, Option.bind_eq_some_iff]

/-- An event registers its registration, if it is one. -/
theorem records_of_step (hstep : app.step? event = some app') (h : app.registry.Records all) :
    app'.registry.Records (all ++ event.registration?.toList) := by
  cases event with
  | register name d =>
    obtain ⟨r, hr, rfl⟩ := step?_register_eq_some_iff.1 hstep
    obtain ⟨r', hr', hrecords⟩ := h.register name d
    obtain rfl := Except.ok.inj (hr.symm.trans hr')
    exact hrecords
  | make given gatewayDialect model =>
    obtain rfl := Option.some.inj hstep
    exact (List.append_nil all).symm ▸ h
  | move j m =>
    obtain ⟨-, -, -, -, rfl⟩ := step?_move_eq_some_iff.1 hstep
    exact (List.append_nil all).symm ▸ h

/-- An event adds an attempt if it is one, and no attempt is ever dropped. -/
theorem length_attempts_of_step (hstep : app.step? event = some app') :
    app'.attempts.length = app.attempts.length + if event.isMake then 1 else 0 := by
  cases event with
  | register name d =>
    obtain ⟨-, -, rfl⟩ := step?_register_eq_some_iff.1 hstep
    rfl
  | make given gatewayDialect model =>
    obtain rfl := Option.some.inj hstep
    exact List.length_append
  | move j m =>
    obtain ⟨-, -, -, -, rfl⟩ := step?_move_eq_some_iff.1 hstep
    exact List.length_set

theorem becomes_nil (attempt : Except Fault Family) : Becomes [] attempt attempt := by
  cases attempt with
  | error f => rfl
  | ok family => exact ⟨family, rfl, rfl⟩

/-- An attempt goes its own way: an event is a move of its family, or nothing to it. -/
theorem becomes_of_step (hstep : app.step? event = some app')
    (h : app.attempts[i]? = some attempt) :
    ∃ attempt', app'.attempts[i]? = some attempt' ∧
      Becomes (event.moveOf? i).toList attempt attempt' := by
  cases event with
  | register name d =>
    obtain ⟨-, -, rfl⟩ := step?_register_eq_some_iff.1 hstep
    exact ⟨attempt, h, becomes_nil attempt⟩
  | make given gatewayDialect model =>
    obtain rfl := Option.some.inj hstep
    refine ⟨attempt, ?_, becomes_nil attempt⟩
    rw [List.getElem?_append_left (List.getElem?_eq_some_iff.1 h).1, h]
  | move j m =>
    obtain ⟨family, hfamily, family', hmoved, rfl⟩ := step?_move_eq_some_iff.1 hstep
    by_cases hi : j = i
    · subst hi
      obtain rfl := Option.some.inj (h.symm.trans hfamily)
      refine ⟨.ok family', List.getElem?_set_self (List.getElem?_eq_some_iff.1 h).1, family', ?_,
        rfl⟩
      rw [Event.moveOf?, if_pos rfl]
      simp [Family.run?, hmoved]
    · refine ⟨attempt, by rw [List.getElem?_set_ne hi, h], ?_⟩
      rw [Event.moveOf?, if_neg hi]
      exact becomes_nil attempt

theorem Becomes.trans {moves moves' : List Move} {a b c : Except Fault Family}
    (h : Becomes moves a b) (h' : Becomes moves' b c) : Becomes (moves ++ moves') a c := by
  cases a with
  | error f =>
    obtain rfl := h
    exact h'
  | ok family =>
    obtain ⟨middle, hmiddle, rfl⟩ := h
    obtain ⟨family', hfamily', rfl⟩ := h'
    refine ⟨family', ?_, rfl⟩
    rw [Family.run?, List.foldlM_append]
    exact Option.bind_eq_some_iff.2 ⟨middle, hmiddle, hfamily'⟩

/-! ### Runs of an application -/

theorem registrations_cons (event : Event) (events : List Event) :
    registrations (event :: events) = event.registration?.toList ++ registrations events := by
  simp only [registrations, List.filterMap_eq_flatMap_toList, List.flatMap_cons]

theorem movesOf_cons (i : ℕ) (event : Event) (events : List Event) :
    movesOf i (event :: events) = (event.moveOf? i).toList ++ movesOf i events := by
  simp only [movesOf, List.filterMap_eq_flatMap_toList, List.flatMap_cons]

theorem run?_append {events' : List Event} :
    app.run? (events ++ events') = (app.run? events).bind (·.run? events') :=
  List.foldlM_append

theorem records_of_run (hrun : app.run? events = some app') (h : app.registry.Records all) :
    app'.registry.Records (all ++ registrations events) := by
  induction events generalizing app all with
  | nil =>
    obtain rfl := Option.some.inj hrun
    exact (List.append_nil all).symm ▸ h
  | cons event rest ih =>
    rw [run?_cons, Option.bind_eq_some_iff] at hrun
    obtain ⟨middle, hstep, hrest⟩ := hrun
    rw [registrations_cons, ← List.append_assoc]
    exact ih hrest (records_of_step hstep h)

theorem length_attempts_of_run (hrun : app.run? events = some app') :
    app'.attempts.length = app.attempts.length + events.countP Event.isMake := by
  induction events generalizing app with
  | nil =>
    obtain rfl := Option.some.inj hrun
    rfl
  | cons event rest ih =>
    rw [run?_cons, Option.bind_eq_some_iff] at hrun
    obtain ⟨middle, hstep, hrest⟩ := hrun
    rw [ih hrest, length_attempts_of_step hstep, List.countP_cons]
    omega

/-- Through any events, an attempt becomes what the moves of its family make of it. -/
theorem becomes_of_run (hrun : app.run? events = some app') (h : app.attempts[i]? = some attempt) :
    ∃ attempt', app'.attempts[i]? = some attempt' ∧
      Becomes (movesOf i events) attempt attempt' := by
  induction events generalizing app attempt with
  | nil =>
    obtain rfl := Option.some.inj hrun
    exact ⟨attempt, h, becomes_nil attempt⟩
  | cons event rest ih =>
    rw [run?_cons, Option.bind_eq_some_iff] at hrun
    obtain ⟨middle, hstep, hrest⟩ := hrun
    obtain ⟨next, hnext, hone⟩ := becomes_of_step hstep h
    obtain ⟨attempt', hattempt', hall⟩ := ih hrest hnext
    exact ⟨attempt', hattempt', movesOf_cons i event rest ▸ hone.trans hall⟩

/-- What has become of an attempt to make a builder without a dialect of its own, when `registered`
was registered for its gateway: without a dialect it has failed, and stays so. With one it is a
family that its own moves have made of the new builder, all of whose members have this dialect. -/
def Keeps (registered : Option Dialect) (model : Option RowModel) (moves : List Move)
    (attempt : Except Fault Family) : Prop :=
  match registered with
  | none => ∃ message, attempt = .error (.compilation message .null)
  | some dialect => ∃ family, attempt = .ok family ∧
      (Family.root { dialect, model }).run? moves = some family ∧
      ∀ m ∈ family.members, m.builder.dialect = dialect

/-- An attempt keeps what was registered when it was made. -/
theorem keeps_of_becomes {r : Registry} (h : r.Records all) {gateway : Option String}
    {model : Option RowModel} {moves : List Move}
    (hbecomes : Becomes moves (made r none (gateway.map .text) model) attempt) :
    Keeps (lastRegistered all (gateway.getD "postgres")) model moves attempt := by
  have hname : (gateway.map Value.text).getD (.text "postgres") =
      .text (gateway.getD "postgres") := by
    cases gateway <;> rfl
  rcases hregistered : lastRegistered all (gateway.getD "postgres") with _ | dialect
  · obtain ⟨message, hmessage⟩ := h.create_fails_iff.2 (lastRegistered_eq_none_iff.1 hregistered)
    rw [made, Builder.chooseDialect, hname, hmessage] at hbecomes
    exact ⟨message, hbecomes⟩
  · rw [made, Builder.chooseDialect, hname, h.create_eq_ok_iff.2 hregistered] at hbecomes
    obtain ⟨family, hfamily, rfl⟩ := hbecomes
    exact ⟨family, rfl, hfamily, fun m hm ↦ Family.dialect_of_run hfamily hm⟩

/-- **The last registration of a name prevails, until the next one and for no builder that is made
before.** After any events, the registry has the names that the library and the events have
registered, each with the dialect of its last registration. And whenever a builder was made without
a dialect, it was given what was registered last for its gateway at that moment, or failed if there
was nothing, and it and all builders that were derived from it still have this dialect. -/
theorem lastPrevails_of_run (hrun : ({} : Application).run? events = some app) :
    app.registry.LastPrevails (Registry.builtIn ++ registrations events) ∧
      ∀ before (gateway : Option String) model after,
        events = before ++ .make none (gateway.map .text) model :: after →
          ∃ attempt, app.attempts[before.countP Event.isMake]? = some attempt ∧
            Keeps (lastRegistered (Registry.builtIn ++ registrations before)
              (gateway.getD "postgres")) model
              (movesOf (before.countP Event.isMake) after) attempt := by
  refine ⟨(records_of_run hrun Registry.records_initial).lastPrevails, ?_⟩
  rintro before gateway model after rfl
  rw [run?_append, Option.bind_eq_some_iff] at hrun
  obtain ⟨early, hearly, hrun⟩ := hrun
  rw [run?_cons, Option.bind_eq_some_iff] at hrun
  obtain ⟨middle, hmake, hlate⟩ := hrun
  have hrecords := records_of_run hearly Registry.records_initial
  have hlength : early.attempts.length = before.countP Event.isMake := by
    rw [length_attempts_of_run hearly]
    exact Nat.zero_add _
  obtain rfl := Option.some.inj hmake
  obtain ⟨attempt, hattempt, hbecomes⟩ := becomes_of_run hlate List.getElem?_concat_length
  rw [hlength] at hattempt hbecomes
  exact ⟨attempt, hattempt, keeps_of_becomes hrecords hbecomes⟩

/-- A builder is made, the dialect of its gateway is replaced, and a builder is derived from it:
both have the old dialect, and one that is made then has the new one. -/
theorem lastPrevails_of_replaced :
    let events : List Event := [.make none none none, .register "postgres" .numeric,
      .move 0 (.derive 0 (.text "users") none), .make none (some (.text "postgres")) none,
      .register "bare" .bare, .make none (some (.text "oracle")) none]
    ∃ app, ({} : Application).run? events = some app ∧
      app.registry.create (.text "postgres") = .ok .numeric ∧
      (∃ family, app.attempts[0]? = some (.ok family) ∧ family.members.length = 2 ∧
        ∀ m ∈ family.members, m.builder.dialect = .postgres) ∧
      (∃ family, app.attempts[1]? = some (.ok family) ∧
        ∀ m ∈ family.members, m.builder.dialect = .numeric) ∧
      ∃ message, app.attempts[2]? = some (.error (.compilation message .null)) := by
  intro events
  have hmade : made .initial none none none = .ok (Family.root { dialect := .postgres }) := by
    have hcreate := Registry.records_initial.create_eq_ok_iff.2
      (show lastRegistered Registry.builtIn "postgres" = some .postgres from rfl)
    rw [made, Builder.chooseDialect]
    exact congrArg _ hcreate
  have hpossible : (({} : Application).run? events).isSome = true := by
    simp only [events, run?, List.foldlM_cons, step?, hmade]
    rfl
  obtain ⟨app, hrun⟩ := Option.isSome_iff_exists.1 hpossible
  obtain ⟨hregistry, hattempts⟩ := lastPrevails_of_run hrun
  obtain ⟨_, hfirst, family, rfl, hfamily, hdialect⟩ := hattempts [] none none _ rfl
  obtain ⟨_, hsecond, family', rfl, -, hdialect'⟩ :=
    hattempts (events.take 3) (some "postgres") none _ rfl
  obtain ⟨_, hthird, message, rfl⟩ := hattempts (events.take 5) (some "oracle") none _ rfl
  refine ⟨app, hrun, (hregistry.create "postgres" .numeric).2 rfl,
    ⟨family, hfirst, ?_, hdialect⟩, ⟨family', hsecond, hdialect'⟩, message, hthird⟩
  obtain rfl := Option.some.inj hfamily
  rfl

end Application

end FluentSql
