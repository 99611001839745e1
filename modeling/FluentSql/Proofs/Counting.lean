import FluentSql.Proofs.JsonNumbers
import FluentSql.Proofs.Request
import FluentSql.Proofs.Sound

/-!
# Counts

A count comes back in a row, under a name of its own: as an integer, or as a text if the driver
hands over integers of any size as texts. Either way its text is read as a numeral, so what has to
be shown is that reading undoes writing. It does so for more than what is written: `Says` describes
every text that a driver may give for an integer, with white space around it, a sign that may be
left out or not, and zeros in front (`Says.readInteger_eq`), and the plain notation is one of them
(`says_writeInteger`).

How many digits a numeral may have is limited, those of an integer when its text is made as well as
those of a text when it is read. So the number of digits is part of what is said (`Value.Says`). Up
to the limit the count is exact, and beyond it there is none: the call fails, and does not come back
with another number.

For a builder after any calls (`count_read_of_run`) nothing else is needed than a table, since the
text that asks for a count depends on its conditions alone, and those of a sound builder can always
be written. What else comes back with the count is not looked at (`run_count_result`).
-/

namespace FluentSql.Number

open FluentSql.Text FluentSql.Json

/-! ### Digits and white space -/

theorem digitValue?_of_isDigit {c : Char} (hc : c.isDigit = true) :
    digitValue? c = some (c.toNat - '0'.toNat) := by
  obtain ⟨hfirst, hlast⟩ := Bool.and_eq_true_iff.1 hc
  have hfirst' : 48 ≤ c.toNat := UInt32.le_iff_toNat_le.1 (of_decide_eq_true hfirst)
  have hlast' : c.toNat ≤ 57 := UInt32.le_iff_toNat_le.1 (of_decide_eq_true hlast)
  rw [digitValue?, digitZeros, List.find?_cons_of_pos (by simp [hfirst', hlast'])]
  rfl

/-- White space is no digit of any script. -/
theorem digitValue?_of_isSpacing {c : Char} (hc : isSpacing c = true) : digitValue? c = none := by
  have hall : digitZeros.all (fun z ↦ (List.range 10).all fun k ↦ !isSpacing (Char.ofNat (z + k))) =
      true := by
    decide +kernel
  rw [digitValue?, Option.map_eq_none_iff, List.find?_eq_none]
  intro z hz hmem
  obtain ⟨hfirst, hlast⟩ : z ≤ c.toNat ∧ c.toNat ≤ z + 9 := by simpa using hmem
  have hdigit := List.all_eq_true.1 (List.all_eq_true.1 hall z hz) (c.toNat - z)
    (List.mem_range.2 (by omega))
  rw [Nat.add_sub_cancel' hfirst, Char.ofNat_toNat, hc] at hdigit
  cases hdigit

theorem isSpacing_of_isDigit {c : Char} (hc : c.isDigit = true) : isSpacing c = false := by
  rw [← Bool.not_eq_true]
  intro hspacing
  have hvalue := digitValue?_of_isDigit hc
  rw [digitValue?_of_isSpacing hspacing] at hvalue
  cases hvalue

theorem underscoresSeparate_of_not_mem {s : List Char} (hs : '_' ∉ s) :
    underscoresSeparate s = true := by
  fun_induction underscoresSeparate s with
  | case1 => rfl
  | case2 => simp at hs
  | case3 => simp at hs
  | case4 c rest _ _ ih => exact ih fun h ↦ hs (.tail _ h)

theorem filterMap_digitValue? {s : List Char} (hs : ∀ c ∈ s, c.isDigit = true) :
    s.filterMap digitValue? = s.map fun c ↦ c.toNat - '0'.toNat := by
  rw [List.filterMap_congr fun c hc ↦ digitValue?_of_isDigit (hs c hc), List.filterMap_eq_map']

theorem digitsValue_map (s : List Char) :
    digitsValue (s.map fun c ↦ c.toNat - '0'.toNat) = Nat.ofDigitChars 10 s 0 := by
  rw [digitsValue, List.foldl_map, Nat.ofDigitChars_eq_foldl]

/-! ### Numerals -/

section Numeral

variable {left sign digits right : List Char}

/-- The sign is split off the digits. -/
theorem splitSign_sign_append (hsign : sign ∈ [[], ['+'], ['-']]) (hdigits : IsDigits digits) :
    splitSign (sign ++ (digits ++ right)) = (sign == ['-'], digits ++ right) := by
  simp only [List.mem_cons, List.not_mem_nil, or_false] at hsign
  rcases hsign with rfl | rfl | rfl
  · exact splitSign_append_of_isDigits hdigits right
  · rfl
  · rfl

/-- A numeral does not begin with white space. -/
theorem isSpacing_of_mem_head? (hsign : sign ∈ [[], ['+'], ['-']]) (hdigits : IsDigits digits) :
    ∀ c ∈ (sign ++ (digits ++ right)).head?, isSpacing c = false := by
  intro c hc
  simp only [List.mem_cons, List.not_mem_nil, or_false] at hsign
  rcases hsign with rfl | rfl | rfl
  · obtain ⟨d, hhead, hd⟩ := hdigits.head? right
    rw [List.nil_append, hhead] at hc
    obtain rfl := Option.some.inj hc
    exact isSpacing_of_isDigit hd
  · obtain rfl := Option.some.inj hc
    rfl
  · obtain rfl := Option.some.inj hc
    rfl

/-- White space, a sign or none, digits of ASCII and white space again are read as the number of the
digits, unless there are too many of them. -/
theorem readInteger_of_parts (hleft : ∀ c ∈ left, isSpacing c = true)
    (hsign : sign ∈ [[], ['+'], ['-']]) (hdigits : IsDigits digits)
    (hright : ∀ c ∈ right, isSpacing c = true) :
    readInteger (left ++ (sign ++ (digits ++ right))) =
      if digitLimit < digits.length then .error (.tooLong digits.length)
      else .ok (signed (sign == ['-']) (Nat.ofDigitChars 10 digits 0)) := by
  have hbody : (left ++ (sign ++ (digits ++ right))).dropWhile isSpacing =
      sign ++ (digits ++ right) :=
    dropWhile_append_of_run hleft (isSpacing_of_mem_head? hsign hdigits)
  have hunderscore : '_' ∉ digits := fun h ↦ absurd (hdigits.2 _ h) (by decide)
  have hrun : ∀ c ∈ digits, (c == '_' || (digitValue? c).isSome) = true := fun c hc ↦ by
    simp [digitValue?_of_isDigit (hdigits.2 c hc)]
  have hafter : ∀ c ∈ right.head?, (c == '_' || (digitValue? c).isSome) = false := by
    intro c hc
    have hspacing := hright c (List.mem_of_head? hc)
    rw [digitValue?_of_isSpacing hspacing, Option.isSome_none, Bool.or_false, beq_eq_false_iff_ne]
    rintro rfl
    exact absurd hspacing (by decide)
  have hhead : (digits.head? == some '_') = false := by
    rw [beq_eq_false_iff_ne]
    exact fun h ↦ hunderscore (List.mem_of_head? h)
  have hright' : right.all isSpacing = true := List.all_eq_true.2 hright
  simp only [readInteger, hbody, splitSign_sign_append hsign hdigits,
    takeWhile_append_of_run hrun hafter, dropWhile_append_of_run hrun hafter, hhead,
    underscoresSeparate_of_not_mem hunderscore, filterMap_digitValue? hdigits.2, digitsValue_map,
    List.length_map, List.isEmpty_map, List.isEmpty_eq_false_iff.2 hdigits.1, hright',
    Bool.not_true, Bool.or_self, Bool.false_eq_true, if_false]

end Numeral

/-- The signs that a numeral of an integer may have. -/
def signs (n : ℤ) : List (List Char) :=
  if n < 0 then [['-']] else [[], ['+']]

theorem signed_of_mem_signs {n : ℤ} {sign : List Char} (hsign : sign ∈ signs n) :
    sign ∈ [[], ['+'], ['-']] ∧ signed (sign == ['-']) n.natAbs = n := by
  unfold signs at hsign
  split at hsign
  · next hneg =>
    obtain rfl := List.mem_singleton.1 hsign
    exact ⟨by simp, show -(n.natAbs : ℤ) = n by omega⟩
  · next hneg =>
    simp only [List.mem_cons, List.not_mem_nil, or_false] at hsign
    rcases hsign with rfl | rfl
    · exact ⟨by simp, show (n.natAbs : ℤ) = n by omega⟩
    · exact ⟨by simp, show (n.natAbs : ℤ) = n by omega⟩

/-- A text says an integer with so many digits: between white space stand a sign, zeros, and the
digits of the magnitude. -/
def Says (n : ℤ) (s : List Char) (digits : ℕ) : Prop :=
  ∃ left sign zeros right, (∀ c ∈ left, isSpacing c = true) ∧ sign ∈ signs n ∧
    (∀ c ∈ right, isSpacing c = true) ∧ digits = zeros + digitCount n ∧
    s = left ++ (sign ++ (List.replicate zeros '0' ++ Nat.toDigits 10 n.natAbs ++ right))

/-- What a text says is read, unless it does so with too many digits. -/
theorem Says.readInteger_eq {n : ℤ} {s : List Char} {digits : ℕ} (h : Says n s digits) :
    readInteger s = if digitLimit < digits then .error (.tooLong digits) else .ok n := by
  obtain ⟨left, sign, zeros, right, hleft, hsign, hright, rfl, rfl⟩ := h
  obtain ⟨hany, hsigned⟩ := signed_of_mem_signs hsign
  have hdigits : IsDigits (List.replicate zeros '0' ++ Nat.toDigits 10 n.natAbs) :=
    (isDigits_toDigits _).prepend isDigit_of_mem_zeros
  rw [readInteger_of_parts hleft hany hdigits hright, Nat.ofDigitChars_append,
    Nat.ofDigitChars_replicate_zero, Nat.mul_zero, Nat.ofDigitChars_ten_toDigits, hsigned,
    List.length_append, List.length_replicate, digitCount]

/-- The text of an integer says it, with no zeros in front. -/
theorem says_writeInteger (n : ℤ) : Says n (writeInteger n).toList (digitCount n) := by
  refine ⟨[], if n < 0 then ['-'] else [], 0, [], by simp, ?_, by simp, by simp, ?_⟩
  · unfold signs
    split <;> simp
  · rw [toList_writeInteger]
    simp

end FluentSql.Number

namespace FluentSql

open FluentSql.Number

/-! ### Counts -/

/-- A cell says an integer with so many digits: it is the integer itself, or a text that says it. -/
inductive Value.Says (n : ℤ) : Value → ℕ → Prop
  | integer : Says n (.int n) (digitCount n)
  | text {s : String} {digits : ℕ} (h : Number.Says n s.toList digits) : Says n (.text s) digits

/-- The first row of a reply holds a cell in the column of counts. -/
def Value.HoldsCount (reply cell : Value) : Prop :=
  ∃ entries rest, reply.members? = some (.dictionary entries :: rest) ∧
    lookupKey? (.text countColumn) entries = some cell

/-- What a text says is read from it, unless it does so with too many digits. -/
theorem Number.Says.readCount_eq {n : ℤ} {s : String} {digits : ℕ}
    (h : Number.Says n s.toList digits) :
    readCount s = if digitLimit < digits then .error (.numeralTooLong digits) else .ok n := by
  rw [readCount, h.readInteger_eq]
  by_cases hlong : digitLimit < digits
  · rw [if_pos hlong, if_pos hlong]
  · rw [if_neg hlong, if_neg hlong]

/-- What a cell says is its count. -/
theorem Value.Says.countValue_eq {n : ℤ} {cell : Value} {digits : ℕ} (h : cell.Says n digits)
    (hle : digits ≤ digitLimit) : countValue cell = .ok n := by
  cases h with
  | integer =>
    rw [countValue, countText, if_neg (not_lt.2 hle)]
    exact (says_writeInteger n).readCount_eq.trans (if_neg (not_lt.2 hle))
  | text h => exact h.readCount_eq.trans (if_neg (not_lt.2 hle))

/-- Too many digits are refused, those of an integer when its text is made, and those of a text when
it is read. -/
theorem Value.Says.countValue_eq_error {n : ℤ} {cell : Value} {digits : ℕ} (h : cell.Says n digits)
    (hlong : digitLimit < digits) :
    ∃ m, m.className = "ValueError" ∧ countValue cell = .error m := by
  cases h with
  | integer =>
    refine ⟨.integerTooLong, rfl, ?_⟩
    rw [countValue, countText, if_pos hlong]
    rfl
  | text h =>
    exact ⟨.numeralTooLong digits, rfl, h.readCount_eq.trans (if_pos hlong)⟩

namespace Builder

variable {σ : Type}

/-- A sound builder with a table can ask for a count. -/
theorem Sound.exists_request_count {b : Builder} (hb : b.Sound)
    (htable : b.query.table.truthy = true) : ∃ r, b.request .count = .ok r := by
  obtain ⟨values, hvalues⟩ := hb.exists_members
  exact ⟨_, Query.request_eq_ok_iff.2 ⟨htable, .count hvalues⟩⟩

/-- The cell of the first row is what is read, whatever else comes back. -/
theorem run_count_result {execute : Executor σ} {b : Builder} {s : σ} {r : Request}
    (hr : b.request .count = .ok r) {reply cell : Value} (hreply : (execute r s).1 = .ok reply)
    (hcell : reply.HoldsCount cell) :
    (b.run execute .count s).result = (liftMismatch (countValue cell)).map .int := by
  obtain ⟨entries, rest, hrows, hlookup⟩ := hcell
  have hread : rowsOf (execute r s).1 = .ok (.dictionary entries :: rest) := by
    rw [hreply]
    exact liftMismatch_eq_ok_iff.2 (Value.members_eq_ok_iff.2 hrows)
  have hfound : countCell (.dictionary entries) = .ok cell := by
    rw [countCell, hlookup]
  rw [run_eq, hr]
  show rowsOf (execute r s).1 >>= _ = _
  rw [hread]
  show (liftMismatch (countCell (.dictionary entries) >>= countValue)).map Value.int = _
  rw [hfound]
  rfl

/-- **A count is read back from either representation.** After any calls on a builder that was made
for a table, asking for a count sends one statement. If the first row of the reply says an integer
under the name of the count, as an integer or as a text, then the call returns this integer,
whatever else the row and the rows after it hold. This is so up to the limit for digits; with more
digits the call fails, in either representation. -/
theorem count_read_of_run (execute : Executor σ) (s : σ) (d : Dialect) (model : Option RowModel)
    {table : Value} (htable : table.truthy = true) (calls : List Call) :
    let before := (fresh d model table).performAll execute s calls
    let count := before.builder.perform execute (.terminal .count) before.state
    ∃ r, count.sent = [r] ∧
      ∀ {reply cell : Value} {n : ℤ} {digits : ℕ}, (execute r before.state).1 = .ok reply →
        reply.HoldsCount cell → cell.Says n digits →
          (digits ≤ digitLimit → count.result = .ok (.int n)) ∧
            (digitLimit < digits →
              ∃ m, m.className = "ValueError" ∧ count.result = .error (.mismatch m)) := by
  intro before count
  have hbuilder : before.builder = calls.foldl after (fresh d model table) :=
    performAll_builder execute calls _ s
  have htable' : before.builder.query.table.truthy = true := by
    rw [hbuilder, foldl_after_table]
    exact htable
  have hsound : before.builder.Sound := (fresh_sound d model table).performAll execute s calls
  obtain ⟨r, hr⟩ := hsound.exists_request_count htable'
  refine ⟨r, ?_, fun {reply cell n digits} hreply hcell hn ↦ ?_⟩
  · show (before.builder.run execute .count before.state).sent = [r]
    rw [run_eq, hr]
  · have hresult : count.result = (liftMismatch (countValue cell)).map .int :=
      run_count_result hr hreply hcell
    rw [hresult]
    constructor
    · intro hle
      rw [hn.countValue_eq hle]
      rfl
    · intro hlong
      obtain ⟨m, hclass, hcount⟩ := hn.countValue_eq_error hlong
      rw [hcount]
      exact ⟨m, hclass, rfl⟩

/-- A negative count in a text with white space around it and zeros in front. -/
theorem count_read_of_padded :
    let execute : Executor Unit := fun _ s ↦
      (.ok (.list [.dictionary [(.text "total", .null), (.text "count", .text " \t-00042\n")],
        .dictionary []]), s)
    let before := (fresh .sqlite none (.text "users")).performAll execute ()
      [.fluent (.filter (.text "age") (.text ">") (.int 18))]
    Value.truthy (.text "users") = true ∧
      (before.builder.perform execute (.terminal .count) before.state).result =
        .ok (.int (-42)) := by
  intro execute before
  have htable : Value.truthy (.text "users") = true := by decide
  obtain ⟨r, -, hread⟩ := count_read_of_run execute () .sqlite none htable
    [.fluent (.filter (.text "age") (.text ">") (.int 18))]
  have hcell : Value.HoldsCount
      (.list [.dictionary [(.text "total", .null), (.text "count", .text " \t-00042\n")],
        .dictionary []]) (.text " \t-00042\n") :=
    ⟨_, _, rfl, by simp [lookupKey?, Value.same, countColumn]⟩
  have hn : Value.Says (-42) (.text " \t-00042\n") 5 :=
    .text ⟨[' ', '\t'], ['-'], 3, ['\n'], by simp [Text.isSpacing], by simp [signs],
      by simp [Text.isSpacing], rfl, rfl⟩
  exact ⟨htable, (hread rfl hcell hn).1 (by decide)⟩

end Builder

end FluentSql
