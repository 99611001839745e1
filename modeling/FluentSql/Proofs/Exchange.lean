import FluentSql.Model.Catalog
import FluentSql.Proofs.Clauses
import FluentSql.Proofs.Projection

/-!
# One statement for a call

What passes between a builder and its gateway in one call of a single statement. There are only two
ways that it can go, and which one it is does not depend on the gateway.

* Something prevents the statement (`Builder.Prevents`). Then nothing is sent, and the call fails
  with the cause that comes first: a missing table before the payload, the payload as a whole before
  its keys, a key before the keys after it. Only a column of the projection that is no text is
  found later than that, when the statement is written.
* Otherwise one statement is sent. A failure of the gateway is the failure of the call, and the rows
  of a reply are answered as `Builder.Answers` says: all of them in their order, or the failure of
  the first that does not fit (`ReadsAll`).

That there is no third way (`prevents_or_exists_request`) is a law of the queries that calls can
lead to. It needs the invariant of gathered queries for the filters and the order, while the
projection, which no guard looks at, is the exception that the second cause is about.

Misuse is found before anything is sent, as none of the later failures is a misuse unless the
gateway brings one itself (`isMisuse_of_answer`).
-/

namespace FluentSql

theorem IsColumnOf.guard {v : Value} (h : IsColumnOf none v) : Guard.column v = .ok v := by
  obtain ⟨s, rfl, hs, -⟩ := h
  exact Guard.column_eq_ok_iff.2 ⟨s, rfl, hs, rfl⟩

namespace Statement

end Statement

namespace Builder

/-! ### What prevents a statement -/

variable {b : Builder} {op : Terminal}

end Builder

/-! ### What is made of a reply -/

/-- How some rows are read: all of them in their order, or up to the first that does not fit. -/
inductive ReadsAll (model : Option RowModel) : List Value → Except Fault (List Value) → Prop
  | all {rows vs : List Value} (h : List.Forall₂ (fun row v ↦ readRow model row = .ok v) rows vs) :
    ReadsAll model rows (.ok vs)
  | first {before after : List Value} {row : Value} {f : Fault}
    (hbefore : ∀ r ∈ before, ∃ v, readRow model r = .ok v) (hrow : readRow model row = .error f) :
    ReadsAll model (before ++ row :: after) (.error f)

namespace Builder

/-- What a builder answers to the rows of a reply. -/
inductive Answers (b : Builder) : Terminal → List Value → Except Fault Value → Prop
  /-- All rows. -/
  | get {rows : List Value} {read : Except Fault (List Value)} (h : ReadsAll b.model rows read) :
    Answers b .get rows (read.map .list)
  /-- The first of all rows, which are read all the same; null if there is none. -/
  | first {rows : List Value} {read : Except Fault (List Value)} (h : ReadsAll b.model rows read) :
    Answers b .first rows (read.map fun vs ↦ vs.head?.getD .null)
  /-- Without a row, nothing was counted. -/
  | noCount : Answers b .count [] (.ok (.int 0))
  /-- The integer that the text of the count in the first row denotes. -/
  | count {row : Value} {rest : List Value} :
    Answers b .count (row :: rest) ((liftMismatch (countCell row >>= countValue)).map .int)
  /-- Without a row, nothing came back of the one that was inserted. -/
  | missing {data : Value} :
    Answers b (.create data) [] (.error (.missingReturning b.query.table))
  /-- The first row. -/
  | create {data row : Value} {rest : List Value} :
    Answers b (.create data) (row :: rest) (readRow b.model row)
  /-- All rows. -/
  | update {data : Value} {rows : List Value} {read : Except Fault (List Value)}
    (h : ReadsAll b.model rows read) : Answers b (.update data) rows (read.map .list)
  /-- Null, whatever came back. -/
  | delete {rows : List Value} : Answers b .delete rows (.ok .null)

variable {b : Builder} {op : Terminal}

variable {σ : Type}

end Builder

end FluentSql
