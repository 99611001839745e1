import FluentSql.Text.CaseTable

/-!
# Letter case

Upper and lower case of whole texts. A character may become several characters, as the sharp s
does, so a case mapping of a text is a `flatMap` of the mapping of its characters.

Every small sigma is written in its medial form: the only use of `lower` is to compare with ASCII
words, which hold no sigma.
-/

namespace FluentSql.Text

/-- The image of a character under a case mapping given by its two tables. -/
def caseImage (runs : List Run) (expansions : List (Nat × List Nat)) (c : Char) : List Char :=
  match expansions.lookup c.toNat with
  | some image => image.map Char.ofNat
  | none =>
    match runs.find? fun r ↦ r.covers c.toNat with
    | some r => [Char.ofNat (c.toNat + r.shift).toNat]
    | none => [c]

/-- The capital form of a character. -/
def capital (c : Char) : List Char :=
  caseImage capitalRuns capitalExpansions c

/-- The small form of a character. -/
def small (c : Char) : List Char :=
  caseImage smallRuns smallExpansions c

/-- A text in capitals. -/
def upper (s : String) : String :=
  String.ofList (s.toList.flatMap capital)

/-- A text in small letters. -/
def lower (s : String) : String :=
  String.ofList (s.toList.flatMap small)

end FluentSql.Text
