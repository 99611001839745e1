/-!
# Column names

The shape of the column names that may stand in a statement. A name is a letter of ASCII or an
underscore, followed by letters, digits and underscores; a column is a name, or two names with a
point between them. One newline at the very end is let through.

Only this shape stands between a caller's text and the text of a statement, so nothing in it can
end a name or start anything else.
-/

namespace FluentSql.Column

/-- A name may start with the character. -/
def isNameStart (c : Char) : Bool :=
  c.isAlpha || c == '_'

/-- A name may go on with the character. -/
def isNamePart (c : Char) : Bool :=
  c.isAlphanum || c == '_'

/-- The characters form a name. -/
def isName : List Char → Bool
  | [] => false
  | c :: rest => isNameStart c && rest.all isNamePart

/-- The characters without one newline at the end. -/
def dropFinalNewline (s : List Char) : List Char :=
  if s.getLast? == some '\n' then s.dropLast else s

/-- The characters form a column: a name, or a qualifier and a name. -/
def isColumn (s : List Char) : Bool :=
  let body := dropFinalNewline s
  match body.dropWhile (· != '.') with
  | [] => isName body
  | _ :: name => isName (body.takeWhile (· != '.')) && isName name

/-- What follows the last point of a column, or the whole column if it has none. -/
def unqualified (s : List Char) : List Char :=
  (s.reverse.takeWhile (· != '.')).reverse

end FluentSql.Column
