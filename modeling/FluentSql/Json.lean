import FluentSql.Value.Members

/-!
# JSON forms of values

A list of values is handed to a database that has no arrays as the text of a JSON array. That goes
in two steps. `Value.toJson` finds the JSON tree of a value, or the first offender, visiting the
members in order and every key before its value. `Json.chars` writes the tree in ASCII.

Texts, numbers and truth values have a form of their own; lists and tuples become arrays, and
dictionaries objects, whose keys may also be numbers, truth values or null and are then written as
texts. Calendar data are written by their ISO texts, decimals and identifiers by their plain texts.
No other value has a form, not even a collection of another kind.

The numbers that are not finite have names, which a strict reader of JSON does not know.
-/

namespace FluentSql

open FluentSql.Text FluentSql.Number FluentSql.Calendar

/-- A JSON tree. The names in an object may repeat. -/
inductive Json where
  | null
  | bool (b : Bool)
  | integer (n : Int)
  | number (x : Binary64)
  | text (s : String)
  | array (items : List Json)
  | object (entries : List (String × Json))
deriving Repr, Inhabited

/-- The name of a floating-point number: its shortest text, or a word if it is not finite. -/
def jsonNumber : Binary64 → String
  | .nan => "NaN"
  | .infinite false => "Infinity"
  | .infinite true => "-Infinity"
  | x => x.text

/-- The name of a truth value. -/
def jsonBool (b : Bool) : String :=
  if b then "true" else "false"

/-- A key as the name of an entry. -/
def Value.toJsonKey : Value → Except Mismatch String
  | .text s => .ok s
  | .int n => .ok (writeInteger n)
  | .float x => .ok (jsonNumber x)
  | .bool b => .ok (jsonBool b)
  | .null => .ok "null"
  | v => .error (.noJsonKey v.kindName)

mutual

/-- The JSON tree of a value. -/
def Value.toJson : Value → Except Mismatch Json
  | .null => .ok .null
  | .bool b => .ok (.bool b)
  | .int n => .ok (.integer n)
  | .float x => .ok (.number x)
  | .text s => .ok (.text s)
  | .collection .list members => (toJsonItems members).map .array
  | .collection .tuple members => (toJsonItems members).map .array
  | .dictionary entries => (toJsonEntries entries).map .object
  | .date d => .ok (.text d.isoText)
  | .dateTime t => .ok (.text (t.isoText "T"))
  | .time t => .ok (.text t.isoText)
  | .decimal d => .ok (.text d.text)
  | .uuid bits => .ok (.text (uuidText bits))
  | v => .error (.noJsonForm v.shortName)

/-- The JSON trees of some values. -/
def toJsonItems : List Value → Except Mismatch (List Json)
  | [] => .ok []
  | v :: rest => do
    let item ← v.toJson
    let items ← toJsonItems rest
    return item :: items

/-- The JSON trees of the values of some entries, with the names of their keys. -/
def toJsonEntries : List (Value × Value) → Except Mismatch (List (String × Json))
  | [] => .ok []
  | (k, v) :: rest => do
    let name ← k.toJsonKey
    let item ← v.toJson
    let entries ← toJsonEntries rest
    return (name, item) :: entries

end

/-! ### Writing -/

/-- A code unit of sixteen bits by its number. -/
def unitEscape (n : Nat) : List Char :=
  '\\' :: 'u' :: hexDigits 4 n

/-- A character inside a JSON text: as it is if it is visible ASCII and neither a quote nor a
backslash, by a short escape if it has one, and by its code units otherwise. -/
def jsonChar (c : Char) : List Char :=
  if c == '"' || c == '\\' then ['\\', c]
  else if c == '\n' then ['\\', 'n']
  else if c == '\r' then ['\\', 'r']
  else if c == '\t' then ['\\', 't']
  else if c == '\x08' then ['\\', 'b']
  else if c == '\x0c' then ['\\', 'f']
  else if isVisibleAscii c then [c]
  else if c.toNat < 0x10000 then unitEscape c.toNat
  else
    let offset := c.toNat - 0x10000
    unitEscape (0xD800 + offset / 0x400) ++ unitEscape (0xDC00 + offset % 0x400)

/-- A text in JSON. -/
def jsonText (s : String) : List Char :=
  '"' :: s.toList.flatMap jsonChar ++ ['"']

/-- What stands between two items. -/
def jsonComma : List Char := [',', ' ']

mutual

/-- A JSON tree in characters. -/
def Json.chars : Json → List Char
  | .null => "null".toList
  | .bool b => (jsonBool b).toList
  | .integer n => (writeInteger n).toList
  | .number x => (jsonNumber x).toList
  | .text s => jsonText s
  | .array items => '[' :: jsonComma.intercalate (itemChars items) ++ [']']
  | .object entries => '\x7b' :: jsonComma.intercalate (entryChars entries) ++ ['\x7d']

/-- Some JSON trees in characters. -/
def itemChars : List Json → List (List Char)
  | [] => []
  | item :: rest => item.chars :: itemChars rest

/-- The entries of an object in characters. -/
def entryChars : List (String × Json) → List (List Char)
  | [] => []
  | (name, item) :: rest => (jsonText name ++ ':' :: ' ' :: item.chars) :: entryChars rest

end

/-- The text of a JSON tree. -/
def Json.render (j : Json) : String :=
  String.ofList j.chars

end FluentSql
