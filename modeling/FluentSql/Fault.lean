import FluentSql.Value.Text
import FluentSql.Text.LetterCase

/-!
# Faults

Every way in which a call can fail, by its cause. There are four families.

* `Misuse`: the caller asked for something that no query may hold. It is found before anything is
  compiled or sent, and carries a code and details for a machine to read.
* `Mismatch`: a value of the wrong kind or with the wrong content met an operation on values.
* `Issue`: one field of a row does not fit the row model.
* The remaining constructors of `Fault`: failures of the library that are no misuse, and failures
  of the database, which pass through unchanged as `Fault.raised`.

The wording of each cause is in one function of its family, and `Fault.message` joins them.
-/

namespace FluentSql

open FluentSql.Text FluentSql.Number

/-! ### Mismatches -/

/-- A value of the wrong kind or content, as an operation on values meets it. Kinds are given by
their names. -/
inductive Mismatch where
  /-- Members were asked of a value that has none. -/
  | notIterable (kind : String)
  /-- A count of members was asked of a value that cannot tell it. -/
  | noLength (kind : String)
  /-- A function was asked of a value that does not have it. -/
  | noFunction (kind name : String)
  /-- A member that should be joined to a text is no text. -/
  | notText (position : Nat) (kind : String)
  /-- The value cannot be a key. -/
  | unhashable (kind : String)
  /-- A signaling decimal cannot be a key. -/
  | signalingKey
  /-- A member that should be a pair has no members. -/
  | notPair (position : Nat)
  /-- A member that should be a pair has another length. -/
  | pairLength (position length : Nat)
  /-- A look-up by name in a value that has no places. -/
  | notSubscriptable (kind : String)
  /-- A look-up by name in a value whose places have numbers. -/
  | numberedPlaces (kind : String)
  /-- A look-up of a name that is not there. -/
  | missingKey (name : String)
  /-- A text that is not read as an integer. -/
  | notNumeral (text : String)
  /-- A numeral with too many digits. -/
  | numeralTooLong (digits : Nat)
  /-- An integer whose numeral would have too many digits. -/
  | integerTooLong
  /-- A value that has no JSON form. -/
  | noJsonForm (kind : String)
  /-- A key that has no JSON form. -/
  | noJsonKey (kind : String)
  /-- Two values that have no order. -/
  | unordered (left right : String)
  /-- Two values that have no sum. -/
  | noSum (left right : String)
  /-- A setting whose name is no text. -/
  | settingName
  /-- A dialect that leaves some of its functions open. -/
  | incompleteDialect (missing : List String)
deriving Repr, DecidableEq

/-- The class of errors that a mismatch belongs to. -/
def Mismatch.className : Mismatch → String
  | .noFunction .. => "AttributeError"
  | .pairLength .. | .notNumeral .. | .numeralTooLong .. | .integerTooLong => "ValueError"
  | .missingKey .. => "KeyError"
  | _ => "TypeError"

/-- The wording of a look-up by name in a value whose places have numbers. -/
def numberedPlacesMessage : String → String
  | "str" => "string indices must be integers, not 'str'"
  | "bytes" => "byte indices must be integers or slices, not str"
  | "collections.deque" => "sequence index must be integer, not 'str'"
  | kind => kind ++ " indices must be integers or slices, not str"

/-- The wording of a mismatch. -/
def Mismatch.message : Mismatch → String
  | .notIterable kind => "'" ++ kind ++ "' object is not iterable"
  | .noLength kind => "object of type '" ++ kind ++ "' has no len()"
  | .noFunction kind name => "'" ++ kind ++ "' object has no attribute '" ++ name ++ "'"
  | .notText position kind =>
    "sequence item " ++ position.repr ++ ": expected str instance, " ++ kind ++ " found"
  | .unhashable kind => "unhashable type: '" ++ kind ++ "'"
  | .signalingKey => "Cannot hash a signaling NaN value."
  | .notPair position =>
    "cannot convert dictionary update sequence element #" ++ position.repr ++ " to a sequence"
  | .pairLength position length =>
    "dictionary update sequence element #" ++ position.repr ++ " has length " ++ length.repr ++
      "; 2 is required"
  | .notSubscriptable kind => "'" ++ kind ++ "' object is not subscriptable"
  | .numberedPlaces kind => numberedPlacesMessage kind
  | .missingKey name => quoted name
  | .notNumeral text =>
    "invalid literal for int() with base 10: " ++ String.ofList ((quoted text).toList.take 200)
  | .numeralTooLong digits =>
    "Exceeds the limit (" ++ digitLimit.repr ++
      " digits) for integer string conversion: value has " ++ digits.repr ++
      " digits; use sys.set_int_max_str_digits() to increase the limit"
  | .integerTooLong =>
    "Exceeds the limit (" ++ digitLimit.repr ++
      " digits) for integer string conversion; use sys.set_int_max_str_digits() to increase" ++
      " the limit"
  | .noJsonForm kind => kind ++ " values cannot be matched with IN on SQLite."
  | .noJsonKey kind => "keys must be str, int, float, bool or None, not " ++ kind
  | .unordered left right =>
    "'<' not supported between instances of '" ++ left ++ "' and '" ++ right ++ "'"
  | .noSum left right =>
    "unsupported operand type(s) for +: '" ++ left ++ "' and '" ++ right ++ "'"
  | .settingName => "keywords must be strings"
  | .incompleteDialect missing =>
    "Can't instantiate abstract class Grammar with abstract methods " ++ ", ".intercalate missing

/-! ### Misuse -/

/-- The capitals of a small letter of ASCII; other bytes stay. -/
def capitalByte (b : UInt8) : UInt8 :=
  if 97 ≤ b && b ≤ 122 then b - 32 else b

/-- The text of a value in capitals, for the values that have capitals: texts and byte strings. -/
def Value.capitals? : Value → Option String
  | .text s => some (upper s)
  | .bytes data => some (Value.bytes (data.map capitalByte)).display
  | .buffer data => some (Value.buffer (data.map capitalByte)).display
  | _ => none

/-- What a caller did wrong. The offending values are kept as they were given. -/
inductive Misuse where
  /-- A terminal call without a table. -/
  | noTable (operation : Value)
  /-- A payload without entries. -/
  | emptyPayload (operation : Value)
  /-- An operator that is not one of the allowed ones. -/
  | operator (given allowed : Value)
  /-- A column name of the wrong shape. -/
  | identifier (given : Value)
  /-- A direction that is neither of the two. -/
  | direction (given : Value)
  /-- A limit or an offset that is no natural number. -/
  | pagination (clause given : Value)
  /-- A value that cannot be bound for its operator, with the mismatch that shows it, if any. -/
  | value (column operator reason : Value) (cause : Option Mismatch)
  /-- A column that is no field of the row model. -/
  | unknownColumn (column model allowed : Value)
  /-- Misuse that is described freely. -/
  | described (message code : Value) (details : List (String × Value))
deriving Repr

namespace Misuse

/-- The class of errors that a misuse belongs to. -/
def className : Misuse → String
  | .noTable .. => "NoTableSelectedError"
  | .emptyPayload .. => "EmptyPayloadError"
  | .operator .. => "InvalidOperatorError"
  | .identifier .. => "InvalidIdentifierError"
  | .direction .. => "InvalidDirectionError"
  | .pagination .. => "InvalidPaginationError"
  | .value .. => "InvalidValueError"
  | .unknownColumn .. => "UnknownColumnError"
  | .described .. => "UsageError"

/-- The wording of a misuse. -/
def message : Misuse → String
  | .noTable operation =>
    "No table selected for '" ++ operation.display ++ "'. Call .table() first."
  | .emptyPayload operation => "No data given for '" ++ operation.display ++ "'."
  | .operator given _ => "Operator '" ++ given.display ++ "' is not allowed."
  | .identifier given => "'" ++ given.display ++ "' is not a valid column name."
  | .direction given =>
    "Sort direction '" ++ given.display ++ "' is not allowed; use 'asc' or 'desc'."
  | .pagination clause given =>
    clause.capitals?.getD "" ++ " must be a non-negative integer, got " ++ given.literal ++ "."
  | .value column op reason _ =>
    "Invalid value for '" ++ column.display ++ " " ++ op.display ++ "': " ++ reason.display
  | .unknownColumn column model _ =>
    "Column '" ++ column.display ++ "' is not a field of '" ++ model.display ++ "'."
  | .described message _ _ => message.display

/-- The code of a misuse, for a machine to read. -/
def code : Misuse → Value
  | .noTable .. => .text "NO_TABLE_SELECTED"
  | .emptyPayload .. => .text "EMPTY_PAYLOAD"
  | .operator .. => .text "INVALID_OPERATOR"
  | .identifier .. => .text "INVALID_IDENTIFIER"
  | .direction .. => .text "INVALID_DIRECTION"
  | .pagination .. => .text "INVALID_PAGINATION"
  | .value .. => .text "INVALID_VALUE"
  | .unknownColumn .. => .text "UNKNOWN_COLUMN"
  | .described _ code _ => code

/-- The circumstances of a misuse, for a machine to read. -/
def details : Misuse → List (String × Value)
  | .noTable operation => [("operation", operation)]
  | .emptyPayload operation => [("operation", operation)]
  | .operator given allowed => [("operator", given), ("allowed_operators", allowed)]
  | .identifier given => [("identifier", given)]
  | .direction given => [("direction", given)]
  | .pagination clause given => [("clause", clause), ("value", given)]
  | .value column op _ _ => [("column", column), ("operator", op)]
  | .unknownColumn column model allowed =>
    [("column", column), ("model", model), ("allowed_columns", allowed)]
  | .described _ _ details => details

/-- What a misuse offers to a handler beside code and details. -/
def attributes : Misuse → List (String × Value)
  | .noTable operation => [("operation", operation)]
  | .emptyPayload operation => [("operation", operation)]
  | .operator given _ => [("operator", given)]
  | .identifier given => [("identifier", given)]
  | .direction given => [("direction", given)]
  | .pagination clause given => [("name", clause), ("value", given)]
  | .value .. => []
  | .unknownColumn column _ _ => [("column", column)]
  | .described .. => []

end Misuse

/-! ### Issues of a row -/

/-- Why a field does not fit. -/
inductive IssueCause where
  | missing
  | extraForbidden
  | keyNotText
  | textKind
  | textEncoding
  | integerKind
  | integerText
  | integerSize
  | integerFraction
  | notFinite
  | numberKind
  | numberText
  /-- The number is not above the bound. -/
  | notAbove (bound : Int)
  /-- The number is below the bound. -/
  | below (bound : Int)
deriving Repr, DecidableEq

/-- The code of a cause. -/
def IssueCause.code : IssueCause → String
  | .missing => "missing"
  | .extraForbidden => "extra_forbidden"
  | .keyNotText => "invalid_key"
  | .textKind => "string_type"
  | .textEncoding => "string_unicode"
  | .integerKind => "int_type"
  | .integerText => "int_parsing"
  | .integerSize => "int_parsing_size"
  | .integerFraction => "int_from_float"
  | .notFinite => "finite_number"
  | .numberKind => "float_type"
  | .numberText => "float_parsing"
  | .notAbove _ => "greater_than"
  | .below _ => "greater_than_equal"

/-- The wording of a cause. -/
def IssueCause.message : IssueCause → String
  | .missing => "Field required"
  | .extraForbidden => "Extra inputs are not permitted"
  | .keyNotText => "Keys should be strings"
  | .textKind => "Input should be a valid string"
  | .textEncoding =>
    "Input should be a valid string, unable to parse raw data as a unicode string"
  | .integerKind => "Input should be a valid integer"
  | .integerText => "Input should be a valid integer, unable to parse string as an integer"
  | .integerSize => "Unable to parse input string as an integer, exceeded maximum size"
  | .integerFraction => "Input should be a valid integer, got a number with a fractional part"
  | .notFinite => "Input should be a finite number"
  | .numberKind => "Input should be a valid number"
  | .numberText => "Input should be a valid number, unable to parse string as a number"
  | .notAbove bound => "Input should be greater than " ++ writeInteger bound
  | .below bound => "Input should be greater than or equal to " ++ writeInteger bound

/-- A cause and the place of the row where it was found. -/
structure Issue where
  place : Value
  cause : IssueCause
deriving Repr

/-! ### Faults -/

/-- Any failure of a call. -/
inductive Fault where
  | misuse (m : Misuse)
  | mismatch (m : Mismatch)
  /-- A row that does not fit the model of this name, with all its issues. -/
  | invalid (model : String) (issues : List Issue)
  /-- A statement cannot be compiled. -/
  | compilation (message clause : Value)
  /-- An insertion came back without a row. -/
  | missingReturning (table : Value)
  /-- A gateway was used while it was not connected. -/
  | notConnected (gateway : Value)
  /-- A failure of the library that is described freely. -/
  | described (message : Option Value)
  /-- A failure of the database, of the given class. -/
  | raised (className message : String)
deriving Repr

/-- A failure of the database: the class of the error and its message. -/
structure Failure where
  className : String
  message : String
deriving Repr, DecidableEq

/-- A failure of the database as it reaches the caller. -/
def Failure.fault (f : Failure) : Fault :=
  .raised f.className f.message

namespace Fault

/-- The class of errors that a fault belongs to. -/
def className : Fault → String
  | .misuse m => m.className
  | .mismatch m => m.className
  | .invalid .. => "ValidationError"
  | .compilation .. => "CompilationError"
  | .missingReturning _ => "MissingReturningError"
  | .notConnected _ => "DriverNotConnectedError"
  | .described _ => "ChainQLError"
  | .raised className _ => className

/-- The class of a fault of the library and the classes that it is a case of, the narrowest first.
Other faults have none. -/
def lineage : Fault → List String
  | .misuse (.described ..) => ["UsageError", "ChainQLError"]
  | .misuse m => [m.className, "UsageError", "ChainQLError"]
  | .described _ => ["ChainQLError"]
  | .compilation .. => ["CompilationError", "ChainQLError"]
  | .missingReturning _ => ["MissingReturningError", "ChainQLError"]
  | .notConnected _ => ["DriverNotConnectedError", "ChainQLError"]
  | _ => []

/-- The wording of a fault. A look-up failure shows what was looked up in quotes. -/
def message : Fault → String
  | .misuse m => m.message
  | .mismatch m => m.message
  | .invalid model _ => model
  | .compilation message _ => message.display
  | .missingReturning table =>
    "INSERT into '" ++ table.display ++
      "' returned no row; the driver must support RETURNING."
  | .notConnected gateway => gateway.display ++ " is not connected. Await connect() first."
  | .described message => (message.map Value.display).getD ""
  | .raised "KeyError" message => quoted message
  | .raised _ message => message

/-- What a fault of the library offers to a handler. -/
def attributes : Fault → List (String × Value)
  | .misuse m => m.attributes
  | .compilation _ clause => [("clause", clause)]
  | .missingReturning table => [("table", table)]
  | .notConnected gateway => [("driver", gateway)]
  | _ => []

/-- The fault is a misuse. -/
def isMisuse : Fault → Bool
  | .misuse _ => true
  | _ => false

/-- The class of the error that a fault was raised from, if there is one. -/
def cause? : Fault → Option String
  | .misuse (.value _ _ _ (some m)) => some m.className
  | _ => none

end Fault

end FluentSql
