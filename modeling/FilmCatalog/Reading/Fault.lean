import FilmCatalog.Decimal.Shortest
import FilmCatalog.Film
import FilmCatalog.Text.Printable
import FilmCatalog.Text.Utf8

/-!
# What is wrong with a body

Reading stops at the first fault. A fault is a cause and a place, and the place is told by the bytes
that are still unread there. Only the whole body turns it into a line and a column.
-/

namespace FilmCatalog.Reading

/-! ## Causes -/

/-- A value that stands where another kind is wanted. -/
inductive Found
  | null
  | boolean (b : Bool)
  | integer (n : Int)
  | floating (x : Float)
  | text (s : String)
  | list
  | object

inductive Wanted
  | text | film
  deriving DecidableEq

inductive Cause
  | endInValue | endInObject | endInList | endInText
  | expectedValue | expectedWord | expectedColon | expectedCommaOrBrace | expectedCommaOrBracket
  | keyNotText | trailingComma | trailingCharacters
  | controlCharacter | invalidEscape | loneSurrogate | brokenPair | notUtf8
  | invalidNumber | numberOutOfRange
  | unknownField (name : String)
  | duplicateField (field : Field)
  | missingField (field : Field)
  | wrongLength (count : Nat)
  | wrongKind (found : Found) (wanted : Wanted)

/-- How numbers are written in messages: a point from the fifth place after it to the sixteenth before
it, and an exponent elsewhere. -/
def numberLayout : Decimal.Layout := { lowest := -5, highest := 15 }

def integerText (n : Int) : String :=
  if n < 0 then "-" ++ Decimal.text n.natAbs else Decimal.text n.natAbs

def Found.message : Found → String
  | .null => "null"
  | .boolean true => "boolean `true`"
  | .boolean false => "boolean `false`"
  | .integer n => "integer `" ++ integerText n ++ "`"
  | .floating x => "floating point `" ++ numberLayout.write x ++ "`"
  | .text s => "string " ++ Quoted.quote s
  | .list => "sequence"
  | .object => "map"

def Wanted.message : Wanted → String
  | .text => "a string"
  | .film => "struct Film"

def fieldNames : String :=
  ", ".intercalate (Field.all.map fun field => "`" ++ field.name ++ "`")

def Cause.message : Cause → String
  | .endInValue => "EOF while parsing a value"
  | .endInObject => "EOF while parsing an object"
  | .endInList => "EOF while parsing a list"
  | .endInText => "EOF while parsing a string"
  | .expectedValue => "expected value"
  | .expectedWord => "expected ident"
  | .expectedColon => "expected `:`"
  | .expectedCommaOrBrace => "expected `,` or `\x7d`"
  | .expectedCommaOrBracket => "expected `,` or `]`"
  | .keyNotText => "key must be a string"
  | .trailingComma => "trailing comma"
  | .trailingCharacters => "trailing characters"
  | .controlCharacter => "control character (\\u0000-\\u001F) found while parsing a string"
  | .invalidEscape => "invalid escape"
  | .loneSurrogate => "lone leading surrogate in hex escape"
  | .brokenPair => "unexpected end of hex escape"
  | .notUtf8 => "invalid unicode code point"
  | .invalidNumber => "invalid number"
  | .numberOutOfRange => "number out of range"
  | .unknownField name => "unknown field `" ++ name ++ "`, expected one of " ++ fieldNames
  | .duplicateField field => "duplicate field `" ++ field.name ++ "`"
  | .missingField field => "missing field `" ++ field.name ++ "`"
  | .wrongLength count =>
    "invalid length " ++ Decimal.text count ++ ", expected struct Film with 6 elements"
  | .wrongKind found wanted =>
    "invalid type: " ++ found.message ++ ", expected " ++ wanted.message

/-! ## Places -/

/-- A cause, with the number of bytes unread at its place. The column may be told some bytes further
back. -/
structure Fault where
  cause : Cause
  left : Nat
  back : Nat := 0

/-- A fault noticed after everything in front of `rest` was taken. -/
def Fault.here (cause : Cause) (rest : Bytes) : Fault :=
  { cause, left := rest.length }

/-- A fault of the byte that comes next. It is placed behind that byte, or at the end if there is
none. -/
def Fault.peek (cause : Cause) (rest : Bytes) : Fault :=
  { cause, left := rest.length - 1 }

/-- A cause with its line, counted from one, and the bytes in front of it on that line. -/
structure Problem where
  cause : Cause
  line : Nat
  column : Nat

/-- The line and column of a fault in the body it was found in. -/
def Fault.locate (fault : Fault) (body : Bytes) : Problem :=
  let passed := body.take (body.length - fault.left)
  { cause := fault.cause
    line := passed.count 0x0A + 1
    column := (passed.reverse.takeWhile (· != 0x0A)).length - fault.back }

def Problem.message (problem : Problem) : String :=
  problem.cause.message ++ " at line " ++ Decimal.text problem.line ++
    " column " ++ Decimal.text problem.column

end FilmCatalog.Reading
