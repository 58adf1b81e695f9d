import FilmCatalog.Decimal.Numeral
import FilmCatalog.Reading.Grammar
import FilmCatalog.Reading.Number

/-!
# Data

What a JSON text says, and all the ways to write it. A film in a body and an answer of the service
are each written in a part of this grammar.
-/

namespace FilmCatalog

/-- What a JSON text says. A number is its digits times a power of ten, and members keep their order. -/
inductive Datum
  | null
  | boolean (value : Bool)
  | number (digits exponent : Int)
  | text (s : String)
  | list (items : List Datum)
  | object (members : List (String × Datum))

namespace Grammar

open Reading (isDigitByte)

/-! ## Numbers -/

def Digits (digits : Bytes) : Prop := digits ≠ [] ∧ ∀ b ∈ digits, isDigitByte b

/-- The number that some digits spell. -/
def digitsValue (digits : Bytes) : Nat := Decimal.value (digits.map fun b => Char.ofNat b.toNat)

/-- The digits in front of the point. They begin with a zero only if they are no more than that. -/
def Whole (digits : Bytes) : Prop := Digits digits ∧ (digits.head? = some 0x30 → digits = [0x30])

/-- The places behind the point, with the point. Both may be missing. -/
inductive Fraction : Bytes → Bytes → Prop
  | missing : Fraction [] []
  | places {digits : Bytes} (hdigits : Digits digits) : Fraction digits (0x2E :: digits)

/-- The power of ten, which may be missing. -/
inductive Exponent : Int → Bytes → Prop
  | missing : Exponent 0 []
  | plain {letter : UInt8} {digits : Bytes} (hletter : letter = 0x65 ∨ letter = 0x45)
      (hdigits : Digits digits) : Exponent (digitsValue digits) (letter :: digits)
  | plus {letter : UInt8} {digits : Bytes} (hletter : letter = 0x65 ∨ letter = 0x45)
      (hdigits : Digits digits) : Exponent (digitsValue digits) (letter :: 0x2B :: digits)
  | minus {letter : UInt8} {digits : Bytes} (hletter : letter = 0x65 ∨ letter = 0x45)
      (hdigits : Digits digits) : Exponent (-digitsValue digits) (letter :: 0x2D :: digits)

/-- A number without a sign. Each place behind the point takes one off the power of ten. -/
inductive Magnitude : Nat → Int → Bytes → Prop
  | mk {whole places fraction tail : Bytes} {power : Int} (hwhole : Whole whole)
      (hfraction : Fraction places fraction) (hpower : Exponent power tail) :
    Magnitude (digitsValue (whole ++ places)) (power - places.length) (whole ++ (fraction ++ tail))

inductive Number : Int → Int → Bytes → Prop
  | plain {n : Nat} {exponent : Int} {bytes : Bytes} (h : Magnitude n exponent bytes) :
    Number n exponent bytes
  | minus {n : Nat} {exponent : Int} {bytes : Bytes} (h : Magnitude n exponent bytes) :
    Number (-n) exponent (0x2D :: bytes)

/-! ## Values -/

/-- The values that are written as words. -/
def words : List (Bytes × Datum) :=
  [(Utf8.encode "null", .null), (Utf8.encode "true", .boolean true),
    (Utf8.encode "false", .boolean false)]

mutual

inductive Spells : Datum → Bytes → Prop
  | word {word : Bytes} {datum : Datum} (hword : (word, datum) ∈ words) : Spells datum word
  | number {digits exponent : Int} {bytes : Bytes} (h : Number digits exponent bytes) :
    Spells (.number digits exponent) bytes
  | text {s : String} {bytes : Bytes} (h : Quoted s bytes) : Spells (.text s) bytes
  | list {items : List Datum} {row : Bytes} (hrow : Row Spaced 0x5D false items row) :
    Spells (.list items) (0x5B :: row)
  | object {members : List (String × Datum)} {row : Bytes}
      (hrow : Row Keyed 0x7D false members row) : Spells (.object members) (0x7B :: row)

/-- A value with blanks in front of it. -/
inductive Spaced : Datum → Bytes → Prop
  | mk {datum : Datum} {gap bytes : Bytes} (hgap : Blanks gap) (hspells : Spells datum bytes) :
    Spaced datum (gap ++ bytes)

/-- A key, a colon and a value. -/
inductive Keyed : String × Datum → Bytes → Prop
  | mk {name : String} {datum : Datum} {key gap bytes : Bytes} (hkey : Value name key)
      (hgap : Blanks gap) (hspaced : Spaced datum bytes) :
    Keyed (name, datum) (key ++ (gap ++ 0x3A :: bytes))

end

/-- A whole text, with blanks around its value and nothing else. -/
def Document (datum : Datum) (bytes : Bytes) : Prop := Alone (Spells datum) bytes

end Grammar

end FilmCatalog
