/-!
# Numerals

A numeral is a row of digits from 0 to 9. It is read from the left, and the first character that is
no digit, or the first digit that makes the value too large, decides.
-/

namespace FilmCatalog.Decimal

def digit? (c : Char) : Option Nat :=
  if c.isDigit then some (c.toNat - '0'.toNat) else none

def value (digits : List Char) : Nat := Nat.ofDigitChars 10 digits 0

/-- The digits of a number, without leading zeros. -/
def text (n : Nat) : String := String.ofList (Nat.toDigits 10 n)

inductive Fault
  | empty | strayCharacter | tooLarge
  deriving DecidableEq, Repr

def Fault.name : Fault → String
  | .empty => "Empty"
  | .strayCharacter => "InvalidDigit"
  | .tooLarge => "PosOverflow"

/-- Reads digits onto a value, as long as it stays within the limit. -/
def readOnto (limit value : Nat) : List Char → Except Fault Nat
  | [] => .ok value
  | c :: rest =>
    match digit? c with
    | none => .error .strayCharacter
    | some d =>
      if 10 * value + d ≤ limit then readOnto limit (10 * value + d) rest else .error .tooLarge

/-- Reads a number up to a limit. One plus sign and any number of zeros may stand in front, and a
lone sign is a stray character. -/
def read (limit : Nat) (text : String) : Except Fault Nat :=
  match text.toList with
  | [] => .error .empty
  | ['+'] => .error .strayCharacter
  | '+' :: digits => readOnto limit 0 digits
  | digits => readOnto limit 0 digits

/-- Whether a text is the one way to write some number: digits without a leading zero. -/
def isCanonical (text : String) : Bool :=
  match text.toList with
  | [] => false
  | ['0'] => true
  | '0' :: _ => false
  | digits => digits.all Char.isDigit

end FilmCatalog.Decimal
