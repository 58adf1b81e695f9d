import FilmCatalog.Datum
import FilmCatalog.Reading.Film

/-!
# Reading data

A reader of JSON that knows nothing of films or answers. It gives what a text says, or nothing where a
text is none of the grammar.
-/

namespace FilmCatalog.Datum

open Grammar (digitsValue words)
open Reading (exponentSign isDigitByte readText readValue skipBlanks)

variable {α : Type}

/-! ## Numbers -/

/-- The digits in front, if there is one, and what follows them. -/
def readDigits (bytes : Bytes) : Option (Bytes × Bytes) :=
  let digits := bytes.takeWhile isDigitByte
  if digits = [] then none else some (digits, bytes.dropWhile isDigitByte)

def readWhole (bytes : Bytes) : Option (Bytes × Bytes) :=
  (readDigits bytes).filter fun (digits, _) => digits.head? != some 0x30 || digits == [0x30]

def readFraction : Bytes → Option (Bytes × Bytes)
  | 0x2E :: rest => readDigits rest
  | bytes => some ([], bytes)

def readExponent : Bytes → Option (Int × Bytes)
  | 0x65 :: rest | 0x45 :: rest =>
    let (down, rest) := exponentSign rest
    (readDigits rest).map fun (digits, rest) =>
      (if down then -digitsValue digits else digitsValue digits, rest)
  | bytes => some (0, bytes)

/-- A number from behind its sign. -/
def readMagnitude (bytes : Bytes) : Option (Nat × Int × Bytes) := do
  let (whole, rest) ← readWhole bytes
  let (places, rest) ← readFraction rest
  let (power, rest) ← readExponent rest
  return (digitsValue (whole ++ places), power - places.length, rest)

def readNumber : Bytes → Option (Datum × Bytes)
  | 0x2D :: rest =>
    (readMagnitude rest).map fun (n, exponent, rest) => (.number (-n) exponent, rest)
  | bytes => (readMagnitude bytes).map fun (n, exponent, rest) => (.number n exponent, rest)

/-! ## Rows -/

/-- Where the next item begins. Behind another item a comma stands in front of it. -/
def entry? (begun : Bool) (bytes : Bytes) : Option Bytes :=
  if begun then
    match skipBlanks bytes with
    | 0x2C :: rest => some rest
    | _ => none
  else some bytes

/-- Fewer than `count` items, and the closing bracket. -/
def readRow (read : Bytes → Option (α × Bytes)) (last : UInt8) :
    Nat → Bool → Bytes → Option (List α × Bytes)
  | 0, _, _ => none
  | count + 1, begun, bytes =>
    if (skipBlanks bytes).head? = some last then some ([], (skipBlanks bytes).drop 1)
    else do
      let start ← entry? begun bytes
      let (x, rest) ← read start
      let (xs, rest) ← readRow read last count true rest
      return (x :: xs, rest)

def readSpaced (read : Bytes → Option (α × Bytes)) (bytes : Bytes) : Option (α × Bytes) :=
  read (skipBlanks bytes)

/-- A key, a colon and what stands behind it. -/
def readKeyed (read : Bytes → Option (α × Bytes)) (bytes : Bytes) :
    Option ((String × α) × Bytes) :=
  match readValue bytes with
  | .error _ => none
  | .ok (name, rest) =>
    match skipBlanks rest with
    | 0x3A :: rest => (readSpaced read rest).map fun (x, rest) => ((name, x), rest)
    | _ => none

/-! ## Values -/

def readWord (bytes : Bytes) : Option (Datum × Bytes) :=
  (words.find? fun word => word.1.isPrefixOf bytes).map fun word =>
    (word.2, bytes.drop word.1.length)

/-- Reads a value in which less than `depth` brackets stand inside each other. -/
def readNested : Nat → Bytes → Option (Datum × Bytes)
  | 0, _ => none
  | _, [] => none
  | depth + 1, b :: rest =>
    if b = 0x22 then (readText rest).toOption.map fun (s, rest) => (.text s, rest)
    else if b = 0x5B then
      (readRow (readSpaced (readNested depth)) 0x5D rest.length false rest).map
        fun (items, rest) => (.list items, rest)
    else if b = 0x7B then
      (readRow (readKeyed (readNested depth)) 0x7D rest.length false rest).map
        fun (members, rest) => (.object members, rest)
    else (readWord (b :: rest)).or (readNumber (b :: rest))

/-- What a text says. No text is as deep as it is long. -/
def read (bytes : Bytes) : Option Datum :=
  match readNested bytes.length (skipBlanks bytes) with
  | some (datum, rest) => if skipBlanks rest = [] then some datum else none
  | none => none

end FilmCatalog.Datum
