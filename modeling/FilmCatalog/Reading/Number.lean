import FilmCatalog.Reading.Fault

/-!
# Reading a number

No film holds a number, but a message tells the value of one. Digits are gathered while they stay
below a limit. What does not fit any more counts for the exponent in front of the point, and for
nothing behind it.
-/

namespace FilmCatalog.Reading

/-! ## Digits -/

def digitValue? (b : UInt8) : Option Nat :=
  if 0x30 ≤ b ∧ b ≤ 0x39 then some (b.toNat - 0x30) else none

def isDigitByte (b : UInt8) : Bool := (digitValue? b).isSome

structure Gathered where
  value : Nat
  count : Nat
  rest : Bytes

/-- Gathers digits onto a value, up to the first one that would take it beyond the limit. -/
def gather (limit value count : Nat) : Bytes → Gathered
  | [] => { value, count, rest := [] }
  | b :: rest =>
    match digitValue? b with
    | none => { value, count, rest := b :: rest }
    | some d =>
      if value * 10 + d ≤ limit then gather limit (value * 10 + d) (count + 1) rest
      else { value, count, rest := b :: rest }

/-! ## Values -/

def powerOfTen (exponent : Nat) : Float := Float.ofScientific 1 false exponent

/-- Divides by ten to a power, in steps of 308 places. -/
def scaleDown (x : Float) (exponent : Nat) : Float :=
  if exponent ≤ 308 then x / powerOfTen exponent
  else if x == 0 then x
  else scaleDown (x / powerOfTen 308) (exponent - 308)
termination_by exponent

/-- Significand times ten to a power, if that is finite. -/
def scale? (significand : Nat) (exponent : Int) : Option Float :=
  let x := (UInt64.ofNat significand).toFloat
  if exponent < 0 then some (scaleDown x exponent.natAbs)
  else if exponent ≤ 308 then
    let y := x * powerOfTen exponent.natAbs
    if y.isInf then none else some y
  else if x == 0 then some x
  else none

/-- A number that is not whole, with its sign. A zero has a sign too. -/
def signed (negative : Bool) (x : Float) : Found := .floating (if negative then -x else x)

def finish (negative : Bool) (significand : Nat) (exponent : Int) (rest : Bytes) :
    Except Fault (Found × Bytes) :=
  match scale? significand exponent with
  | some x => .ok (signed negative x, rest)
  | none => .error (.here .numberOutOfRange rest)

/-- A number without point and exponent. Within 64 bits it is whole, and a negative zero never is. -/
def whole (negative : Bool) (n : Nat) : Found :=
  if negative then
    if 0 < n ∧ n ≤ 0x8000000000000000 then .integer (-n) else signed true (UInt64.ofNat n).toFloat
  else .integer n

/-! ## Parts -/

def exponentLimit : Nat := 0x7FFFFFFF

/-- Reads an exponent from behind its sign. One that is too large decides alone. -/
def readExponent (negative : Bool) (significand : Nat) (shift : Int) (down : Bool) (bytes : Bytes) :
    Except Fault (Found × Bytes) :=
  match bytes with
  | [] => .error (.here .endInValue [])
  | b :: rest =>
    if isDigitByte b then
      let written := gather exponentLimit 0 0 bytes
      if written.rest.head?.any isDigitByte then
        if significand ≠ 0 ∧ !down then .error (.here .numberOutOfRange (written.rest.drop 1))
        else .ok (signed negative 0, written.rest.dropWhile isDigitByte)
      else
        let exponent := if down then shift - written.value else shift + written.value
        finish negative significand exponent written.rest
    else .error (.here .invalidNumber rest)

def exponentSign : Bytes → Bool × Bytes
  | 0x2B :: rest => (false, rest)
  | 0x2D :: rest => (true, rest)
  | bytes => (false, bytes)

def readTail (negative : Bool) (significand : Nat) (shift : Int) (bytes : Bytes) :
    Except Fault (Found × Bytes) :=
  match bytes with
  | 0x65 :: rest | 0x45 :: rest =>
    let (down, rest) := exponentSign rest
    readExponent negative significand shift down rest
  | bytes => finish negative significand shift bytes

def significandLimit : Nat := 0xFFFFFFFFFFFFFFFF

def readFraction (negative : Bool) (significand dropped : Nat) (bytes : Bytes) :
    Except Fault (Found × Bytes) :=
  match bytes with
  | [] => .error (.peek .endInValue [])
  | b :: _ =>
    if isDigitByte b then
      let gathered := gather significandLimit significand 0 bytes
      readTail negative gathered.value (dropped - gathered.count)
        (gathered.rest.dropWhile isDigitByte)
    else .error (.peek .invalidNumber bytes)

/-- Goes on behind the digits in front of the point, of which `dropped` did not fit. -/
def readAfterWhole (negative : Bool) (significand dropped : Nat) (bytes : Bytes) :
    Except Fault (Found × Bytes) :=
  match bytes with
  | 0x2E :: rest => readFraction negative significand dropped rest
  | 0x65 :: _ | 0x45 :: _ => readTail negative significand dropped bytes
  | bytes =>
    if dropped = 0 then .ok (whole negative significand, bytes)
    else finish negative significand dropped bytes

def readNumber (negative : Bool) (bytes : Bytes) : Except Fault (Found × Bytes) :=
  match bytes with
  | [] => .error (.here .endInValue [])
  | 0x30 :: rest =>
    if rest.head?.any isDigitByte then .error (.peek .invalidNumber rest)
    else readAfterWhole negative 0 0 rest
  | b :: rest =>
    if isDigitByte b then
      let gathered := gather significandLimit 0 0 bytes
      let dropped := (gathered.rest.takeWhile isDigitByte).length
      readAfterWhole negative gathered.value dropped (gathered.rest.dropWhile isDigitByte)
    else .error (.here .invalidNumber rest)

end FilmCatalog.Reading
