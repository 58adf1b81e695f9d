import FilmCatalog.Decimal.Numeral

/-!
# Shortest decimals

A floating-point number stands for all reals that round to it. It is written with the fewest digits
that name one of those reals, and of the reals with so few digits it takes the one nearest to the
number itself. A half goes to the even digit. All sums are exact.
-/

namespace FilmCatalog.Decimal

/-! ## The reals that round to a number -/

/-- A positive number with the bounds of the reals that round to it, as fractions over one
denominator. The bounds themselves belong to it when it is closed. -/
structure Rounding where
  low : Nat
  value : Nat
  high : Nat
  denominator : Nat
  closed : Bool

namespace Rounding

/-- The leading bit of a significand, which is not written. -/
def leadingBit : Nat := 0x10000000000000

/-- Decodes the size of a finite double from its bits, in quarters of its last place. Below a power
of two the neighbour is half as far. -/
def ofBits (bits : UInt64) : Rounding :=
  let fraction := bits.toNat % leadingBit
  let biased := bits.toNat / leadingBit % 0x800
  let m := if biased = 0 then fraction else leadingBit + fraction
  let up := max biased 1 - 1077
  let down := 1077 - max biased 1
  { low := (if fraction = 0 ∧ 1 < biased then 4 * m - 1 else 4 * m - 2) * Nat.pow 2 up
    value := 4 * m * Nat.pow 2 up
    high := (4 * m + 2) * Nat.pow 2 up
    denominator := Nat.pow 2 down
    closed := m % 2 == 0 }

def inUnits (r : Rounding) (place : Int) : Rounding :=
  { low := r.low * Nat.pow 10 (-place).toNat
    value := r.value * Nat.pow 10 (-place).toNat
    high := r.high * Nat.pow 10 (-place).toNat
    denominator := r.denominator * Nat.pow 10 place.toNat
    closed := r.closed }

def holds (r : Rounding) (k : Nat) : Bool :=
  let n := k * r.denominator
  if r.closed then r.low ≤ n && n ≤ r.high else r.low < n && n < r.high

/-- The whole number of units that is nearest, of the two around the value, if one of them rounds to
the number. -/
def nearest? (r : Rounding) : Option Nat :=
  let k := r.value / r.denominator
  let below := r.value % r.denominator
  let above := r.denominator - below
  match r.holds k, r.holds (k + 1) with
  | false, false => none
  | true, false => some k
  | false, true => some (k + 1)
  | true, true =>
    some (if below < above ∨ (below = above ∧ k % 2 = 0) then k else k + 1)

def firstPlace (r : Rounding) : Int :=
  let count (n : Nat) : Int := (Nat.toDigits 10 n).length
  -- Below one, the inverse of the value tells how many zeros stand in front.
  if r.denominator ≤ r.value then count (r.value / r.denominator) - 1
  else - count ((r.denominator - 1) / r.value)

end Rounding

/-! ## Digits and their place -/

/-- Digits that begin at a power of ten, without zeros at the end. -/
structure Digits where
  digits : List Char
  place : Int

def Digits.ofUnits (n : Nat) (unit : Int) : Digits :=
  let digits := Nat.toDigits 10 n
  { digits := (digits.reverse.dropWhile (· == '0')).reverse
    place := unit + digits.length - 1 }

/-- The shortest digits of a positive number. Seventeen are always enough. -/
def Rounding.shortest (r : Rounding) : Digits :=
  let place := r.firstPlace
  let found := (List.range 17).findSome? fun (more : Nat) =>
    let unit := place - more
    ((r.inUnits unit).nearest?).map (Digits.ofUnits · unit)
  found.getD (Digits.ofUnits 0 0)

/-! ## The written number -/

/-- Where digits are written around a point: first places from `lowest` to `highest`. Outside, an
exponent follows them. -/
structure Layout where
  lowest : Int
  highest : Int

def Digits.positional (d : Digits) : List Char :=
  if d.place < 0 then
    '0' :: '.' :: (List.replicate (-d.place - 1).toNat '0' ++ d.digits)
  else
    let whole := d.place.toNat + 1
    let digits := d.digits ++ List.replicate (whole - d.digits.length) '0'
    let fraction := digits.drop whole
    digits.take whole ++ '.' :: (if fraction.isEmpty then ['0'] else fraction)

def Digits.scientific (d : Digits) : List Char :=
  let exponent := (if d.place < 0 then '-' else '+') :: Nat.toDigits 10 d.place.natAbs
  match d.digits with
  | [] => []
  | [digit] => digit :: 'e' :: exponent
  | digit :: more => digit :: '.' :: more ++ 'e' :: exponent

def signBit : Nat := 0x8000000000000000

/-- The text of a finite number. Zero keeps its sign. -/
def Layout.write (layout : Layout) (x : Float) : String :=
  let bits := x.toBits
  let size :=
    if bits.toNat % signBit = 0 then ['0', '.', '0']
    else
      let d := (Rounding.ofBits bits).shortest
      if layout.lowest ≤ d.place ∧ d.place ≤ layout.highest then d.positional else d.scientific
  String.ofList (if bits.toNat < signBit then size else '-' :: size)

end FilmCatalog.Decimal
