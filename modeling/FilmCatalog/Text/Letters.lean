/-!
# Letters and blanks

What texts on the wire are compared by. The letters A to Z count as their small forms and all other
characters keep their case. A character is blank when it has the property White_Space, and trimming
takes the blanks off both ends of a text and leaves those inside it.
-/

namespace FilmCatalog

/-! ## Letters and digits of Ascii -/

namespace Ascii

/-- The text with A to Z made small. -/
def lower (text : String) : String :=
  String.ofList (text.toList.map Char.toLower)

/-- Whether two texts differ at most in the case of A to Z. -/
def sameLetters (a b : String) : Bool :=
  lower a == lower b

/-- The value of a hexadecimal digit of either case. -/
def hexValue? (b : UInt8) : Option Nat :=
  let v := b.toNat
  if 0x30 ≤ v ∧ v ≤ 0x39 then some (v - 0x30)
  else if 0x41 ≤ v ∧ v ≤ 0x46 then some (v - 0x37)
  else if 0x61 ≤ v ∧ v ≤ 0x66 then some (v - 0x57)
  else none

theorem hexValue?_lt {b : UInt8} {n : Nat} (h : hexValue? b = some n) : n < 16 := by
  simp only [hexValue?] at h
  grind

end Ascii

/-! ## Blanks -/

namespace Blank

/-- First and last code point of each run of blanks. -/
def ranges : List (Nat × Nat) :=
  [(0x09, 0x0D), (0x20, 0x20), (0x85, 0x85), (0xA0, 0xA0), (0x1680, 0x1680), (0x2000, 0x200A),
    (0x2028, 0x2029), (0x202F, 0x202F), (0x205F, 0x205F), (0x3000, 0x3000)]

def isBlank (c : Char) : Bool :=
  ranges.any fun (low, high) => low ≤ c.toNat && c.toNat ≤ high

/-- The text without the blanks at its ends. -/
def trim (text : String) : String :=
  String.ofList ((text.toList.dropWhile isBlank).reverse.dropWhile isBlank).reverse

end Blank

end FilmCatalog
