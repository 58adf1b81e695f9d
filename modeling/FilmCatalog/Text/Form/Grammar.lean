import FilmCatalog.Text.Form

/-!
# The grammar of forms

How pairs stand in a form and how their bytes are escaped, said without a reader.
-/

namespace FilmCatalog.Form

/-! ## Bytes -/

/-- Two hexadecimal digits, of either case, spell a byte. -/
def HexPair (high low b : UInt8) : Prop :=
  ∃ h l, Ascii.hexValue? high = some h ∧ Ascii.hexValue? low = some l ∧ b.toNat = h * 16 + l

/-- A byte as itself, as a blank that shows as `+`, or as an escape. -/
inductive Spelling : UInt8 → Bytes → Prop
  | plain {b : UInt8} (hpercent : b ≠ 0x25) (hplus : b ≠ 0x2B) : Spelling b [b]
  | blank : Spelling 0x20 [0x2B]
  | escaped {high low b : UInt8} (hpair : HexPair high low b) : Spelling b [0x25, high, low]

/-- What written bytes stand for. A percent sign that no two digits follow stands for itself. -/
inductive StandsFor : Bytes → Bytes → Prop
  | nil : StandsFor [] []
  | cons {b : UInt8} {first rest bytes : Bytes} (hfirst : Spelling b first)
      (hrest : StandsFor rest bytes) : StandsFor (first ++ rest) (b :: bytes)
  | percent {rest bytes : Bytes}
      (halone : ∀ high low b more, rest = high :: low :: more → ¬ HexPair high low b)
      (hrest : StandsFor rest bytes) : StandsFor (0x25 :: rest) (0x25 :: bytes)

/-- The ways to write a value: each byte as it likes, but none as a raw `&`. -/
inductive Encodes : Bytes → Bytes → Prop
  | nil : Encodes [] []
  | cons {b : UInt8} {bytes first rest : Bytes} (hfirst : Spelling b first) (hand : 0x26 ∉ first)
      (hrest : Encodes bytes rest) : Encodes (b :: bytes) (first ++ rest)

/-! ## Pairs -/

inductive Part : Bytes → Bytes → Bytes → Prop
  | pair {name value : Bytes} (hname : 0x3D ∉ name) : Part name value (name ++ 0x3D :: value)
  | bare {name : Bytes} (hsome : name ≠ []) (hname : 0x3D ∉ name) : Part name [] name

/-- The first pair of a form with this name has this value. Pairs in front of it have other names, and
behind it anything may stand. -/
def FirstValue (name : String) (form value : Bytes) : Prop :=
  ∃ (before : List Bytes) (part : Bytes) (after : List Bytes) (spelt : Bytes),
    form = [0x26].intercalate (before ++ part :: after) ∧
    (∀ other ∈ before ++ part :: after, 0x26 ∉ other) ∧
    Part spelt value part ∧ text spelt = name ∧
    ∀ earlier ∈ before, ∀ spelt value, Part spelt value earlier → text spelt ≠ name

/-- The values that some parts of a form have under a name, in their order. -/
inductive Yields (name : String) : List Bytes → List Bytes → Prop
  | nil : Yields name [] []
  | value {spelt value part : Bytes} {parts values : List Bytes} (hpart : Part spelt value part)
      (hname : text spelt = name) (hrest : Yields name parts values) :
    Yields name (part :: parts) (value :: values)
  | other {part : Bytes} {parts values : List Bytes}
      (hother : ∀ spelt value, Part spelt value part → text spelt ≠ name)
      (hrest : Yields name parts values) : Yields name (part :: parts) values

/-- All values that a form has under a name. -/
def Values (name : String) (form : Bytes) (values : List Bytes) : Prop :=
  ∃ parts : List Bytes, parts ≠ [] ∧ form = [0x26].intercalate parts ∧ (∀ part ∈ parts, 0x26 ∉ part) ∧
    Yields name parts values

end FilmCatalog.Form
