/-!
# Texts as bytes

A byte string is cut into pieces from the left. A piece is a whole character, or the start of one
that breaks off. Reading a text, putting a mark in place of what is broken, and finding the intact
front all look at the same pieces.
-/

namespace FilmCatalog

abbrev Bytes := List UInt8

namespace Utf8

def encode (text : String) : Bytes :=
  text.toList.flatMap String.utf8EncodeChar

/-! ## Pieces -/

/-- A whole character, or a start that no character goes on from. -/
inductive Piece
  | whole (c : Char)
  | broken
  deriving DecidableEq, Repr

/-- What stands for a piece in a text: broken starts show as U+FFFD. -/
def Piece.shown : Piece → Char
  | .whole c => c
  | .broken => '\uFFFD'

def Piece.isWhole : Piece → Bool
  | .whole _ => true
  | .broken => false

/-- A character that has begun. Its next byte lies from `low` to `high`, and `more` bytes from 80 to
BF follow that one. -/
structure Begun where
  bits : Nat
  low : Nat := 0x80
  high : Nat := 0xBF
  more : Nat
  deriving DecidableEq, Repr

inductive Taken
  | char (c : Char)
  | begun (begun : Begun)
  deriving DecidableEq, Repr

/-- What a first byte leads to. Bytes from 80 to C1 and from F5 on lead to nothing, and the bounds of the
second byte keep out long spellings, surrogates and numbers past 10FFFF. -/
def first? (b : UInt8) : Option Taken :=
  let v := b.toNat
  if v < 0x80 then some (.char (Char.ofNat v))
  else if v < 0xC2 then none
  else if v < 0xE0 then some (.begun { bits := v - 0xC0, more := 0 })
  else if v < 0xF0 then
    some (.begun
      { bits := v - 0xE0
        low := if v = 0xE0 then 0xA0 else 0x80
        high := if v = 0xED then 0x9F else 0xBF
        more := 1 })
  else if v < 0xF5 then
    some (.begun
      { bits := v - 0xF0
        low := if v = 0xF0 then 0x90 else 0x80
        high := if v = 0xF4 then 0x8F else 0xBF
        more := 2 })
  else none

def Begun.fits (begun : Begun) (b : UInt8) : Bool :=
  begun.low ≤ b.toNat && b.toNat ≤ begun.high

/-- What a byte that fits leads to. Six bits of it count. -/
def Begun.take (begun : Begun) (b : UInt8) : Taken :=
  let bits := begun.bits * 64 + b.toNat % 64
  match begun.more with
  | 0 => .char (Char.ofNat bits)
  | more + 1 => .begun { bits, more }

/-- The pieces found so far, the last one first, and the character that has begun after them. -/
structure Cut where
  pieces : List Piece := []
  begun : Option Begun := none

namespace Cut

def put (pieces : List Piece) : Taken → Cut
  | .char c => { pieces := .whole c :: pieces }
  | .begun begun => { pieces, begun := some begun }

def start (pieces : List Piece) (b : UInt8) : Cut :=
  match first? b with
  | some taken => put pieces taken
  | none => { pieces := .broken :: pieces }

/-- Takes the next byte. One that does not fit breaks the begun character off and starts anew. -/
def next (cut : Cut) (b : UInt8) : Cut :=
  match cut.begun with
  | none => start cut.pieces b
  | some begun =>
    if begun.fits b then put cut.pieces (begun.take b) else start (.broken :: cut.pieces) b

/-- All pieces in order. A character that is still open at the end is broken. -/
def close (cut : Cut) : List Piece :=
  match cut.begun with
  | none => cut.pieces.reverse
  | some _ => (.broken :: cut.pieces).reverse

end Cut

def pieces (bytes : Bytes) : List Piece :=
  (bytes.foldl Cut.next {}).close

/-! ## Three readings -/

def decode? (bytes : Bytes) : Option String :=
  let found := pieces bytes
  if found.all Piece.isWhole then some (String.ofList (found.map Piece.shown)) else none

def lossy (bytes : Bytes) : String :=
  String.ofList ((pieces bytes).map Piece.shown)

/-- The text in front of the first broken piece. -/
def intact (bytes : Bytes) : String :=
  String.ofList (((pieces bytes).takeWhile Piece.isWhole).map Piece.shown)

end Utf8

end FilmCatalog
