import FilmCatalog.Decimal.Numeral

/-!
# Written answers

An answer is built as a value with ordered members and then written without blanks. In a written
text only the quote, the backslash and the characters below U+0020 are escaped.
-/

namespace FilmCatalog

/-- The values that answers are made of. Members keep their order. -/
inductive Json
  | text (s : String)
  | count (n : Nat)
  | list (items : List Json)
  | object (members : List (String × Json))

namespace Json

/-! ## Texts -/

def hexDigit (n : Nat) : Char := Nat.digitChar (n % 16)

/-- How a character is written inside a text. -/
def escapeChar (c : Char) : List Char :=
  if c = '"' then ['\\', '"']
  else if c = '\\' then ['\\', '\\']
  else if c.toNat < 0x20 then
    if c.toNat = 0x08 then ['\\', 'b']
    else if c.toNat = 0x09 then ['\\', 't']
    else if c.toNat = 0x0A then ['\\', 'n']
    else if c.toNat = 0x0C then ['\\', 'f']
    else if c.toNat = 0x0D then ['\\', 'r']
    else ['\\', 'u', '0', '0', hexDigit (c.toNat / 16), hexDigit c.toNat]
  else [c]

def escape (cs : List Char) : List Char := cs.flatMap escapeChar

/-- A text in quotes. -/
def quoted (s : String) : List Char := '"' :: (escape s.toList ++ ['"'])

/-! ## Values -/

def joined (items : List (List Char)) : List Char := [','].intercalate items

mutual

/-- The characters of a written value. -/
def chars : Json → List Char
  | .text s => quoted s
  | .count n => (Decimal.text n).toList
  | .list items => '[' :: (joined (itemChars items) ++ [']'])
  | .object members => '{' :: (joined (memberChars members) ++ ['}'])

def itemChars : List Json → List (List Char)
  | [] => []
  | item :: rest => chars item :: itemChars rest

def memberChars : List (String × Json) → List (List Char)
  | [] => []
  | (name, value) :: rest => (quoted name ++ ':' :: chars value) :: memberChars rest

end

def write (value : Json) : String := String.ofList value.chars

end Json

end FilmCatalog
