import FilmCatalog.Film
import FilmCatalog.Text.Letters
import FilmCatalog.Text.Utf8

/-!
# The grammar of a body

How texts, objects and lists of texts are written, said of their bytes and without a reader.
-/

namespace FilmCatalog.Grammar

def Blanks (gap : Bytes) : Prop := ∀ b ∈ gap, b = 0x20 ∨ b = 0x09 ∨ b = 0x0A ∨ b = 0x0D

theorem blanks_nil : Blanks [] := nofun

/-! ## Texts -/

/-- Each letter that makes an escape by itself, with the character that it stands for. -/
def shortEscapes : List (UInt8 × Char) :=
  [(0x22, '"'), (0x5C, '\\'), (0x2F, '/'), (0x62, '\x08'), (0x66, '\x0C'), (0x6E, '\n'),
    (0x72, '\r'), (0x74, '\t')]

/-- Four hexadecimal digits spell a number. -/
def Hex (digits : Bytes) (n : Nat) : Prop :=
  ∃ a b c d, digits.map Ascii.hexValue? = [some a, some b, some c, some d] ∧
    n = ((a * 16 + b) * 16 + c) * 16 + d

/-- What may stand behind a backslash. A number that is half of a surrogate pair is the number of no
character, so `code` leaves it out. -/
inductive Escape : Char → Bytes → Prop
  | short {c : Char} {letter : UInt8} (hletter : (letter, c) ∈ shortEscapes) : Escape c [letter]
  | code {c : Char} {digits : Bytes} (hdigits : Hex digits c.toNat) : Escape c (0x75 :: digits)
  | pair {c : Char} {high low : Nat} {first second : Bytes}
      (hfirst : Hex first high) (hhigh : 0xD800 ≤ high ∧ high ≤ 0xDBFF)
      (hsecond : Hex second low) (hlow : 0xDC00 ≤ low ∧ low ≤ 0xDFFF)
      (hc : c.toNat = 0x10000 + (high - 0xD800) * 0x400 + (low - 0xDC00)) :
    Escape c (0x75 :: (first ++ 0x5C :: 0x75 :: second))

/-- A character between the quotes of a text: its own bytes, or an escape. -/
inductive Spelling : Char → Bytes → Prop
  | plain {c : Char} (hquote : c ≠ '"') (hbackslash : c ≠ '\\') (hcontrol : 0x20 ≤ c.toNat) :
    Spelling c (String.utf8EncodeChar c)
  | escaped {c : Char} {bytes : Bytes} (hescape : Escape c bytes) : Spelling c (0x5C :: bytes)

inductive Inside : List Char → Bytes → Prop
  | nil : Inside [] []
  | cons {c : Char} {cs : List Char} {first rest : Bytes} (hfirst : Spelling c first)
      (hrest : Inside cs rest) : Inside (c :: cs) (first ++ rest)

/-- A text in quotes. -/
def Quoted (s : String) (bytes : Bytes) : Prop :=
  ∃ inside, Inside s.toList inside ∧ bytes = 0x22 :: (inside ++ [0x22])

/-- A text in quotes, with blanks in front of it. -/
def Value (s : String) (bytes : Bytes) : Prop :=
  ∃ gap text, Blanks gap ∧ Quoted s text ∧ bytes = gap ++ text

/-! ## Objects and lists -/

/-- Items up to the closing bracket. The flag says whether an item stands in front, and then the next
one needs a comma. -/
inductive Row {α : Type} (Item : α → Bytes → Prop) (last : UInt8) : Bool → List α → Bytes → Prop
  | close {begun : Bool} {gap : Bytes} (hgap : Blanks gap) : Row Item last begun [] (gap ++ [last])
  | first {x : α} {xs : List α} {item rest : Bytes} (hitem : Item x item)
      (hrest : Row Item last true xs rest) : Row Item last false (x :: xs) (item ++ rest)
  | further {x : α} {xs : List α} {gap item rest : Bytes} (hgap : Blanks gap) (hitem : Item x item)
      (hrest : Row Item last true xs rest) :
    Row Item last true (x :: xs) (gap ++ 0x2C :: (item ++ rest))

/-- A key, a colon and a text. -/
def Member (pair : String × String) (bytes : Bytes) : Prop :=
  ∃ key gap value, Value pair.1 key ∧ Blanks gap ∧ Value pair.2 value ∧
    bytes = key ++ gap ++ 0x3A :: value

def Object (pairs : List (String × String)) (bytes : Bytes) : Prop :=
  ∃ row, Row Member 0x7D false pairs row ∧ bytes = 0x7B :: row

def TextList (texts : List String) (bytes : Bytes) : Prop :=
  ∃ row, Row Value 0x5D false texts row ∧ bytes = 0x5B :: row

/-! ## Bodies -/

/-- Something with blanks around it, and nothing else. -/
def Alone (Written : Bytes → Prop) (body : Bytes) : Prop :=
  ∃ before written after, Blanks before ∧ Written written ∧ Blanks after ∧
    body = before ++ written ++ after

/-- The keys are the names of the six fields, each once and in any order, and behind each of them
stands the text of its field. -/
def FilmObject (film : Film) (body : Bytes) : Prop :=
  ∃ pairs : List (String × String), Alone (Object pairs) body ∧
    (pairs.map (·.1)).Perm (Field.all.map Field.name) ∧
    ∀ field, (field.name, film.get field) ∈ pairs

/-- The six texts in the order of the fields. -/
def FilmList (film : Film) (body : Bytes) : Prop := Alone (TextList (Field.all.map film.get)) body

end FilmCatalog.Grammar
