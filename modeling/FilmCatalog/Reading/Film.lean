import FilmCatalog.Reading.Number
import FilmCatalog.Reading.Text

/-!
# Reading a film

A film is an object with the six fields, each exactly once and in any order, or a list of the six
texts in the order of the fields. Nothing but blanks may stand around it.
-/

namespace FilmCatalog.Reading

def isBlankByte (b : UInt8) : Bool := b == 0x20 || b == 0x09 || b == 0x0A || b == 0x0D

def skipBlanks (bytes : Bytes) : Bytes := bytes.dropWhile isBlankByte

/-! ## Values of another kind -/

/-- The rest of a word. A byte that differs is taken before the fault. -/
def readWord : Bytes → Bytes → Except Fault Bytes
  | [], rest => .ok rest
  | _ :: _, [] => .error (.here .endInValue [])
  | w :: word, b :: rest =>
    if b = w then readWord word rest else .error (.here .expectedWord rest)

/-- Reads as much of a value as tells its kind. Of lists and objects nothing is taken. -/
def readFound (bytes : Bytes) : Except Fault (Found × Bytes) :=
  match bytes with
  | [] => .error (.peek .endInValue [])
  | b :: rest =>
    match b with
    | 0x5B => .ok (.list, bytes)
    | 0x7B => .ok (.object, bytes)
    | 0x6E => (readWord (Utf8.encode "ull") rest).map (.null, ·)
    | 0x74 => (readWord (Utf8.encode "rue") rest).map (.boolean true, ·)
    | 0x66 => (readWord (Utf8.encode "alse") rest).map (.boolean false, ·)
    | 0x22 => (readText rest).map fun (text, rest) => (.text text, rest)
    | 0x2D => readNumber true rest
    | b => if isDigitByte b then readNumber false bytes else .error (.peek .expectedValue bytes)

def wrongKind (wanted : Wanted) (bytes : Bytes) : Fault :=
  match readFound bytes with
  | .error fault => fault
  | .ok (found, rest) => .here (.wrongKind found wanted) rest

def readValue (bytes : Bytes) : Except Fault (String × Bytes) :=
  match skipBlanks bytes with
  | [] => .error (.peek .endInValue [])
  | 0x22 :: rest => readText rest
  | bytes => .error (wrongKind .text bytes)

/-! ## Objects -/

structure Draft where
  film : Film := {}
  absent : List Field := Field.all

inductive Next
  | close (rest : Bytes)
  | entry (rest : Bytes)

/-- Finds the end of the object or the quote of the next key, and takes it. Every member but the first
needs a comma. -/
def nextMember (begun : Bool) (bytes : Bytes) : Except Fault Next :=
  match skipBlanks bytes with
  | [] => .error (.peek .endInObject [])
  | 0x7D :: rest => .ok (.close rest)
  | bytes =>
    match begun, bytes with
    | false, 0x22 :: rest => .ok (.entry rest)
    | false, bytes => .error (.peek .keyNotText bytes)
    | true, 0x2C :: rest =>
      match skipBlanks rest with
      | [] => .error (.peek .endInValue [])
      | 0x22 :: rest => .ok (.entry rest)
      | 0x7D :: rest => .error (.peek .trailingComma (0x7D :: rest))
      | bytes => .error (.peek .keyNotText bytes)
    | true, bytes => .error (.peek .expectedCommaOrBrace bytes)

/-- A key that must not stand here is told only after blanks and the end of the object, if it comes
next. -/
def passClose (bytes : Bytes) : Bytes :=
  match skipBlanks bytes with
  | 0x7D :: rest => rest
  | bytes => bytes

/-- Reads a key that is still absent, from behind its first quote to behind its colon. -/
def readKey (absent : List Field) (bytes : Bytes) :
    Except Fault ({ field : Field // field ∈ absent } × Bytes) :=
  match readText bytes with
  | .error fault => .error fault
  | .ok (name, rest) =>
    match Field.ofName? name with
    | none => .error (.here (.unknownField name) (passClose rest))
    | some field =>
      if h : field ∈ absent then
        match skipBlanks rest with
        | [] => .error (.peek .endInObject [])
        | 0x3A :: rest => .ok (⟨field, h⟩, rest)
        | bytes => .error (.peek .expectedColon bytes)
      else .error (.here (.duplicateField field) (passClose rest))

/-- Reads members until the object ends. Then the first absent field is missing. -/
def readMembers (draft : Draft) (bytes : Bytes) : Except Fault (Film × Bytes) :=
  match nextMember (draft.absent != Field.all) bytes with
  | .error fault => .error fault
  | .ok (.close rest) =>
    match draft.absent with
    | [] => .ok (draft.film, rest)
    | field :: _ => .error (.here (.missingField field) rest)
  | .ok (.entry rest) =>
    match readKey draft.absent rest with
    | .error fault => .error fault
    | .ok (⟨field, _⟩, rest) =>
      match readValue rest with
      | .error fault => .error fault
      | .ok (text, rest) =>
        readMembers
          { film := draft.film.set field text, absent := draft.absent.erase field } rest
termination_by draft.absent.length
decreasing_by
  rename_i habsent
  have hpos := List.length_pos_of_mem habsent
  rw [List.length_erase_of_mem habsent]
  omega

/-! ## Lists -/

def nextItem (begun : Bool) (bytes : Bytes) : Except Fault Next :=
  match skipBlanks bytes with
  | [] => .error (.peek .endInList [])
  | 0x5D :: rest => .ok (.close rest)
  | bytes =>
    match begun, bytes with
    | false, bytes => .ok (.entry bytes)
    | true, 0x2C :: rest =>
      match skipBlanks rest with
      | [] => .error (.peek .endInValue [])
      | 0x5D :: rest => .error (.peek .trailingComma (0x5D :: rest))
      | bytes => .ok (.entry bytes)
    | true, bytes => .error (.peek .expectedCommaOrBracket bytes)

def closeList (bytes : Bytes) : Except Fault Bytes :=
  match skipBlanks bytes with
  | [] => .error (.peek .endInList [])
  | 0x5D :: rest => .ok rest
  | 0x2C :: rest =>
    match skipBlanks rest with
    | 0x5D :: rest => .error (.peek .trailingComma (0x5D :: rest))
    | bytes => .error (.peek .trailingCharacters bytes)
  | bytes => .error (.peek .trailingCharacters bytes)

/-- Reads the items for the remaining fields, `count` of them being read already. -/
def readItems (count : Nat) (film : Film) : List Field → Bytes → Except Fault (Film × Bytes)
  | [], bytes => (closeList bytes).map (film, ·)
  | field :: fields, bytes =>
    match nextItem (count != 0) bytes with
    | .error fault => .error fault
    | .ok (.close rest) => .error (.here (.wrongLength count) rest)
    | .ok (.entry rest) =>
      match readValue rest with
      | .error fault => .error fault
      | .ok (text, rest) => readItems (count + 1) (film.set field text) fields rest

/-! ## Whole bodies -/

def readFilm : Bytes → Except Fault (Film × Bytes)
  | [] => .error (.peek .endInValue [])
  | 0x7B :: rest => readMembers {} rest
  | 0x5B :: rest => readItems 0 {} Field.all rest
  | bytes => .error (wrongKind .film bytes)

def readBody (body : Bytes) : Except Fault Film :=
  match readFilm (skipBlanks body) with
  | .error fault => .error fault
  | .ok (film, rest) =>
    match skipBlanks rest with
    | [] => .ok film
    | bytes => .error (.peek .trailingCharacters bytes)

/-- The film that a body holds, or the first problem with its line and column. -/
def film (body : Bytes) : Except Problem Film :=
  (readBody body).mapError (·.locate body)

end FilmCatalog.Reading
