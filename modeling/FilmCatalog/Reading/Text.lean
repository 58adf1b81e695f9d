import FilmCatalog.Reading.Fault
import FilmCatalog.Text.Letters

/-!
# Reading a quoted text

The bytes between the quotes are collected, each escape as the bytes of the character it names. They
have to be the bytes of a text. An escape that names half of a surrogate pair needs the other half
right behind it.
-/

namespace FilmCatalog.Reading

/-! ## Escapes -/

/-- The character behind a backslash, where one letter names it. -/
def shortEscape? (b : UInt8) : Option Char :=
  match b with
  | 0x22 => some '"'
  | 0x5C => some '\\'
  | 0x2F => some '/'
  | 0x62 => some '\x08'
  | 0x66 => some '\x0C'
  | 0x6E => some '\n'
  | 0x72 => some '\r'
  | 0x74 => some '\t'
  | _ => none

/-- Four hexadecimal digits. They are taken together, whether they are good or not. -/
def readHex : Bytes → Except Fault (Nat × Bytes)
  | a :: b :: c :: d :: rest =>
    match Ascii.hexValue? a, Ascii.hexValue? b, Ascii.hexValue? c, Ascii.hexValue? d with
    | some a, some b, some c, some d => .ok (((a * 16 + b) * 16 + c) * 16 + d, rest)
    | _, _, _, _ => .error (.here .invalidEscape rest)
  | _ => .error (.here .endInText [])

/-- The second half of a surrogate pair, with its backslash and `u`. -/
def readLowHalf : Bytes → Except Fault (Nat × Bytes)
  | [] => .error (.here .endInText [])
  | 0x5C :: [] => .error (.here .endInText [])
  | 0x5C :: 0x75 :: rest =>
    match readHex rest with
    | .error fault => .error fault
    | .ok (low, rest) =>
      if 0xDC00 ≤ low ∧ low ≤ 0xDFFF then .ok (low, rest)
      else .error (.here .loneSurrogate rest)
  | 0x5C :: _ :: rest => .error (.here .brokenPair rest)
  | _ :: rest => .error (.here .brokenPair rest)

/-- The character that two halves of a surrogate pair name. -/
def pairChar (high low : Nat) : Char :=
  Char.ofNat (0x10000 + (high - 0xD800) * 0x400 + (low - 0xDC00))

/-- The character named by the digits behind `\u`. -/
def readCode (bytes : Bytes) : Except Fault (Char × Bytes) :=
  match readHex bytes with
  | .error fault => .error fault
  | .ok (code, rest) =>
    if code < 0xD800 ∨ 0xDFFF < code then .ok (Char.ofNat code, rest)
    else if 0xDC00 ≤ code then .error (.here .loneSurrogate rest)
    else
      match readLowHalf rest with
      | .error fault => .error fault
      | .ok (low, rest) => .ok (pairChar code low, rest)

/-- The character that an escape names, read from behind its backslash. -/
def readEscape : Bytes → Except Fault (Char × Bytes)
  | [] => .error (.here .endInText [])
  | b :: rest =>
    match shortEscape? b with
    | some c => .ok (c, rest)
    | none => if b = 0x75 then readCode rest else .error (.here .invalidEscape rest)

theorem readHex_length {bytes rest : Bytes} {n : Nat} (h : readHex bytes = .ok (n, rest)) :
    rest.length < bytes.length := by
  simp only [readHex] at h
  split at h
  · split at h
    · cases h
      simp only [List.length_cons]
      omega
    · cases h
  · cases h

theorem readLowHalf_length {bytes rest : Bytes} {n : Nat} (h : readLowHalf bytes = .ok (n, rest)) :
    rest.length < bytes.length := by
  simp only [readLowHalf] at h
  split at h
  · cases h
  · cases h
  · split at h
    · cases h
    · rename_i hhex
      have hshorter := readHex_length hhex
      split at h
      · cases h
        simp only [List.length_cons]
        omega
      · cases h
  · cases h
  · cases h

theorem readCode_length {bytes rest : Bytes} {c : Char} (h : readCode bytes = .ok (c, rest)) :
    rest.length < bytes.length := by
  simp only [readCode] at h
  split at h
  · cases h
  · rename_i hhex
    have hcode := readHex_length hhex
    split at h
    · cases h
      exact hcode
    · split at h
      · cases h
      · split at h
        · cases h
        · rename_i hhalf
          have hlow := readLowHalf_length hhalf
          simp only [Except.ok.injEq, Prod.mk.injEq] at h
          rw [← h.2]
          omega

theorem readEscape_length {bytes rest : Bytes} {c : Char} (h : readEscape bytes = .ok (c, rest)) :
    rest.length < bytes.length := by
  unfold readEscape at h
  split at h
  · simp at h
  · split at h
    · obtain ⟨rfl, rfl⟩ : _ ∧ _ := by simpa using h
      exact Nat.lt_succ_self _
    · split at h
      · exact Nat.lt_succ_of_lt (readCode_length h)
      · simp at h

/-! ## Whole texts -/

/-- The text of the collected bytes, the last one first. The fault of bytes that are no text is placed
as far back as the bytes behind the intact front reach. -/
def closeText (collected rest : Bytes) : Except Fault (String × Bytes) :=
  let bytes := collected.reverse
  match Utf8.decode? bytes with
  | some text => .ok (text, rest)
  | none =>
    let intact := Utf8.encode (Utf8.intact bytes)
    .error { cause := .notUtf8, left := rest.length, back := bytes.length - intact.length }

/-- Reads a text from behind its first quote, onto the bytes collected so far. -/
def readTextOnto (collected : Bytes) (bytes : Bytes) : Except Fault (String × Bytes) :=
  match bytes with
  | [] => .error (.here .endInText [])
  | b :: rest =>
    if b = 0x22 then closeText collected rest
    else if b = 0x5C then
      match _h : readEscape rest with
      | .error fault => .error fault
      | .ok (c, after) => readTextOnto ((String.utf8EncodeChar c).reverse ++ collected) after
    else if b < 0x20 then .error (.here .controlCharacter rest)
    else readTextOnto (b :: collected) rest
termination_by bytes.length
decreasing_by
  · exact Nat.lt_succ_of_lt (readEscape_length (by assumption))
  · exact Nat.lt_succ_self _

theorem readTextOnto_quote (collected rest : Bytes) :
    readTextOnto collected (0x22 :: rest) = closeText collected rest := by
  rw [readTextOnto]
  rfl

/-- Bytes that are no quote, no backslash and no control character are collected as they are. -/
theorem readTextOnto_append {collected bytes rest : Bytes}
    (hplain : ∀ b ∈ bytes, b ≠ 0x22 ∧ b ≠ 0x5C ∧ ¬ b < 0x20) :
    readTextOnto collected (bytes ++ rest) = readTextOnto (bytes.reverse ++ collected) rest := by
  induction bytes generalizing collected with
  | nil => rfl
  | cons b bytes ih =>
    obtain ⟨hquote, hbackslash, hcontrol⟩ := hplain b (by simp)
    rw [List.cons_append, readTextOnto]
    simp only [hquote, hbackslash, hcontrol, if_false]
    rw [ih fun x hx => hplain x (by simp [hx])]
    simp

/-- An escape is collected as the bytes of the character that it names. -/
theorem readTextOnto_escape {collected rest after : Bytes} {c : Char}
    (h : readEscape rest = .ok (c, after)) :
    readTextOnto collected (0x5C :: rest) =
      readTextOnto ((String.utf8EncodeChar c).reverse ++ collected) after := by
  rw [readTextOnto]
  have hother : ¬ (0x5C : UInt8) = 0x22 := by decide
  simp only [hother, if_false, if_true]
  split <;> simp_all

/-- Reads a text from behind its first quote to behind its last. -/
def readText (bytes : Bytes) : Except Fault (String × Bytes) := readTextOnto [] bytes

end FilmCatalog.Reading
