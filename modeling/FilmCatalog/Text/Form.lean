import FilmCatalog.Text.Letters
import FilmCatalog.Text.Utf8

/-!
# Forms

A form is a row of pairs with `&` between them. Names and values are escaped, a blank also as `+`. An
escape is a percent sign with the two hexadecimal digits of a byte, and a percent sign without them
stands for itself, so every byte string can be unescaped. What is no text shows as U+FFFD.
-/

namespace FilmCatalog

/-! ## Percent escapes -/

namespace Percent

def byte? (high low : UInt8) : Option UInt8 :=
  match Ascii.hexValue? high, Ascii.hexValue? low with
  | some h, some l => some (UInt8.ofNat (h * 16 + l))
  | _, _ => none

/-- Unescapes onto the bytes found so far, the last one first. -/
def unescapeOnto (found : Bytes) : Bytes → Bytes
  | 0x25 :: high :: low :: rest =>
    match byte? high low with
    | some b => unescapeOnto (b :: found) rest
    | none => unescapeOnto (0x25 :: found) (high :: low :: rest)
  | b :: rest => unescapeOnto (b :: found) rest
  | [] => found.reverse

/-- The bytes that an escaped byte string stands for. -/
def unescape (bytes : Bytes) : Bytes := unescapeOnto [] bytes

theorem unescapeOnto_eq (found bytes : Bytes) :
    unescapeOnto found bytes = found.reverse ++ unescape bytes := by
  have hgeneral (found more : Bytes) :
      unescapeOnto (found ++ more) bytes = more.reverse ++ unescapeOnto found bytes := by
    fun_induction unescapeOnto found bytes with
    | case1 found high low rest b h ih => simpa [unescapeOnto, h] using ih
    | case2 found high low rest h ih => simpa [unescapeOnto, h] using ih
    | case3 found b rest halone ih => simpa [unescapeOnto, halone] using ih
    | case4 found => simp [unescapeOnto]
  exact hgeneral [] found

@[simp] theorem unescape_nil : unescape [] = [] := rfl

/-- A percent sign with two digits is a byte. -/
theorem unescape_escaped {high low b : UInt8} (h : byte? high low = some b) (rest : Bytes) :
    unescape (0x25 :: high :: low :: rest) = b :: unescape rest := by
  rw [unescape, unescapeOnto, h]
  exact unescapeOnto_eq [b] rest

/-- A percent sign without two digits is itself. -/
theorem unescape_percent {high low : UInt8} (h : byte? high low = none) (rest : Bytes) :
    unescape (0x25 :: high :: low :: rest) = 0x25 :: unescape (high :: low :: rest) := by
  rw [unescape, unescapeOnto, h]
  exact unescapeOnto_eq [0x25] (high :: low :: rest)

/-- Any other byte is itself. -/
theorem unescape_cons {b : UInt8} (h : b ≠ 0x25) (rest : Bytes) :
    unescape (b :: rest) = b :: unescape rest := by
  rw [unescape, unescapeOnto]
  · exact unescapeOnto_eq [b] rest
  · intro _ _ _ hpercent
    exact absurd hpercent h

/-- A percent sign that no two digits follow is itself. -/
theorem unescape_alone {rest : Bytes}
    (h : ∀ high low more, rest = high :: low :: more → byte? high low = none) :
    unescape (0x25 :: rest) = 0x25 :: unescape rest := by
  match rest with
  | [] => rfl
  | [b] =>
    rw [unescape, unescapeOnto]
    · exact unescapeOnto_eq [0x25] [b]
    · exact nofun
  | high :: low :: more => exact unescape_percent (h high low more rfl) more

theorem unescape_eq_self {bytes : Bytes} (h : 0x25 ∉ bytes) : unescape bytes = bytes := by
  induction bytes with
  | nil => rfl
  | cons b bytes ih =>
    rw [List.mem_cons, not_or] at h
    rw [unescape_cons (Ne.symm h.1), ih h.2]

end Percent

namespace Form

/-! ## Pairs -/

/-- The pairs of a form before unescaping. Empty parts are no pairs, a pair without `=` has an empty
value, and only the first `=` counts. -/
def rawPairs (form : Bytes) : List (Bytes × Bytes) :=
  ((form.splitOn 0x26).filter (!·.isEmpty)).map fun part =>
    (part.takeWhile (· != 0x3D), (part.dropWhile (· != 0x3D)).drop 1)

/-! ## Unescaping -/

/-- The bytes of a name or value. Each `+` is a blank, unless it is escaped itself. -/
def unescape (bytes : Bytes) : Bytes :=
  Percent.unescape (bytes.map fun b => if b = 0x2B then 0x20 else b)

def text (bytes : Bytes) : String := Utf8.lossy (unescape bytes)

/-- The values that stand under a name, in order, before unescaping. -/
def rawValues (name : String) (form : Bytes) : List Bytes :=
  ((rawPairs form).filter fun pair => text pair.1 == name).map (·.2)

end Form

end FilmCatalog
