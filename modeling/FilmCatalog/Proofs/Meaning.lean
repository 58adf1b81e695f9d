import FilmCatalog.Proofs.Documents
import FilmCatalog.Proofs.Writing

/-!
# What written values say

A written value is a text of the grammar that says just this value. So any reader of JSON finds the members
that were written, whatever the texts inside them are.
-/

namespace FilmCatalog

open Grammar

/-! ## Numbers -/

namespace Decimal

/-- A digit is one byte. -/
theorem encodeChar_digit {c : Char} (h : c.isDigit) :
    ∃ b, String.utf8EncodeChar c = [b] ∧ Char.ofNat b.toNat = c ∧ Reading.isDigitByte b := by
  have hbounds : 48 ≤ c.toNat ∧ c.toNat ≤ 57 := by
    simpa [Char.isDigit, UInt32.le_iff_toNat_le] using h
  have hbyte : (UInt8.ofNat c.toNat).toNat = c.toNat := by
    rw [UInt8.toNat_ofNat']
    omega
  have hchar : Char.ofNat (UInt8.ofNat c.toNat).toNat = c := by rw [hbyte, Char.ofNat_toNat]
  refine ⟨UInt8.ofNat c.toNat, ?_, hchar, ?_⟩
  · have hone := Utf8.utf8EncodeChar_one (a := UInt8.ofNat c.toNat) (by omega)
    rwa [hchar] at hone
  · unfold Reading.isDigitByte Reading.digitValue?
    rw [if_pos]
    · rfl
    · simp only [UInt8.le_iff_toNat_le, hbyte]
      exact hbounds

theorem digits_encode {digits : List Char} (h : ∀ c ∈ digits, c.isDigit) :
    ((digits.flatMap String.utf8EncodeChar).map fun b => Char.ofNat b.toNat) = digits ∧
      ∀ b ∈ digits.flatMap String.utf8EncodeChar, Reading.isDigitByte b := by
  induction digits with
  | nil => exact ⟨rfl, nofun⟩
  | cons c digits ih =>
    rw [List.forall_mem_cons] at h
    obtain ⟨hchars, hdigits⟩ := ih h.2
    obtain ⟨b, hb, hchar, hdigit⟩ := encodeChar_digit h.1
    rw [List.flatMap_cons, hb, List.singleton_append]
    exact ⟨by rw [List.map_cons, hchar, hchars], List.forall_mem_cons.mpr ⟨hdigit, hdigits⟩⟩

theorem number_text (n : Nat) : Number n 0 (Utf8.encode (text n)) := by
  have hdigits : ∀ c ∈ Nat.toDigits 10 n, c.isDigit := fun c => isDigit_of_mem_toDigits
  obtain ⟨hchars, hbytes⟩ := digits_encode hdigits
  have hencode : Utf8.encode (text n) = (Nat.toDigits 10 n).flatMap String.utf8EncodeChar := by
    unfold Utf8.encode text
    rw [String.toList_ofList]
  have hvalue : digitsValue (Utf8.encode (text n)) = n := by
    unfold digitsValue
    rw [hencode, hchars, value_toDigits]
  have hhead : (Utf8.encode (text n)).head?.map (fun b => Char.ofNat b.toNat) =
      (Nat.toDigits 10 n).head? := by
    rw [hencode, ← List.head?_map, hchars]
  have hwhole : Whole (Utf8.encode (text n)) := by
    refine ⟨⟨?_, hencode ▸ hbytes⟩, fun hzero => ?_⟩
    · intro hnil
      rw [hnil] at hhead
      exact Nat.toDigits_ne_nil (List.head?_eq_none_iff.mp hhead.symm)
    · rcases Nat.eq_zero_or_pos n with rfl | hpos
      · rfl
      · rw [hzero] at hhead
        exact absurd hhead.symm (head_toDigits_ne_zero hpos)
  have hmagnitude := Magnitude.mk hwhole .missing .missing
  simp only [List.append_nil, hvalue, List.length_nil] at hmagnitude
  exact .plain hmagnitude

end Decimal

/-! ## Written values -/

namespace Json

theorem toList_write (value : Json) : value.write.toList = value.chars := by
  unfold write
  simp

mutual

/-- What a written value says. -/
def datum : Json → Datum
  | .text s => .text s
  | .count n => .number n 0
  | .list items => .list (itemData items)
  | .object members => .object (memberData members)

def itemData : List Json → List Datum
  | [] => []
  | item :: rest => datum item :: itemData rest

def memberData : List (String × Json) → List (String × Datum)
  | [] => []
  | (name, value) :: rest => (name, datum value) :: memberData rest

end

theorem itemData_eq_map (items : List Json) : itemData items = items.map datum := by
  induction items with
  | nil => rfl
  | cons item items ih => rw [itemData, ih, List.map_cons]

theorem keyed_member {name : String} {value : Json}
    (h : Spells value.datum (value.chars.flatMap String.utf8EncodeChar)) :
    Keyed (name, value.datum) ((quoted name ++ ':' :: value.chars).flatMap String.utf8EncodeChar) := by
  rw [List.flatMap_append, List.flatMap_cons]
  exact .mk (value_quoted name) blanks_nil (.mk blanks_nil h)

mutual

theorem spells_chars : (value : Json) → Spells value.datum (value.chars.flatMap String.utf8EncodeChar)
  | .text s => by
    rw [datum, chars]
    exact .text (quoted_quoted s)
  | .count n => by
    rw [datum, chars]
    exact .number (Decimal.number_text n)
  | .list items => by
    rw [datum, chars, flatMap_brackets]
    exact .list (row_joined (items_spelled items))
  | .object members => by
    rw [datum, chars, flatMap_brackets]
    exact .object (row_joined (members_spelled members))

theorem items_spelled : (items : List Json) →
    List.Forall₂ (fun datum item => Spaced datum (item.flatMap String.utf8EncodeChar)) (itemData items)
      (itemChars items)
  | [] => .nil
  | item :: rest => .cons (.mk blanks_nil (spells_chars item)) (items_spelled rest)

theorem members_spelled : (members : List (String × Json)) →
    List.Forall₂ (fun datum member => Keyed datum (member.flatMap String.utf8EncodeChar))
      (memberData members) (memberChars members)
  | [] => .nil
  | (_, value) :: rest => .cons (keyed_member (spells_chars value)) (members_spelled rest)

end

/-- A written value is read as itself. -/
theorem read_write (value : Json) : Datum.read (Utf8.encode value.write) = some value.datum := by
  rw [Datum.read_eq_some_iff, encode_write]
  exact ⟨[], _, [], blanks_nil, spells_chars value, blanks_nil, by simp⟩

end Json

end FilmCatalog
