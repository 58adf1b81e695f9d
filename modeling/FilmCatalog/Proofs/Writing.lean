import FilmCatalog.Proofs.Submissions
import FilmCatalog.View

/-!
# Written films are read back

A written film is a body of the grammar, so it is read, and as no other film.
-/

namespace FilmCatalog

open Grammar

namespace Json

/-! ## Texts -/

theorem hexValue?_hexDigit :
    ∀ n < 16, (String.utf8EncodeChar (hexDigit n)).map Ascii.hexValue? = [some n] := by
  decide

/-- The numbers of control characters are written with four digits, and two of them say it all. -/
theorem hex_control {n : Nat} (h : n < 0x20) :
    Hex (['0', '0', hexDigit (n / 16), hexDigit n].flatMap String.utf8EncodeChar) n := by
  have hhigh := hexValue?_hexDigit (n / 16) (by omega)
  have hlow := hexValue?_hexDigit (n % 16) (by omega)
  have hlast : hexDigit (n % 16) = hexDigit n := by
    unfold hexDigit
    rw [Nat.mod_mod]
  rw [hlast] at hlow
  have hzero : (String.utf8EncodeChar '0').map Ascii.hexValue? = [some 0] := by decide
  refine ⟨0, 0, n / 16, n % 16, ?_, by omega⟩
  simp [hzero, hhigh, hlow]

theorem spelling_escapeChar (c : Char) :
    Spelling c ((escapeChar c).flatMap String.utf8EncodeChar) := by
  have hshort (letter : UInt8) (hletter : (letter, c) ∈ shortEscapes) :
      Spelling c [0x5C, letter] := .escaped (.short hletter)
  unfold escapeChar
  split_ifs with hquote hbackslash hcontrol hb ht hn hf hr
  · subst hquote
    exact hshort 0x22 (by decide)
  · subst hbackslash
    exact hshort 0x5C (by decide)
  · obtain rfl : c = '\x08' := Char.toNat_inj.mp hb
    exact hshort 0x62 (by decide)
  · obtain rfl : c = '\t' := Char.toNat_inj.mp ht
    exact hshort 0x74 (by decide)
  · obtain rfl : c = '\n' := Char.toNat_inj.mp hn
    exact hshort 0x6E (by decide)
  · obtain rfl : c = '\x0C' := Char.toNat_inj.mp hf
    exact hshort 0x66 (by decide)
  · obtain rfl : c = '\r' := Char.toNat_inj.mp hr
    exact hshort 0x72 (by decide)
  · exact .escaped (.code (hex_control hcontrol))
  · rw [List.flatMap_singleton]
    exact .plain hquote hbackslash (Nat.not_lt.mp hcontrol)

theorem inside_escape (cs : List Char) : Inside cs ((escape cs).flatMap String.utf8EncodeChar) := by
  unfold escape
  induction cs with
  | nil => exact .nil
  | cons c cs ih =>
    rw [List.flatMap_cons, List.flatMap_append]
    exact .cons (spelling_escapeChar c) ih

theorem quoted_quoted (s : String) : Quoted s ((quoted s).flatMap String.utf8EncodeChar) := by
  refine ⟨_, inside_escape s.toList, ?_⟩
  unfold quoted
  rw [List.flatMap_cons, List.flatMap_append]
  rfl

theorem value_quoted (s : String) : Value s ((quoted s).flatMap String.utf8EncodeChar) :=
  ⟨[], _, blanks_nil, quoted_quoted s, rfl⟩

/-! ## Objects of texts -/

theorem joined_cons (item : List Char) (items : List (List Char)) :
    joined (item :: items) = item ++ items.flatMap (',' :: ·) := by
  unfold joined
  induction items generalizing item with
  | nil => simp
  | cons next items ih =>
    rw [List.intercalate_cons_cons, ih, List.flatMap_cons]
    simp

section

variable {α : Type} {Item : α → Bytes → Prop} {last : UInt8} {xs : List α} {items : List (List Char)}

theorem row_further
    (h : List.Forall₂ (fun x item => Item x (item.flatMap String.utf8EncodeChar)) xs items) :
    Row Item last true xs ((items.flatMap (',' :: ·)).flatMap String.utf8EncodeChar ++ [last]) := by
  induction h with
  | nil => exact .close blanks_nil
  | cons hitem _ ih =>
    rw [List.flatMap_cons, List.flatMap_append, List.append_assoc]
    exact .further blanks_nil hitem ih

/-- Items with commas between them, and then the closing bracket. -/
theorem row_joined
    (h : List.Forall₂ (fun x item => Item x (item.flatMap String.utf8EncodeChar)) xs items) :
    Row Item last false xs ((joined items).flatMap String.utf8EncodeChar ++ [last]) := by
  cases h with
  | nil => exact .close blanks_nil
  | cons hitem hrest =>
    rw [joined_cons, List.flatMap_append, List.append_assoc]
    exact .first hitem (row_further hrest)

end

theorem flatMap_brackets (first last : Char) (inner : List Char) :
    (first :: (inner ++ [last])).flatMap String.utf8EncodeChar =
      String.utf8EncodeChar first ++ (inner.flatMap String.utf8EncodeChar ++ String.utf8EncodeChar last) := by
  rw [List.flatMap_cons, List.flatMap_append, List.flatMap_singleton]

theorem encode_write (value : Json) :
    Utf8.encode value.write = value.chars.flatMap String.utf8EncodeChar := by
  unfold Utf8.encode write
  rw [String.toList_ofList]

/-- A member of an object as it is written. -/
def textMember (pair : String × String) : List Char := quoted pair.1 ++ ':' :: quoted pair.2

theorem memberChars_texts (pairs : List (String × String)) :
    memberChars (pairs.map fun pair => (pair.1, .text pair.2)) = pairs.map textMember := by
  induction pairs with
  | nil => rfl
  | cons pair pairs ih =>
    rw [List.map_cons, memberChars, ih, List.map_cons, chars]
    rfl

theorem member_textMember (pair : String × String) :
    Member pair ((textMember pair).flatMap String.utf8EncodeChar) := by
  refine ⟨_, [], _, value_quoted pair.1, blanks_nil, value_quoted pair.2, ?_⟩
  unfold textMember
  rw [List.flatMap_append, List.flatMap_cons, List.append_nil]
  rfl

theorem object_texts (pairs : List (String × String)) :
    Object pairs (Utf8.encode (object (pairs.map fun pair => (pair.1, .text pair.2))).write) := by
  have hmembers : List.Forall₂ (fun pair item => Member pair (item.flatMap String.utf8EncodeChar)) pairs
      (pairs.map textMember) := by
    rw [List.forall₂_map_right_iff, List.forall₂_same]
    exact fun pair _ => member_textMember pair
  refine ⟨_, row_joined hmembers, ?_⟩
  rw [encode_write, chars, memberChars_texts, flatMap_brackets]
  rfl

end Json

/-! ## Films -/

theorem filmObject_json (film : Film) : FilmObject film (Utf8.encode film.json.write) := by
  let pairs := Field.all.map fun field => (field.name, film.get field)
  have hjson : film.json = .object (pairs.map fun pair => (pair.1, .text pair.2)) := by
    unfold Film.json Film.members
    rw [List.map_map]
    rfl
  rw [hjson]
  refine ⟨pairs, ⟨[], _, [], blanks_nil, Json.object_texts pairs, blanks_nil, by simp⟩, ?_, ?_⟩
  · rw [List.map_map]
    exact .refl _
  · exact fun field => List.mem_map.mpr ⟨field, Field.mem_all field, rfl⟩

namespace Submission

theorem readPlain_json (film : Film) : readPlain (Utf8.encode film.json.write) = .ok film :=
  readPlain_eq_ok_iff.mpr (.inl (filmObject_json film))

/-- A written film is read back as itself, so no two films are written alike, and what is read back is
written as before. -/
theorem written_film_is_read_back (film other : Film) :
    readPlain (Utf8.encode film.json.write) = .ok film ∧
      (film.json.write = other.json.write ↔ film = other) ∧
      (readPlain (Utf8.encode film.json.write)).map (·.json.write) = .ok film.json.write := by
  have hread := readPlain_json film
  refine ⟨hread, ?_, by rw [hread]; rfl⟩
  constructor
  · intro hsame
    rw [hsame, readPlain_json other] at hread
    exact (Except.ok.inj hread).symm
  · rintro rfl
    rfl

end Submission

end FilmCatalog
