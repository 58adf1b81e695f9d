import FilmCatalog.Reading.Grammar
import FilmCatalog.Reading.Text
import FilmCatalog.Text.Utf8.Lemmas

/-!
# Texts and their grammar

Exactly the texts of the grammar are read, each as the characters that it spells. The reader collects
bytes, so first the collected bytes are related to the bytes that were read, and then both are cut
into characters.
-/

namespace FilmCatalog.Reading

open Grammar

/-! ## Escapes -/

theorem readHex_eq_ok_iff {bytes rest : Bytes} {n : Nat} :
    readHex bytes = .ok (n, rest) ↔ ∃ digits, Hex digits n ∧ bytes = digits ++ rest := by
  constructor
  · intro h
    unfold readHex at h
    split at h
    · rename_i a b c d rest
      split at h
      · rename_i ha hb hc hd
        cases h
        exact ⟨[a, b, c, d], ⟨_, _, _, _, by simp [ha, hb, hc, hd], rfl⟩, rfl⟩
      · simp at h
    · simp at h
  · rintro ⟨digits, ⟨a, b, c, d, hdigits, rfl⟩, rfl⟩
    match digits with
    | [w, x, y, z] =>
      simp only [List.map_cons, List.map_nil, List.cons.injEq, and_true] at hdigits
      simp [readHex, hdigits]
    | [] | [_] | [_, _] | [_, _, _] | _ :: _ :: _ :: _ :: _ :: _ => simp at hdigits

theorem shortEscape?_eq_some_iff {letter : UInt8} {c : Char} :
    shortEscape? letter = some c ↔ (letter, c) ∈ shortEscapes := by
  unfold shortEscape? shortEscapes
  constructor
  · intro h
    split at h <;> simp_all [eq_comm]
  · intro h
    simp only [List.mem_cons, Prod.mk.injEq, List.not_mem_nil, or_false] at h
    rcases h with h | h | h | h | h | h | h | h <;> simp [h]

theorem readLowHalf_eq_ok_iff {bytes rest : Bytes} {low : Nat} :
    readLowHalf bytes = .ok (low, rest) ↔
      ∃ digits, Hex digits low ∧ (0xDC00 ≤ low ∧ low ≤ 0xDFFF) ∧
        bytes = 0x5C :: 0x75 :: (digits ++ rest) := by
  constructor
  · intro h
    unfold readLowHalf at h
    split at h
    · simp at h
    · simp at h
    · split at h
      · simp at h
      · rename_i hhex
        obtain ⟨digits, hdigits, rfl⟩ := readHex_eq_ok_iff.mp hhex
        split at h
        · rename_i hlow
          cases h
          exact ⟨digits, hdigits, hlow, rfl⟩
        · simp at h
    · simp at h
    · simp at h
  · rintro ⟨digits, hdigits, hlow, rfl⟩
    simp [readLowHalf, readHex_eq_ok_iff.mpr ⟨digits, hdigits, rfl⟩, hlow]

theorem lt_of_hex {digits : Bytes} {n : Nat} (h : Hex digits n) : n < 0x10000 := by
  obtain ⟨a, b, c, d, hdigits, rfl⟩ := h
  have hsmall : ∀ v ∈ [a, b, c, d], v < 16 := by
    intro v hv
    have hmem : some v ∈ digits.map Ascii.hexValue? := by
      rw [hdigits]
      simpa using hv
    obtain ⟨digit, -, hdigit⟩ := List.mem_map.mp hmem
    exact Ascii.hexValue?_lt hdigit
  have ha := hsmall a (by simp)
  have hb := hsmall b (by simp)
  have hc := hsmall c (by simp)
  have hd := hsmall d (by simp)
  omega

/-- The number of a character is no half of a surrogate pair. -/
theorem toNat_valid (c : Char) : c.toNat < 0xD800 ∨ 0xDFFF < c.toNat ∧ c.toNat < 0x110000 :=
  c.valid

theorem toNat_pairChar {high low : Nat} (hhigh : 0xD800 ≤ high ∧ high ≤ 0xDBFF)
    (hlow : 0xDC00 ≤ low ∧ low ≤ 0xDFFF) :
    (pairChar high low).toNat = 0x10000 + (high - 0xD800) * 0x400 + (low - 0xDC00) := by
  unfold pairChar
  exact Utf8.toNat_ofNat_val (by omega)

theorem readCode_eq_ok_iff {bytes rest : Bytes} {c : Char} :
    readCode bytes = .ok (c, rest) ↔ ∃ code, Escape c (0x75 :: code) ∧ bytes = code ++ rest := by
  constructor
  · intro h
    unfold readCode at h
    split at h
    · simp at h
    · rename_i n left hhex
      obtain ⟨digits, hdigits, rfl⟩ := readHex_eq_ok_iff.mp hhex
      have hsmall := lt_of_hex hdigits
      split at h
      · rename_i hn
        cases h
        have hcode : (Char.ofNat n).toNat = n := Utf8.toNat_ofNat_val (by omega)
        exact ⟨digits, .code (hcode.symm ▸ hdigits), rfl⟩
      · rename_i hn
        split at h
        · simp at h
        · rename_i hlow
          split at h
          · simp at h
          · rename_i low left hhalf
            obtain ⟨rfl, rfl⟩ : pairChar n low = c ∧ left = rest := by simpa using h
            obtain ⟨second, hsecond, hrange, rfl⟩ := readLowHalf_eq_ok_iff.mp hhalf
            refine ⟨digits ++ 0x5C :: 0x75 :: second, ?_, by simp⟩
            exact .pair hdigits (by omega) hsecond hrange (toNat_pairChar (by omega) hrange)
  · rintro ⟨code, hcode, rfl⟩
    unfold readCode
    cases hcode with
    | short hletter => exact absurd hletter (by simp [shortEscapes])
    | code hdigits =>
      have hvalid := toNat_valid c
      have hread : readHex (code ++ rest) = .ok (c.toNat, rest) :=
        readHex_eq_ok_iff.mpr ⟨code, hdigits, rfl⟩
      simp only [hread]
      rw [if_pos (by omega), Char.ofNat_toNat]
    | @pair high low first second hfirst hhigh hsecond hlow hc =>
      have hread := readHex_eq_ok_iff.mpr
        ⟨first, hfirst, List.append_assoc first (0x5C :: 0x75 :: second) rest⟩
      have hhalf : readLowHalf (0x5C :: 0x75 :: (second ++ rest)) = .ok (low, rest) :=
        readLowHalf_eq_ok_iff.mpr ⟨second, hsecond, hlow, rfl⟩
      simp only [hread, hhalf, List.cons_append]
      rw [if_neg (by omega), if_neg (by omega), pairChar, ← hc, Char.ofNat_toNat]

theorem readEscape_eq_ok_iff {bytes rest : Bytes} {c : Char} :
    readEscape bytes = .ok (c, rest) ↔ ∃ escape, Escape c escape ∧ bytes = escape ++ rest := by
  constructor
  · intro h
    unfold readEscape at h
    split at h
    · simp at h
    · rename_i letter left
      split at h
      · rename_i hletter
        cases h
        exact ⟨[letter], .short (shortEscape?_eq_some_iff.mp hletter), rfl⟩
      · split at h
        · rename_i hu
          obtain ⟨code, hcode, rfl⟩ := readCode_eq_ok_iff.mp h
          exact ⟨0x75 :: code, hcode, by rw [hu]; rfl⟩
        · simp at h
  · rintro ⟨escape, hescape, rfl⟩
    have hu (code : Bytes) (hcode : Escape c (0x75 :: code)) :
        readEscape (0x75 :: code ++ rest) = .ok (c, rest) :=
      readCode_eq_ok_iff.mpr ⟨code, hcode, rfl⟩
    cases hescape with
    | @short letter hletter => simp [readEscape, shortEscape?_eq_some_iff.mpr hletter]
    | code hdigits => exact hu _ (.code hdigits)
    | pair hfirst hhigh hsecond hlow hc => exact hu _ (.pair hfirst hhigh hsecond hlow hc)

/-! ## Collected bytes -/

/-- A byte that stands for itself between quotes. -/
def Raw (b : UInt8) : Prop := b ≠ 0x22 ∧ b ≠ 0x5C ∧ ¬ b < 0x20

/-- What a reader collects of the bytes between two quotes. -/
inductive Collects : Bytes → Bytes → Prop
  | nil : Collects [] []
  | raw {b : UInt8} {bytes out : Bytes} (hraw : Raw b) (hrest : Collects bytes out) :
    Collects (b :: bytes) (b :: out)
  | escape {c : Char} {escape bytes out : Bytes} (hescape : Escape c escape)
      (hrest : Collects bytes out) :
    Collects (0x5C :: (escape ++ bytes)) (String.utf8EncodeChar c ++ out)

theorem closeText_eq_ok_iff {collected rest left : Bytes} {s : String} :
    closeText collected rest = .ok (s, left) ↔
      collected.reverse = Utf8.encode s ∧ rest = left := by
  rw [← Utf8.decode?_eq_some_iff]
  unfold closeText
  simp only
  split
  · rename_i text htext
    simp [htext]
  · rename_i hnone
    simp [hnone]

theorem readTextOnto_sound {collected bytes rest : Bytes} {s : String}
    (h : readTextOnto collected bytes = .ok (s, rest)) :
    ∃ inside out, Collects inside out ∧ bytes = inside ++ 0x22 :: rest ∧
      collected.reverse ++ out = Utf8.encode s := by
  fun_induction readTextOnto collected bytes with
  | case1 => simp at h
  | case2 collected left =>
    obtain ⟨htext, rfl⟩ := closeText_eq_ok_iff.mp h
    exact ⟨[], [], .nil, rfl, by simpa using htext⟩
  | case3 => simp at h
  | case4 collected left c after hescape hne ih =>
    obtain ⟨escape, hspells, rfl⟩ := readEscape_eq_ok_iff.mp hescape
    obtain ⟨inside, out, hrest, rfl, htext⟩ := ih h
    exact ⟨_, _, .escape hspells hrest, by simp, by simpa using htext⟩
  | case5 => simp at h
  | case6 collected b left hquote hbackslash hcontrol ih =>
    obtain ⟨inside, out, hrest, rfl, htext⟩ := ih h
    exact ⟨_, _, .raw ⟨hquote, hbackslash, hcontrol⟩ hrest, rfl, by simpa using htext⟩

theorem readTextOnto_complete {collected inside out : Bytes} {s : String}
    (h : Collects inside out) (rest : Bytes) (htext : collected.reverse ++ out = Utf8.encode s) :
    readTextOnto collected (inside ++ 0x22 :: rest) = .ok (s, rest) := by
  induction h generalizing collected with
  | nil =>
    rw [List.nil_append, readTextOnto_quote, closeText_eq_ok_iff]
    exact ⟨by simpa using htext, rfl⟩
  | @raw b bytes out hraw hrest ih =>
    have hplain : ∀ x ∈ [b], Raw x := by
      intro x hx
      obtain rfl := List.mem_singleton.mp hx
      exact hraw
    have hstep : readTextOnto collected (b :: bytes ++ 0x22 :: rest) =
        readTextOnto (b :: collected) (bytes ++ 0x22 :: rest) := readTextOnto_append hplain
    exact hstep.trans (ih (by simpa using htext))
  | @escape c escape bytes out hescape hrest ih =>
    have hread := readEscape_eq_ok_iff.mpr
      ⟨escape, hescape, List.append_assoc escape bytes (0x22 :: rest)⟩
    rw [List.cons_append, readTextOnto_escape hread]
    exact ih (by simpa using htext)

theorem readText_eq_ok_iff_collects {bytes rest : Bytes} {s : String} :
    readText bytes = .ok (s, rest) ↔
      ∃ inside, Collects inside (Utf8.encode s) ∧ bytes = inside ++ 0x22 :: rest := by
  constructor
  · intro h
    obtain ⟨inside, out, hcollects, rfl, htext⟩ := readTextOnto_sound h
    exact ⟨inside, htext ▸ hcollects, rfl⟩
  · rintro ⟨inside, hcollects, rfl⟩
    exact readTextOnto_complete hcollects rest rfl

/-! ## Characters -/

/-- A byte that goes on with a character and begins none. -/
def Continues (b : UInt8) : Prop := 0x80 ≤ b.toNat ∧ b.toNat < 0xC0

theorem continues_cons (n : Nat) {more : Bytes} (hmore : ∀ b ∈ more, Continues b) :
    ∀ b ∈ UInt8.ofNat (n % 64 + 128) :: more, Continues b := by
  refine List.forall_mem_cons.mpr ⟨?_, hmore⟩
  unfold Continues
  rw [UInt8.toNat_ofNat_of_lt' (show _ < 256 by omega)]
  omega

theorem utf8EncodeChar_cases (c : Char) :
    c.toNat < 0x80 ∧ String.utf8EncodeChar c = [UInt8.ofNat c.toNat] ∨
      0x80 ≤ c.toNat ∧ ∃ lead more, String.utf8EncodeChar c = lead :: more ∧ 0xC0 ≤ lead.toNat ∧
        ∀ b ∈ more, Continues b := by
  have hvalid := toNat_valid c
  have hlead (n : Nat) (hn : n < 256) (hlow : 0xC0 ≤ n) : 0xC0 ≤ (UInt8.ofNat n).toNat := by
    rwa [UInt8.toNat_ofNat_of_lt' hn]
  have hnone : ∀ b ∈ ([] : Bytes), Continues b := by simp
  simp only [String.utf8EncodeChar, Char.toNat_val]
  split
  · exact .inl ⟨by omega, rfl⟩
  · refine .inr ⟨by omega, ?_⟩
    split
    · exact ⟨_, _, rfl, hlead _ (by omega) (by omega), continues_cons _ hnone⟩
    · split
      · exact ⟨_, _, rfl, hlead _ (by omega) (by omega), continues_cons _ (continues_cons _ hnone)⟩
      · exact ⟨_, _, rfl, hlead _ (by omega) (by omega),
          continues_cons _ (continues_cons _ (continues_cons _ hnone))⟩

theorem utf8EncodeChar_shape (c : Char) :
    ∃ lead more, String.utf8EncodeChar c = lead :: more ∧ ¬ Continues lead ∧
      ∀ b ∈ more, Continues b := by
  obtain ⟨hsmall, hone⟩ | ⟨-, lead, more, hshape, hlead, hmore⟩ := utf8EncodeChar_cases c
  · refine ⟨_, [], hone, ?_, by simp⟩
    unfold Continues
    rw [UInt8.toNat_ofNat_of_lt' (show _ < 256 by omega)]
    omega
  · refine ⟨lead, more, hshape, ?_, hmore⟩
    unfold Continues
    omega

theorem raw_iff_toNat {b : UInt8} :
    Raw b ↔ b.toNat ≠ 0x22 ∧ b.toNat ≠ 0x5C ∧ 0x20 ≤ b.toNat := by
  simp [Raw, ← UInt8.toNat_inj, UInt8.le_iff_toNat_le]

theorem plain_iff_toNat {c : Char} :
    (c ≠ '"' ∧ c ≠ '\\' ∧ 0x20 ≤ c.toNat) ↔ c.toNat ≠ 0x22 ∧ c.toNat ≠ 0x5C ∧ 0x20 ≤ c.toNat := by
  have hquote : '"'.toNat = 0x22 := rfl
  have hbackslash : '\\'.toNat = 0x5C := rfl
  rw [← hquote, ← hbackslash, Ne, Ne, Ne, Ne, Char.toNat_inj, Char.toNat_inj]

/-- The first byte of a character tells whether the character may stand for itself. -/
theorem raw_lead_iff {c : Char} {lead : UInt8} {more : Bytes}
    (hshape : String.utf8EncodeChar c = lead :: more) :
    Raw lead ↔ c ≠ '"' ∧ c ≠ '\\' ∧ 0x20 ≤ c.toNat := by
  rw [raw_iff_toNat, plain_iff_toNat]
  obtain ⟨hsmall, hone⟩ | ⟨hlarge, first, rest, hmany, hlead, -⟩ := utf8EncodeChar_cases c
  · rw [hone, List.cons.injEq] at hshape
    rw [← hshape.1, UInt8.toNat_ofNat_of_lt' (show _ < 256 by omega)]
  · rw [hmany, List.cons.injEq] at hshape
    rw [← hshape.1]
    omega

theorem Continues.raw {b : UInt8} (h : Continues b) : Raw b := by
  unfold Continues at h
  rw [raw_iff_toNat]
  omega

/-- A byte that goes on with a character is read as itself, since every escape begins a character. -/
theorem collects_continues {bytes more out : Bytes} (h : Collects bytes (more ++ out))
    (hmore : ∀ b ∈ more, Continues b) : ∃ rest, bytes = more ++ rest ∧ Collects rest out := by
  induction more generalizing bytes with
  | nil => exact ⟨bytes, rfl, h⟩
  | cons b more ih =>
    rw [List.forall_mem_cons] at hmore
    generalize hall : b :: more ++ out = all at h
    cases h with
    | nil => simp at hall
    | raw hraw hrest =>
      obtain ⟨rfl, rfl⟩ : b = _ ∧ more ++ out = _ := by simpa using hall
      obtain ⟨rest, rfl, hout⟩ := ih hrest hmore.2
      exact ⟨rest, rfl, hout⟩
    | @escape c _ _ _ hescape hrest =>
      obtain ⟨lead, tail, hshape, hlead, -⟩ := utf8EncodeChar_shape c
      rw [hshape] at hall
      obtain ⟨rfl, -⟩ : b = lead ∧ _ := by simpa using hall
      exact absurd hmore.1 hlead

theorem collects_raw {raw bytes out : Bytes} (hraw : ∀ b ∈ raw, Raw b) (h : Collects bytes out) :
    Collects (raw ++ bytes) (raw ++ out) := by
  induction raw with
  | nil => exact h
  | cons b raw ih =>
    rw [List.forall_mem_cons] at hraw
    exact .raw hraw.1 (ih hraw.2)

theorem utf8EncodeChar_append_inj {a b : Char} {front back : Bytes}
    (h : String.utf8EncodeChar a ++ front = String.utf8EncodeChar b ++ back) :
    a = b ∧ front = back := by
  have hpieces := congrArg Utf8.pieces h
  rw [Utf8.pieces_utf8EncodeChar_append, Utf8.pieces_utf8EncodeChar_append] at hpieces
  obtain ⟨rfl, -⟩ : a = b ∧ _ := by simpa using hpieces
  exact ⟨rfl, List.append_cancel_left h⟩

theorem inside_of_collects {cs : List Char} {bytes : Bytes}
    (h : Collects bytes (cs.flatMap String.utf8EncodeChar)) : Inside cs bytes := by
  induction cs generalizing bytes with
  | nil =>
    generalize hall : [].flatMap String.utf8EncodeChar = all at h
    cases h with
    | nil => exact .nil
    | raw => simp at hall
    | @escape c _ _ _ hescape hrest =>
      obtain ⟨lead, tail, hshape, -, -⟩ := utf8EncodeChar_shape c
      simp [hshape] at hall
  | cons c cs ih =>
    rw [List.flatMap_cons] at h
    obtain ⟨lead, more, hshape, -, hmore⟩ := utf8EncodeChar_shape c
    generalize hall : String.utf8EncodeChar c ++ cs.flatMap String.utf8EncodeChar = all at h
    cases h with
    | nil => simp [hshape] at hall
    | raw hraw hrest =>
      rw [hshape] at hall
      obtain ⟨rfl, rfl⟩ : lead = _ ∧ more ++ _ = _ := by simpa using hall
      obtain ⟨rest, rfl, hout⟩ := collects_continues hrest hmore
      obtain ⟨hquote, hbackslash, hcontrol⟩ := (raw_lead_iff hshape).mp hraw
      rw [← List.cons_append, ← hshape]
      exact .cons (.plain hquote hbackslash hcontrol) (ih hout)
    | escape hescape hrest =>
      obtain ⟨rfl, rfl⟩ := utf8EncodeChar_append_inj hall
      exact .cons (.escaped hescape) (ih hrest)

theorem collects_of_inside {cs : List Char} {bytes : Bytes} (h : Inside cs bytes) :
    Collects bytes (cs.flatMap String.utf8EncodeChar) := by
  induction h with
  | nil => exact .nil
  | @cons c cs first rest hfirst hrest ih =>
    rw [List.flatMap_cons]
    cases hfirst with
    | plain hquote hbackslash hcontrol =>
      obtain ⟨lead, more, hshape, -, hmore⟩ := utf8EncodeChar_shape c
      refine collects_raw ?_ ih
      rw [hshape, List.forall_mem_cons]
      exact ⟨(raw_lead_iff hshape).mpr ⟨hquote, hbackslash, hcontrol⟩, fun b hb => (hmore b hb).raw⟩
    | escaped hescape => exact .escape hescape ih

/-! ## Whole texts -/

/-- Exactly the texts of the grammar are read, up to their last quote. -/
theorem readText_eq_ok_iff {bytes rest : Bytes} {s : String} :
    readText bytes = .ok (s, rest) ↔
      ∃ inside, Inside s.toList inside ∧ bytes = inside ++ 0x22 :: rest := by
  rw [readText_eq_ok_iff_collects]
  unfold Utf8.encode
  constructor
  · rintro ⟨inside, hcollects, rfl⟩
    exact ⟨inside, inside_of_collects hcollects, rfl⟩
  · rintro ⟨inside, hinside, rfl⟩
    exact ⟨inside, collects_of_inside hinside, rfl⟩

end FilmCatalog.Reading
