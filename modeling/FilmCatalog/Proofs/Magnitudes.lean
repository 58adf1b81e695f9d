import FilmCatalog.Datum.Reader
import Mathlib.Data.List.DropRight

/-!
# Numbers and their grammar

A number is read up to the first byte that cannot go on with it. So what is read is a number of the
grammar, and a number of the grammar is read where something else stands behind it.
-/

namespace FilmCatalog.Datum

open Grammar
open Reading (isDigitByte exponentSign)

variable {bytes rest written digits places : Bytes}

/-! ## What ends a number -/

def NoDigit (rest : Bytes) : Prop := ∀ b, rest.head? = some b → ¬ isDigitByte b

/-- Nothing goes on with a number here. -/
structure Stops (rest : Bytes) : Prop where
  noDigit : NoDigit rest
  noPoint : rest.head? ≠ some 0x2E
  noPower : rest.head? ≠ some 0x65 ∧ rest.head? ≠ some 0x45

theorem stops_nil : Stops [] := ⟨nofun, nofun, nofun, nofun⟩

/-! ## Digits -/

theorem readDigits_eq_some_iff :
    readDigits bytes = some (digits, rest) ↔ Digits digits ∧ NoDigit rest ∧ bytes = digits ++ rest := by
  unfold readDigits
  dsimp only
  constructor
  · intro h
    split at h
    · cases h
    · rename_i hsome
      cases h
      refine ⟨⟨hsome, fun b hb => List.mem_takeWhile_imp hb⟩, ?_, List.takeWhile_append_dropWhile.symm⟩
      intro b hb
      have hstop := List.head?_dropWhile_not isDigitByte bytes
      rw [hb] at hstop
      simpa using hstop
  · rintro ⟨⟨hsome, hdigits⟩, hrest, rfl⟩
    have hfront : rest.takeWhile isDigitByte = [] ∧ rest.dropWhile isDigitByte = rest := by
      cases rest with
      | nil => exact ⟨rfl, rfl⟩
      | cons b rest =>
        have hb := hrest b rfl
        exact ⟨List.takeWhile_cons_of_neg hb, List.dropWhile_cons_of_neg hb⟩
    rw [List.takeWhile_append_of_pos hdigits, List.dropWhile_append_of_pos hdigits, hfront.1, hfront.2,
      List.append_nil, if_neg hsome]

theorem readWhole_eq_some_iff :
    readWhole bytes = some (digits, rest) ↔ Whole digits ∧ NoDigit rest ∧ bytes = digits ++ rest := by
  have hzero : (digits.head? != some 0x30 || digits == [0x30]) = true ↔
      (digits.head? = some 0x30 → digits = [0x30]) := by
    rw [Bool.or_eq_true, bne_iff_ne, beq_iff_eq]
    exact imp_iff_not_or.symm
  unfold readWhole Whole
  rw [Option.filter_eq_some_iff, readDigits_eq_some_iff, hzero]
  constructor
  · rintro ⟨⟨hdigits, hrest, hbytes⟩, hlead⟩
    exact ⟨⟨hdigits, hlead⟩, hrest, hbytes⟩
  · rintro ⟨⟨hdigits, hlead⟩, hrest, hbytes⟩
    exact ⟨⟨hdigits, hrest, hbytes⟩, hlead⟩

theorem Digits.exists_cons (h : Digits digits) : ∃ b more, digits = b :: more ∧ isDigitByte b := by
  cases digits with
  | nil => exact absurd rfl h.1
  | cons b more => exact ⟨b, more, rfl, h.2 b List.mem_cons_self⟩

/-! ## Places and powers -/

theorem fraction_of_read (h : readFraction bytes = some (places, rest)) :
    ∃ written, Fraction places written ∧ bytes = written ++ rest := by
  unfold readFraction at h
  split at h
  · obtain ⟨hdigits, -, rfl⟩ := readDigits_eq_some_iff.mp h
    exact ⟨_, .places hdigits, rfl⟩
  · cases h
    exact ⟨[], .missing, rfl⟩

theorem readFraction_append (h : Fraction places written) (hdigit : NoDigit rest)
    (hpoint : rest.head? ≠ some 0x2E) : readFraction (written ++ rest) = some (places, rest) := by
  cases h with
  | missing =>
    rw [List.nil_append]
    unfold readFraction
    split
    · exact absurd rfl hpoint
    · rfl
  | places hdigits => exact readDigits_eq_some_iff.mpr ⟨hdigits, hdigit, rfl⟩

theorem exponent_of_sign {letter : UInt8} (hletter : letter = 0x65 ∨ letter = 0x45)
    (hdigits : Digits digits) (h : (exponentSign bytes).2 = digits ++ rest) :
    ∃ written, Exponent (if (exponentSign bytes).1 then -digitsValue digits else digitsValue digits)
      (letter :: written) ∧ bytes = written ++ rest := by
  unfold exponentSign at h ⊢
  split at h
  · exact ⟨_, .plus hletter hdigits, congrArg _ h⟩
  · exact ⟨_, .minus hletter hdigits, congrArg _ h⟩
  · exact ⟨_, .plain hletter hdigits, h⟩

theorem readExponent_letter {letter : UInt8} (hletter : letter = 0x65 ∨ letter = 0x45) (bytes : Bytes) :
    readExponent (letter :: bytes) =
      (readDigits (exponentSign bytes).2).map fun found =>
        ((if (exponentSign bytes).1 then -digitsValue found.1 else digitsValue found.1 : Int), found.2) := by
  rcases hletter with rfl | rfl <;> rfl

theorem exponent_of_read {power : Int} (h : readExponent bytes = some (power, rest)) :
    ∃ written, Exponent power written ∧ bytes = written ++ rest := by
  by_cases hpower : ∃ letter left, (letter = 0x65 ∨ letter = 0x45) ∧ bytes = letter :: left
  · obtain ⟨letter, left, hletter, rfl⟩ := hpower
    rw [readExponent_letter hletter] at h
    obtain ⟨⟨digits, after⟩, hread, hfound⟩ := Option.map_eq_some_iff.mp h
    cases hfound
    obtain ⟨hdigits, -, hsplit⟩ := readDigits_eq_some_iff.mp hread
    obtain ⟨written, hwritten, rfl⟩ := exponent_of_sign hletter hdigits hsplit
    exact ⟨_, hwritten, rfl⟩
  · unfold readExponent at h
    split at h
    · exact absurd ⟨_, _, .inl rfl, rfl⟩ hpower
    · exact absurd ⟨_, _, .inr rfl, rfl⟩ hpower
    · cases h
      exact ⟨[], .missing, rfl⟩

theorem exponentSign_digits (h : Digits digits) (rest : Bytes) :
    exponentSign (digits ++ rest) = (false, digits ++ rest) := by
  obtain ⟨b, more, rfl, hb⟩ := Digits.exists_cons h
  unfold exponentSign
  split
  · rename_i heq
    cases heq
    cases hb
  · rename_i heq
    cases heq
    cases hb
  · rfl

theorem readExponent_append {power : Int} (h : Exponent power written) (hrest : Stops rest) :
    readExponent (written ++ rest) = some (power, rest) := by
  have hread {digits : Bytes} (hdigits : Digits digits) :
      readDigits (digits ++ rest) = some (digits, rest) :=
    readDigits_eq_some_iff.mpr ⟨hdigits, hrest.noDigit, rfl⟩
  cases h with
  | missing =>
    rw [List.nil_append]
    unfold readExponent
    split
    · exact absurd rfl hrest.noPower.1
    · exact absurd rfl hrest.noPower.2
    · rfl
  | plain hletter hdigits =>
    rw [List.cons_append, readExponent_letter hletter, exponentSign_digits hdigits, hread hdigits]
    rfl
  | plus hletter hdigits =>
    rw [List.cons_append, readExponent_letter hletter, List.cons_append, exponentSign, hread hdigits]
    rfl
  | minus hletter hdigits =>
    rw [List.cons_append, readExponent_letter hletter, List.cons_append, exponentSign, hread hdigits]
    rfl

/-! ## Whole numbers -/

theorem magnitude_of_read {n : Nat} {exponent : Int}
    (h : readMagnitude bytes = some (n, exponent, rest)) :
    ∃ written, Magnitude n exponent written ∧ bytes = written ++ rest := by
  unfold readMagnitude at h
  simp only [Option.bind_eq_bind, Option.bind_eq_some_iff, Option.pure_def, Prod.exists] at h
  obtain ⟨whole, afterWhole, hreadWhole, places, afterPlaces, hplaces, power, after, hpower, hall⟩ := h
  cases hall
  obtain ⟨hwhole, -, rfl⟩ := readWhole_eq_some_iff.mp hreadWhole
  obtain ⟨fraction, hfraction, rfl⟩ := fraction_of_read hplaces
  obtain ⟨tail, htail, rfl⟩ := exponent_of_read hpower
  exact ⟨_, .mk hwhole hfraction htail, by simp⟩

theorem exponent_head {power : Int} (h : Exponent power written) (hrest : Stops rest) :
    NoDigit (written ++ rest) ∧ (written ++ rest).head? ≠ some 0x2E := by
  have hletter {letter : UInt8} (hletter : letter = 0x65 ∨ letter = 0x45) (more : Bytes) :
      NoDigit (letter :: more) ∧ (letter :: more).head? ≠ some 0x2E := by
    unfold NoDigit
    rcases hletter with rfl | rfl <;> simp <;> decide
  cases h with
  | missing => exact ⟨hrest.noDigit, hrest.noPoint⟩
  | plain hplain => exact hletter hplain _
  | plus hplus => exact hletter hplus _
  | minus hminus => exact hletter hminus _

theorem fraction_head (h : Fraction places written) (hrest : NoDigit rest) :
    NoDigit (written ++ rest) := by
  cases h with
  | missing => exact hrest
  | places =>
    intro b hb
    cases hb
    decide

theorem readMagnitude_append {n : Nat} {exponent : Int} (h : Magnitude n exponent written)
    (hrest : Stops rest) : readMagnitude (written ++ rest) = some (n, exponent, rest) := by
  cases h with
  | @mk whole places fraction tail power hwhole hfraction hpower =>
    obtain ⟨hdigit, hpoint⟩ := exponent_head hpower hrest
    have hreadWhole : readWhole (whole ++ (fraction ++ (tail ++ rest))) =
        some (whole, fraction ++ (tail ++ rest)) :=
      readWhole_eq_some_iff.mpr ⟨hwhole, fraction_head hfraction hdigit, rfl⟩
    unfold readMagnitude
    simp only [List.append_assoc, hreadWhole, readFraction_append hfraction hdigit hpoint,
      readExponent_append hpower hrest, Option.bind_eq_bind, Option.bind_some, Option.pure_def]

theorem magnitude_head {n : Nat} {exponent : Int} (h : Magnitude n exponent written) :
    ∃ b more, written = b :: more ∧ isDigitByte b := by
  cases h with
  | mk hwhole =>
    obtain ⟨b, more, rfl, hb⟩ := Digits.exists_cons hwhole.1
    exact ⟨b, _, rfl, hb⟩

theorem number_head {digits exponent : Int} (h : Number digits exponent written) :
    ∃ b more, written = b :: more ∧ (b = 0x2D ∨ isDigitByte b) := by
  cases h with
  | plain h =>
    obtain ⟨b, more, hcons, hb⟩ := magnitude_head h
    exact ⟨b, more, hcons, .inr hb⟩
  | minus => exact ⟨_, _, rfl, .inl rfl⟩

theorem number_of_read {datum : Datum} (h : readNumber bytes = some (datum, rest)) :
    ∃ written, Spells datum written ∧ bytes = written ++ rest := by
  unfold readNumber at h
  split at h
  · obtain ⟨⟨n, exponent, left⟩, hread, hdatum⟩ := Option.map_eq_some_iff.mp h
    cases hdatum
    obtain ⟨written, hwritten, rfl⟩ := magnitude_of_read hread
    exact ⟨_, .number (.minus hwritten), rfl⟩
  · obtain ⟨⟨n, exponent, left⟩, hread, hdatum⟩ := Option.map_eq_some_iff.mp h
    cases hdatum
    obtain ⟨written, hwritten, rfl⟩ := magnitude_of_read hread
    exact ⟨_, .number (.plain hwritten), rfl⟩

theorem readNumber_append {digits exponent : Int} (h : Number digits exponent written)
    (hrest : Stops rest) : readNumber (written ++ rest) = some (.number digits exponent, rest) := by
  cases h with
  | plain h =>
    have hread := readMagnitude_append h hrest
    obtain ⟨b, more, rfl, hb⟩ := magnitude_head h
    unfold readNumber
    split
    · rename_i heq
      cases heq
      cases hb
    · rw [hread]
      rfl
  | minus h =>
    rw [List.cons_append, readNumber, readMagnitude_append h hrest]
    rfl

end FilmCatalog.Datum
