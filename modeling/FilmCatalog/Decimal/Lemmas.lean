import FilmCatalog.Decimal.Numeral

/-!
# Numerals and their numbers

Reading a numeral gives the number that its digits spell, up to the limit. A canonical numeral is the
text of its number, so numbers and canonical numerals go one to one.
-/

namespace FilmCatalog.Decimal

/-! ## Reading -/

theorem digit?_eq_some_iff {c : Char} {d : Nat} :
    digit? c = some d ↔ c.isDigit ∧ d = c.toNat - '0'.toNat := by
  simp only [digit?]
  split
  · rename_i hdigit
    simp only [hdigit, Option.some.injEq, true_and]
    exact eq_comm
  · rename_i hother
    simp only [hother, reduceCtorEq, false_and]

theorem le_ofDigitChars (value : Nat) (cs : List Char) : value ≤ Nat.ofDigitChars 10 cs value := by
  induction cs generalizing value with
  | nil => exact Nat.le_refl _
  | cons c cs ih =>
    rw [Nat.ofDigitChars_cons]
    exact Nat.le_trans (by omega) (ih _)

/-- Digits are read when they are all digits and their number is within the limit. -/
theorem readOnto_eq_ok_iff {limit value n : Nat} {cs : List Char} (h : value ≤ limit) :
    readOnto limit value cs = .ok n ↔
      (∀ c ∈ cs, c.isDigit) ∧ n = Nat.ofDigitChars 10 cs value ∧ n ≤ limit := by
  induction cs generalizing value with
  | nil => simp [readOnto]; omega
  | cons c cs ih =>
    simp only [readOnto]
    split
    · rename_i hnone
      have hother : ¬ c.isDigit := by
        simp only [digit?] at hnone
        simpa using hnone
      simp [hother]
    · rename_i d hsome
      obtain ⟨hdigit, rfl⟩ := digit?_eq_some_iff.mp hsome
      split
      · rename_i hsmall
        rw [ih hsmall, Nat.ofDigitChars_cons]
        simp [hdigit]
      · rename_i hlarge
        have hgrows := le_ofDigitChars (10 * value + (c.toNat - '0'.toNat)) cs
        rw [Nat.ofDigitChars_cons]
        simp only [reduceCtorEq, false_iff, not_and]
        intro _ heq
        omega

/-! ## Canonical numerals -/

theorem isDigit_of_mem_toDigits {n : Nat} {c : Char} (h : c ∈ Nat.toDigits 10 n) : c.isDigit :=
  Nat.isDigit_of_mem_toDigits (by decide) (by decide) h

theorem value_toDigits (n : Nat) : value (Nat.toDigits 10 n) = n :=
  Nat.ofDigitChars_ten_toDigits

/-- A digit is the numeral of its value. -/
theorem toDigits_digit {c : Char} (h : c.isDigit) :
    c.toNat - '0'.toNat < 10 ∧ Nat.toDigits 10 (c.toNat - '0'.toNat) = [c] := by
  have hzero : '0'.toNat = 48 := rfl
  have hbounds : 48 ≤ c.toNat ∧ c.toNat ≤ 57 := by
    simpa [Char.isDigit, UInt32.le_iff_toNat_le] using h
  have hsmall : c.toNat - '0'.toNat < 10 := by omega
  refine ⟨hsmall, ?_⟩
  have hchar : (c.toNat - '0'.toNat).digitChar = c := by
    rw [← Char.toNat_inj, Nat.toNat_digitChar_of_lt_ten hsmall]
    omega
  rw [Nat.toDigits_of_lt_base hsmall, hchar]

/-- A row of digits that begins with no zero is the numeral of its number, which is not zero. -/
theorem toDigits_value {front : List Char} {c : Char} (hdigits : ∀ x ∈ c :: front, x.isDigit)
    (hzero : c ≠ '0') :
    0 < value (c :: front) ∧ Nat.toDigits 10 (value (c :: front)) = c :: front := by
  -- Numerals grow at their end, so the last digit is taken off and not the first.
  obtain ⟨n, hn⟩ : ∃ n, front.length = n := ⟨_, rfl⟩
  induction n generalizing front with
  | zero =>
    obtain rfl := List.eq_nil_of_length_eq_zero hn
    have ⟨hsmall, hown⟩ := toDigits_digit (hdigits c (by simp))
    have hval : value [c] = c.toNat - '0'.toNat := by simp [value, Nat.ofDigitChars_cons]
    rw [hval]
    refine ⟨?_, hown⟩
    rcases Nat.eq_zero_or_pos (c.toNat - '0'.toNat) with hnone | hsome
    · rw [hnone] at hown
      exact absurd (List.head_eq_of_cons_eq hown).symm hzero
    · exact hsome
  | succ n ih =>
    have hfront : front ≠ [] := by
      rintro rfl
      simp at hn
    obtain ⟨init, last, rfl⟩ : ∃ init last, front = init ++ [last] :=
      ⟨_, _, (List.dropLast_concat_getLast hfront).symm⟩
    have hinit : ∀ x ∈ c :: init, x.isDigit := fun x hx => hdigits x (by grind)
    have ⟨hpos, hown⟩ := ih hinit (by simpa using hn)
    have ⟨hsmall, hlast⟩ := toDigits_digit (hdigits last (by simp))
    have hval : value (c :: (init ++ [last])) = 10 * value (c :: init) + (last.toNat - '0'.toNat) := by
      simp only [value, ← List.cons_append]
      rw [Nat.ofDigitChars_append]
      rfl
    rw [hval]
    refine ⟨by omega, ?_⟩
    rw [← Nat.toDigits_append_toDigits (by decide) hpos hsmall, hown, hlast]
    rfl

theorem head_toDigits_ne_zero {n : Nat} (h : 0 < n) : (Nat.toDigits 10 n).head? ≠ some '0' := by
  induction n using Nat.strongRecOn with
  | _ n ih =>
    by_cases hsmall : n < 10
    · rw [Nat.toDigits_of_lt_base hsmall]
      rw [List.head?_cons, Ne, Option.some.injEq, Nat.digitChar_eq_zero]
      omega
    · rw [Nat.toDigits_of_base_le (by decide) (by omega), List.head?_append]
      simp only [ne_eq, Option.or_eq_some_iff, not_or]
      exact ⟨ih (n / 10) (by omega) (by omega), by simp [Nat.toDigits_ne_nil]⟩

/-- The canonical numerals are the texts of numbers. -/
theorem isCanonical_iff {t : String} : isCanonical t ↔ ∃ n, t = text n := by
  constructor
  · intro h
    refine ⟨value t.toList, ?_⟩
    rw [text, ← String.ofList_toList (s := t), String.toList_ofList]
    congr 1
    simp only [isCanonical] at h
    split at h
    · simp at h
    · rename_i heq
      rw [heq]
      rfl
    · simp at h
    · rename_i hnone _ hzero
      match hcs : t.toList with
      | [] => exact absurd hcs hnone
      | c :: front =>
        rw [hcs] at h
        refine (toDigits_value (by simpa using h) ?_).2.symm
        rintro rfl
        exact hzero front hcs
  · rintro ⟨n, rfl⟩
    rcases Nat.eq_zero_or_pos n with rfl | hpos
    · rfl
    · have hhead := head_toDigits_ne_zero hpos
      have hdigits : ∀ c ∈ Nat.toDigits 10 n, c.isDigit := fun _ => isDigit_of_mem_toDigits
      simp only [isCanonical, text, String.toList_ofList]
      split
      · rename_i hnone
        exact absurd hnone Nat.toDigits_ne_nil
      · rfl
      · rename_i heq
        simp [heq] at hhead
      · simpa using hdigits

/-- The text of a number is read as that number, up to the limit. -/
theorem read_text {limit n m : Nat} : read limit (text n) = .ok m ↔ m = n ∧ n ≤ limit := by
  have hdigits : ∀ c ∈ Nat.toDigits 10 n, c.isDigit := fun _ => isDigit_of_mem_toDigits
  have hplus : '+' ∉ Nat.toDigits 10 n := fun h => absurd (hdigits _ h) (by decide)
  simp only [read, text, String.toList_ofList]
  split
  · rename_i hnone
    exact absurd hnone Nat.toDigits_ne_nil
  · rename_i heq
    simp [heq] at hplus
  · rename_i heq
    simp [heq] at hplus
  · rw [readOnto_eq_ok_iff (Nat.zero_le _), Nat.ofDigitChars_ten_toDigits]
    constructor
    · rintro ⟨_, rfl, hsmall⟩
      exact ⟨rfl, hsmall⟩
    · rintro ⟨rfl, hsmall⟩
      exact ⟨hdigits, rfl, hsmall⟩

end FilmCatalog.Decimal
