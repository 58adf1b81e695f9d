import FilmCatalog.FilmId.Lemmas
import FilmCatalog.Refusal

/-!
# Film numbers and the texts that name them

A text names a film number if it is the one numeral of it, and is told back unchanged if it names none.
-/

namespace FilmCatalog

namespace Decimal

/-- Digits from 0 to 9 that spell a number, without a zero that could be left out. -/
structure Numeral (text : String) (n : Nat) : Prop where
  nonempty : text ≠ ""
  digits : ∀ c ∈ text.toList, '0' ≤ c ∧ c ≤ '9'
  noZero : text.toList.head? = some '0' → text = "0"
  value : n = text.toList.foldl (fun value c => 10 * value + (c.toNat - '0'.toNat)) 0

theorem isDigit_iff {c : Char} : c.isDigit ↔ '0' ≤ c ∧ c ≤ '9' := by
  simp [Char.isDigit, Char.le_def]

theorem numeral_text (n : Nat) : Numeral (text n) n := by
  have hlist : (text n).toList = Nat.toDigits 10 n := String.toList_ofList
  refine ⟨?_, ?_, ?_, ?_⟩
  · intro hempty
    rw [hempty] at hlist
    exact Nat.toDigits_ne_nil hlist.symm
  · intro c hc
    rw [hlist] at hc
    exact isDigit_iff.mp (isDigit_of_mem_toDigits hc)
  · intro hzero
    rcases Nat.eq_zero_or_pos n with rfl | hpos
    · rfl
    · rw [hlist] at hzero
      exact absurd hzero (head_toDigits_ne_zero hpos)
  · rw [hlist]
    exact (value_toDigits n).symm

theorem numeral_iff {t : String} {n : Nat} : Numeral t n ↔ t = text n := by
  constructor
  · rintro ⟨hnonempty, hdigits, hzero, hvalue⟩
    cases hlist : t.toList with
    | nil => exact absurd (String.toList_eq_nil_iff.mp hlist) hnonempty
    | cons c front =>
      rw [hlist] at hdigits hzero hvalue
      by_cases hc : c = '0'
      · subst hc
        obtain rfl := hzero rfl
        rw [← hlist] at hvalue
        rw [hvalue]
        rfl
      · have hall : ∀ x ∈ c :: front, x.isDigit := fun x hx => isDigit_iff.mpr (hdigits x hx)
        have hnumeral : Nat.toDigits 10 n = c :: front := by
          rw [hvalue]
          exact (toDigits_value hall hc).2
        unfold text
        rw [hnumeral, ← hlist, String.ofList_toList]
  · rintro rfl
    exact numeral_text n

end Decimal

namespace FilmId

open Decimal

theorem parse_eq_ok_iff {s : String} {id : FilmId} : parse s = .ok id ↔ s = id.text := by
  rw [← ofText?_eq_some_iff]
  unfold parse
  split
  · rename_i hfound
    simp [hfound]
  · rename_i hnone
    simp [hnone]

theorem parse_eq_error_iff {s : String} :
    parse s = .error (.notFound s) ↔ ∀ id : FilmId, s ≠ id.text := by
  constructor
  · intro h id hid
    rw [parse_eq_ok_iff.mpr hid] at h
    cases h
  · intro h
    unfold parse
    split
    · rename_i id hfound
      exact absurd (ofText?_eq_some_iff.mp hfound) (h id)
    · rfl

theorem exists_numeral_iff {s : String} :
    (∃ n < UInt64.size, Numeral s n) ↔ ∃ id : FilmId, s = id.text := by
  constructor
  · rintro ⟨n, hsmall, hnumeral⟩
    refine ⟨⟨UInt64.ofNat n⟩, ?_⟩
    unfold FilmId.text
    rw [UInt64.toNat_ofNat_of_lt' hsmall]
    exact numeral_iff.mp hnumeral
  · rintro ⟨id, rfl⟩
    exact ⟨_, id.number.toNat_lt, numeral_text _⟩

/-- Writing and reading a film number are inverse to each other. What is no numeral of a 64-bit number is
turned down and told back as it came, so no two texts name one film. -/
theorem parse_inverts_text (id : FilmId) (s : String) :
    parse id.text = .ok id ∧ Numeral id.text id.number.toNat ∧
      (parse s = .ok id ↔ s = id.text) ∧
      (parse s = .error (.notFound s) ↔ ∀ other : FilmId, s ≠ other.text) ∧
      (parse s = .error (.notFound s) ↔ ∀ n < UInt64.size, ¬ Numeral s n) ∧
      ∀ t, (∃ other, parse s = .ok other ∧ parse t = .ok other) ↔
        s = t ∧ ∃ n < UInt64.size, Numeral s n := by
  refine ⟨parse_eq_ok_iff.mpr rfl, numeral_text _, parse_eq_ok_iff, parse_eq_error_iff, ?_, ?_⟩
  · rw [parse_eq_error_iff, ← not_exists, ← exists_numeral_iff]
    simp only [not_exists, not_and]
  · intro t
    rw [exists_numeral_iff]
    simp only [parse_eq_ok_iff]
    constructor
    · rintro ⟨other, hs, ht⟩
      exact ⟨hs.trans ht.symm, other, hs⟩
    · rintro ⟨rfl, other, hs⟩
      exact ⟨other, hs, hs⟩

end FilmId

end FilmCatalog
