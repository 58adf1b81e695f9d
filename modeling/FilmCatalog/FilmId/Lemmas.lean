import FilmCatalog.Decimal.Lemmas
import FilmCatalog.FilmId
import FilmCatalog.Text.Utf8.Lemmas

/-!
# Film numbers and their texts

Each film number has one text, and each text names one film number at most.
-/

namespace FilmCatalog.FilmId

open Decimal

/-- A text names a film number exactly when it is the text of that number. -/
theorem ofText?_eq_some_iff {t : String} {id : FilmId} : ofText? t = some id ↔ t = id.text := by
  constructor
  · intro h
    simp only [ofText?] at h
    split at h
    · rename_i hcanonical
      obtain ⟨n, rfl⟩ := isCanonical_iff.mp hcanonical
      split at h
      · rename_i m hread
        obtain ⟨rfl, hsmall⟩ := read_text.mp hread
        simp only [Option.some.injEq] at h
        rw [← h, FilmId.text, UInt64.toNat_ofNat_of_lt' (Nat.lt_of_le_of_lt hsmall (by decide))]
      · simp at h
    · simp at h
  · rintro rfl
    have hcanonical : isCanonical id.text := isCanonical_iff.mpr ⟨_, rfl⟩
    have hsmall : id.number.toNat ≤ largest := by
      have hlt := id.number.toNat_lt
      simp only [largest]
      omega
    have hread : read largest id.text = .ok id.number.toNat := read_text.mpr ⟨rfl, hsmall⟩
    simp only [ofText?, hcanonical, if_true, hread, UInt64.ofNat_toNat]

theorem text_inj {a b : FilmId} (h : a.text = b.text) : a = b := by
  have ha := ofText?_eq_some_iff.mpr h
  rw [ofText?_eq_some_iff.mpr rfl] at ha
  exact Option.some.inj ha

/-! ## Bytes of a number -/

theorem isDigit_of_mem_text {id : FilmId} {c : Char} (hc : c ∈ id.text.toList) : c.isDigit := by
  unfold FilmId.text Decimal.text at hc
  rw [String.toList_ofList] at hc
  exact isDigit_of_mem_toDigits hc

theorem isDigit_of_mem_encode_text {id : FilmId} {b : UInt8} (hb : b ∈ Utf8.encode id.text) :
    (Char.ofNat b.toNat).isDigit := by
  refine isDigit_of_mem_text (Utf8.mem_toList_of_mem_encode (fun c hc => ?_) hb)
  have hdigit := isDigit_of_mem_text hc
  simp only [Char.isDigit, Bool.and_eq_true, decide_eq_true_eq, UInt32.le_iff_toNat_le] at hdigit
  exact Nat.lt_of_le_of_lt hdigit.2 (by decide)

theorem encode_text_ne_nil (id : FilmId) : Utf8.encode id.text ≠ [] := by
  intro hnil
  have hread := Utf8.decode?_encode id.text
  rw [hnil] at hread
  have hempty : id.text = "" := (Option.some.inj hread).symm
  have hnone : ofText? "" = none := rfl
  rw [ofText?_eq_some_iff.mpr hempty.symm] at hnone
  cases hnone

end FilmCatalog.FilmId
