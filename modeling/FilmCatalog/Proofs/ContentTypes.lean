import FilmCatalog.Proofs.Cuts
import FilmCatalog.Proofs.Submissions

/-!
# How the encoding is chosen

A content type decides by its media type alone, and its body is not looked at. Without a content type the body
decides by the mark at its front, which no written film begins with.
-/

namespace FilmCatalog

/-! ## Content types -/

namespace Encoding

variable {contentType name : String} {body : Bytes}

/-- The media type is all that stands in front of the first semicolon. Behind it stand parameters. -/
def MediaType (contentType name : String) : Prop :=
  ';' ∉ name.toList ∧
    (contentType = name ∨ ∃ parameters : String, contentType = name ++ ";" ++ parameters)

theorem mediaType_iff :
    MediaType contentType name ↔ name = String.ofList (contentType.toList.takeWhile (· != ';')) := by
  have hname : name = String.ofList (contentType.toList.takeWhile (· != ';')) ↔
      contentType.toList.takeWhile (· != ';') = name.toList := by
    rw [← String.toList_inj, String.toList_ofList, eq_comm]
  rw [hname]
  constructor
  · rintro ⟨hplain, rfl | ⟨parameters, rfl⟩⟩
    · exact (cut_iff.mpr ⟨hplain, .inr ⟨rfl, rfl⟩⟩).1
    · have htext : (name ++ ";" ++ parameters).toList = name.toList ++ ';' :: parameters.toList := by
        simp
      exact (cut_iff.mpr ⟨hplain, .inl htext⟩).1
  · intro h
    obtain ⟨hplain, htext⟩ := cut_iff.mp ⟨h, rfl⟩
    refine ⟨hplain, ?_⟩
    generalize (contentType.toList.dropWhile (· != ';')).drop 1 = rest at htext
    rcases htext with htext | ⟨htext, -⟩
    · refine .inr ⟨.ofList rest, ?_⟩
      rw [← String.toList_inj, htext]
      simp
    · exact .inl (String.toList_inj.mp htext)

/-- The media type of a form. Letter case does not matter, and neither do blanks around it. -/
def IsFormType (contentType : String) : Prop :=
  ∃ name, MediaType contentType name ∧ Blank.Says name "application/x-www-form-urlencoded"

theorem namesForm_iff : namesForm contentType ↔ IsFormType contentType := by
  unfold namesForm IsFormType
  simp only [mediaType_iff, exists_eq_left]
  exact Blank.sameLetters_trim_iff (by decide) (by decide)

instance (contentType : String) : Decidable (IsFormType contentType) := decidable_of_iff _ namesForm_iff

example :
    IsFormType "\u2003Application/X-WWW-Form-URLencoded\t; charset=utf-8" ∧
      ¬ IsFormType "application/x-www-form-urlencoded-2" ∧
      ¬ IsFormType "text/plain; application/x-www-form-urlencoded" := by decide +kernel

theorem detect_form (h : IsFormType contentType) (body : Bytes) :
    detect (some contentType) body = .form := by
  rw [← namesForm_iff] at h
  simp [detect, h]

theorem detect_plain (h : ¬ IsFormType contentType) (body : Bytes) :
    detect (some contentType) body = .plain := by
  rw [← namesForm_iff] at h
  simp [detect, h]

theorem detect_mark (inner : Bytes) : detect none (mark ++ inner) = .marked := by
  simp [detect, mark_isPrefixOf inner]

theorem detect_no_mark (h : ∀ inner, body ≠ mark ++ inner) : detect none body = .plain := by
  have hmark : ¬ mark.isPrefixOf body := by
    rw [List.isPrefixOf_iff_prefix]
    rintro ⟨inner, hbody⟩
    exact h inner hbody.symm
  simp [detect, hmark]

theorem detect_eq_form_iff {given : Option String} :
    detect given body = .form ↔ ∃ contentType, given = some contentType ∧ IsFormType contentType := by
  cases given with
  | none =>
    unfold detect
    dsimp only
    split <;> simp
  | some contentType =>
    by_cases h : IsFormType contentType
    · simp [detect_form h, h]
    · simp [detect_plain h, h]

end Encoding

/-! ## Bodies without a content type -/

namespace Submission

open Encoding (detect mark IsFormType)

variable {body : Bytes} {film : Film}

/-- A film opens with a bracket, behind blanks at most, and the mark opens with a letter. -/
theorem not_mark_of_read (h : readPlain body = .ok film) (inner : Bytes) : body ≠ mark ++ inner := by
  rintro rfl
  have hletter : Reading.skipBlanks (mark ++ inner) = mark ++ inner := rfl
  rcases readPlain_eq_ok_iff.mp h with hobject | hlist
  · obtain ⟨left, -, hbrace, -⟩ := Reading.filmObject_iff.mp hobject
    rw [hletter] at hbrace
    cases hbrace
  · obtain ⟨left, -, hbracket, -⟩ := Reading.filmList_iff.mp hlist
    rw [hletter] at hbracket
    cases hbracket

/-- The media type alone makes a body a form, and a body with any other content type is the film itself. A body
without a content type is the film behind the mark if it begins with the mark, and the film itself otherwise.
To look for the mark never costs a film. -/
theorem bodies_are_read_as_sent (body : Bytes) :
    (∀ given, detect given body = .form ↔
        ∃ contentType, given = some contentType ∧ IsFormType contentType) ∧
      (∀ contentType, IsFormType contentType →
        read (detect (some contentType) body) body = readForm body) ∧
      (∀ contentType, ¬ IsFormType contentType →
        read (detect (some contentType) body) body = readPlain body) ∧
      (∀ inner, body = Utf8.encode "data=" ++ inner →
        read (detect none body) body = readPlain inner) ∧
      ((∀ inner, body ≠ Utf8.encode "data=" ++ inner) →
        read (detect none body) body = readPlain body) ∧
      ∀ film, readPlain body = .ok film → read (detect none body) body = .ok film := by
  refine ⟨fun _ => Encoding.detect_eq_form_iff, ?_, ?_, ?_, ?_, ?_⟩
  · intro contentType hform
    rw [Encoding.detect_form hform]
    rfl
  · intro contentType hother
    rw [Encoding.detect_plain hother]
    rfl
  · rintro inner rfl
    rw [← mark, Encoding.detect_mark inner]
    exact readMarked_mark inner
  · intro hother
    rw [Encoding.detect_no_mark hother]
    rfl
  · intro film hread
    rw [Encoding.detect_no_mark (not_mark_of_read hread)]
    exact hread

end Submission

end FilmCatalog
