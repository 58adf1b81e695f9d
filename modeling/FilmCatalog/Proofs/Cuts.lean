import FilmCatalog.Text.Letters
import Mathlib.Data.List.DropRight

/-!
# Cut and trimmed texts

A text is cut at its separators, or at the first of them alone, or trimmed at its ends. There is only one way to
do any of these, so what is left can be told from what is taken off.
-/

namespace FilmCatalog

/-- Each cut is made at a separator, so none is left in the parts. -/
theorem not_mem_of_mem_splitOn {α : Type} [DecidableEq α] {separator : α} {l part : List α}
    (hpart : part ∈ l.splitOn separator) : separator ∉ part := by
  induction l generalizing part with
  | nil =>
    rw [List.splitOn_nil, List.mem_singleton] at hpart
    simp [hpart]
  | cons x l ih =>
    rw [List.splitOn_cons_eq_if_modifyHead] at hpart
    split at hpart
    · rcases List.mem_cons.mp hpart with rfl | hpart
      · exact List.not_mem_nil
      · exact ih hpart
    · rename_i hx
      rw [beq_iff_eq] at hx
      obtain ⟨first, parts, hsplit⟩ := List.exists_cons_of_ne_nil (List.splitOn_ne_nil separator l)
      rw [hsplit] at ih
      rw [hsplit, List.modifyHead_cons] at hpart
      rcases List.mem_cons.mp hpart with rfl | hpart
      · exact List.not_mem_cons_of_ne_of_not_mem (Ne.symm hx) (ih List.mem_cons_self)
      · exact ih (List.mem_cons_of_mem _ hpart)

/-- Cutting at the first separator alone. Where there is none, nothing stands behind it. -/
theorem cut_iff {α : Type} [DecidableEq α] {separator : α} {l front back : List α} :
    l.takeWhile (· != separator) = front ∧ (l.dropWhile (· != separator)).drop 1 = back ↔
      separator ∉ front ∧ (l = front ++ separator :: back ∨ l = front ∧ back = []) := by
  constructor
  · rintro ⟨rfl, rfl⟩
    have hwhole : l.takeWhile (· != separator) ++ l.dropWhile (· != separator) = l :=
      List.takeWhile_append_dropWhile
    refine ⟨fun hmem => by simpa using List.mem_takeWhile_imp hmem, ?_⟩
    cases hrest : l.dropWhile (· != separator) with
    | nil =>
      rw [hrest, List.append_nil] at hwhole
      exact .inr ⟨hwhole.symm, rfl⟩
    | cons x back =>
      have hstop := List.head?_dropWhile_not (· != separator) l
      rw [hrest] at hstop hwhole
      obtain rfl : x = separator := by simpa using hstop
      exact .inl hwhole.symm
  · rintro ⟨hfront, hl⟩
    have hpass : ∀ x ∈ front, (x != separator) = true := by
      intro x hx
      rw [bne_iff_ne]
      rintro rfl
      exact hfront hx
    rcases hl with rfl | ⟨rfl, rfl⟩
    · rw [List.takeWhile_append_of_pos hpass, List.dropWhile_append_of_pos hpass]
      simp
    · rw [List.takeWhile_eq_self_iff.mpr hpass, List.dropWhile_eq_nil_iff.mpr hpass]
      exact ⟨rfl, rfl⟩

namespace Blank

section Dropped

variable {α : Type} {p : α → Bool} {l kept gap : List α}

theorem not_last_rdropWhile {x : α} (h : (l.rdropWhile p).getLast? = some x) : ¬ p x := by
  have hne : l.rdropWhile p ≠ [] := by
    rintro hnil
    simp [hnil] at h
  have hlast := List.rdropWhile_last_not p l hne
  rw [List.getLast?_eq_some_getLast hne] at h
  rwa [← Option.some.inj h]

theorem rdropWhile_append (hlast : ∀ x, kept.getLast? = some x → ¬ p x) (hgap : ∀ x ∈ gap, p x) :
    (kept ++ gap).rdropWhile p = kept := by
  unfold List.rdropWhile
  rw [List.reverse_append, List.dropWhile_append_of_pos (by simpa using hgap)]
  cases hkept : kept.reverse with
  | nil => simpa using hkept.symm
  | cons x front =>
    have hx : kept.getLast? = some x := by rw [← List.head?_reverse, hkept, List.head?_cons]
    rw [List.dropWhile_cons_of_neg (hlast x hx), ← hkept, List.reverse_reverse]

theorem exists_dropped (p : α → Bool) (l : List α) :
    ∃ gap, (∀ x ∈ gap, p x) ∧ l = l.rdropWhile p ++ gap :=
  ⟨l.rtakeWhile p, fun _ => List.mem_rtakeWhile_imp, List.rdropWhile_append_rtakeWhile.symm⟩

/-- What is kept does not end in anything that is dropped. -/
theorem rdropWhile_eq_iff :
    l.rdropWhile p = kept ↔
      (∀ x, kept.getLast? = some x → ¬ p x) ∧ ∃ gap, (∀ x ∈ gap, p x) ∧ l = kept ++ gap := by
  constructor
  · rintro rfl
    exact ⟨fun x => not_last_rdropWhile, exists_dropped p l⟩
  · rintro ⟨hlast, gap, hgap, rfl⟩
    exact rdropWhile_append hlast hgap

theorem forall_mem_rdropWhile {P : α → Prop} (hdropped : ∀ x, p x → P x) :
    (∀ x ∈ l.rdropWhile p, P x) ↔ ∀ x ∈ l, P x := by
  obtain ⟨gap, hgap, hl⟩ := exists_dropped p l
  have hpart : ∀ x ∈ gap, P x := fun x hx => hdropped x (hgap x hx)
  conv_rhs => rw [hl]
  rw [List.forall_mem_append, and_iff_left hpart]

end Dropped

/-! ## Texts without blanks at their ends -/

structure Bare (chars : List Char) : Prop where
  first : ∀ c, chars.head? = some c → ¬ isBlank c
  last : ∀ c, chars.getLast? = some c → ¬ isBlank c

theorem bare_iff {chars : List Char} :
    Bare chars ↔ chars.head?.all (!isBlank ·) ∧ chars.getLast?.all (!isBlank ·) := by
  simp only [Option.all_eq_true, Bool.not_eq_true', ← Bool.not_eq_true]
  constructor
  · intro h
    exact ⟨h.first, h.last⟩
  · rintro ⟨hfirst, hlast⟩
    exact ⟨hfirst, hlast⟩

instance (chars : List Char) : Decidable (Bare chars) := decidable_of_iff _ bare_iff.symm

theorem toList_trim (text : String) :
    (trim text).toList = (text.toList.dropWhile isBlank).rdropWhile isBlank := by
  unfold trim
  rw [String.toList_ofList]
  rfl

theorem bare_trim (text : String) : Bare (trim text).toList := by
  rw [toList_trim]
  refine ⟨?_, fun c => not_last_rdropWhile⟩
  intro c hc
  obtain ⟨gap, -, hsplit⟩ := exists_dropped isBlank (text.toList.dropWhile isBlank)
  -- The first one that is kept stands in front of all that is dropped at the end.
  have hfirst : (text.toList.dropWhile isBlank).head? = some c := by
    rw [hsplit, List.head?_append, hc]
    rfl
  have hstop := List.head?_dropWhile_not isBlank text.toList
  rw [hfirst] at hstop
  simpa using hstop

/-- What is left of a text is the part without blanks at its ends between two rows of blanks. -/
theorem trim_eq_iff {text : String} {word : List Char} :
    (trim text).toList = word ↔
      Bare word ∧ ∃ before after : List Char, (∀ c ∈ before, isBlank c) ∧ (∀ c ∈ after, isBlank c) ∧
        text.toList = before ++ word ++ after := by
  constructor
  · rintro rfl
    obtain ⟨after, hafter, hsplit⟩ := exists_dropped isBlank (text.toList.dropWhile isBlank)
    refine ⟨bare_trim text, text.toList.takeWhile isBlank, after, fun c => List.mem_takeWhile_imp,
      hafter, ?_⟩
    rw [toList_trim, List.append_assoc, ← hsplit, List.takeWhile_append_dropWhile]
  · rintro ⟨hbare, before, after, hbefore, hafter, htext⟩
    rw [toList_trim, htext, List.append_assoc, List.dropWhile_append_of_pos hbefore]
    cases word with
    | nil =>
      rw [List.nil_append, List.dropWhile_eq_nil_iff.mpr hafter]
      rfl
    | cons c word =>
      rw [List.cons_append, List.dropWhile_cons_of_neg (hbare.first c rfl), ← List.cons_append]
      exact rdropWhile_append hbare.last hafter

/-! ## Words in letters of any case -/

/-- Letters are no blanks. -/
theorem toLower_of_isBlank {c : Char} (h : isBlank c) : c.toLower = c := by
  have hletter : ¬ (c.val ≥ 'A'.val ∧ c.val ≤ 'Z'.val) := by
    rintro ⟨hlow, hhigh⟩
    simp only [isBlank, ranges, List.any_cons, List.any_nil, Bool.or_false, Bool.or_eq_true,
      Bool.and_eq_true, decide_eq_true_eq] at h
    have hlow : 65 ≤ c.toNat := hlow
    have hhigh : c.toNat ≤ 90 := hhigh
    omega
  unfold Char.toLower
  rw [dif_neg hletter]

theorem Bare.of_map_toLower {chars : List Char} (h : Bare (chars.map Char.toLower)) : Bare chars := by
  have hsmall (c : Char) (hc : ¬ isBlank c.toLower) : ¬ isBlank c := by
    intro hblank
    rw [toLower_of_isBlank hblank] at hc
    exact hc hblank
  constructor
  · intro c hc
    apply hsmall
    apply h.first
    rw [List.head?_map, hc]
    rfl
  · intro c hc
    apply hsmall
    apply h.last
    rw [List.getLast?_map, hc]
    rfl

/-- The text is the word, in letters of any case and with blanks around it. -/
def Says (text word : String) : Prop :=
  ∃ before middle after : List Char, (∀ c ∈ before, isBlank c) ∧ (∀ c ∈ after, isBlank c) ∧
    middle.map Char.toLower = word.toList ∧ text.toList = before ++ middle ++ after

theorem lower_trim_eq_iff {text word : String} (hword : Bare word.toList) :
    Ascii.lower (trim text) = word ↔ Says text word := by
  have hlower : Ascii.lower (trim text) = word ↔ (trim text).toList.map Char.toLower = word.toList := by
    rw [← String.toList_inj, Ascii.lower, String.toList_ofList]
  rw [hlower]
  constructor
  · intro h
    obtain ⟨-, before, after, hbefore, hafter, htext⟩ := trim_eq_iff.mp (rfl : (trim text).toList = _)
    exact ⟨before, _, after, hbefore, hafter, h, htext⟩
  · rintro ⟨before, middle, after, hbefore, hafter, hmiddle, htext⟩
    have hbare : Bare middle := by
      rw [← hmiddle] at hword
      exact hword.of_map_toLower
    rw [trim_eq_iff.mpr ⟨hbare, before, after, hbefore, hafter, htext⟩, hmiddle]

/-- A word in small letters is compared without regard to case. -/
theorem sameLetters_trim_iff {text word : String} (hsmall : Ascii.lower word = word)
    (hword : Bare word.toList) : Ascii.sameLetters (trim text) word ↔ Says text word := by
  unfold Ascii.sameLetters
  rw [hsmall, beq_iff_eq, lower_trim_eq_iff hword]

end Blank

end FilmCatalog
