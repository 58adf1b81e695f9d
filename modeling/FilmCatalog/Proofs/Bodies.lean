import FilmCatalog.Proofs.Texts
import FilmCatalog.Reading.Film
import Mathlib.Data.List.DropRight
import Mathlib.Data.List.Perm.Basic

/-!
# Bodies and their grammar

The readers of values, objects and lists take exactly what the grammar allows. Each reader has one
lemma that says so, and the reader around it uses only that lemma.
-/

namespace FilmCatalog.Reading

open Grammar

/-! ## Blanks -/

theorem isBlankByte_iff {b : UInt8} :
    isBlankByte b ↔ b = 0x20 ∨ b = 0x09 ∨ b = 0x0A ∨ b = 0x0D := by
  simp [isBlankByte, or_assoc]

theorem skipBlanks_append {gap : Bytes} (hgap : Blanks gap) (rest : Bytes) :
    skipBlanks (gap ++ rest) = skipBlanks rest := by
  unfold skipBlanks
  exact List.dropWhile_append_of_pos fun b hb => isBlankByte_iff.mpr (hgap b hb)

theorem exists_gap (bytes : Bytes) : ∃ gap, Blanks gap ∧ bytes = gap ++ skipBlanks bytes := by
  refine ⟨bytes.takeWhile isBlankByte, ?_, List.takeWhile_append_dropWhile.symm⟩
  intro b hb
  exact isBlankByte_iff.mp (List.mem_takeWhile_imp hb)

theorem skipBlanks_eq_cons_iff {b : UInt8} (hb : ¬ isBlankByte b) {bytes rest : Bytes} :
    skipBlanks bytes = b :: rest ↔ ∃ gap, Blanks gap ∧ bytes = gap ++ b :: rest := by
  constructor
  · intro h
    obtain ⟨gap, hgap, hbytes⟩ := exists_gap bytes
    exact ⟨gap, hgap, h ▸ hbytes⟩
  · rintro ⟨gap, hgap, rfl⟩
    rw [skipBlanks_append hgap]
    exact List.dropWhile_cons_of_neg hb

theorem skipBlanks_eq_nil_iff {bytes : Bytes} : skipBlanks bytes = [] ↔ Blanks bytes := by
  unfold skipBlanks Blanks
  simp only [List.dropWhile_eq_nil_iff, isBlankByte_iff]

theorem skipBlanks_idempotent (bytes : Bytes) : skipBlanks (skipBlanks bytes) = skipBlanks bytes :=
  List.dropWhile_idempotent isBlankByte bytes

/-! ## Parts of objects and lists -/

theorem readValue_eq_ok_iff {bytes rest : Bytes} {s : String} :
    readValue bytes = .ok (s, rest) ↔ ∃ value, Value s value ∧ bytes = value ++ rest := by
  have hopen : readValue bytes = .ok (s, rest) ↔
      ∃ left, skipBlanks bytes = 0x22 :: left ∧ readText left = .ok (s, rest) := by
    unfold readValue
    constructor
    · intro h
      split at h
      · simp at h
      · rename_i left hleft
        exact ⟨left, hleft, h⟩
      · simp at h
    · rintro ⟨left, hleft, h⟩
      rw [hleft]
      exact h
  rw [hopen]
  constructor
  · rintro ⟨left, hleft, h⟩
    obtain ⟨gap, hgap, rfl⟩ := (skipBlanks_eq_cons_iff (by decide)).mp hleft
    obtain ⟨inside, hinside, rfl⟩ := readText_eq_ok_iff.mp h
    exact ⟨_, ⟨gap, _, hgap, ⟨inside, hinside, rfl⟩, rfl⟩, by simp⟩
  · rintro ⟨value, ⟨gap, text, hgap, ⟨inside, hinside, rfl⟩, rfl⟩, rfl⟩
    refine ⟨inside ++ 0x22 :: rest, ?_, readText_eq_ok_iff.mpr ⟨inside, hinside, rfl⟩⟩
    exact (skipBlanks_eq_cons_iff (by decide)).mpr ⟨gap, hgap, by simp⟩

theorem nextMember_close {begun : Bool} {bytes rest : Bytes} :
    nextMember begun bytes = .ok (.close rest) ↔ skipBlanks bytes = 0x7D :: rest := by
  unfold nextMember
  constructor
  · intro h
    split at h
    · simp at h
    · rename_i left hleft
      cases h
      exact hleft
    · split at h
      · simp at h
      · simp at h
      · split at h <;> simp at h
      · simp at h
  · intro h
    rw [h]
    rfl

theorem nextMember_first {bytes rest : Bytes} :
    nextMember false bytes = .ok (.entry rest) ↔ skipBlanks bytes = 0x22 :: rest := by
  unfold nextMember
  constructor
  · intro h
    split at h
    · simp at h
    · simp at h
    · split at h
      · rename_i hleft
        cases h
        exact hleft
      · simp at h
      · contradiction
      · contradiction
  · intro h
    rw [h]
    rfl

theorem nextMember_further {bytes rest : Bytes} :
    nextMember true bytes = .ok (.entry rest) ↔
      ∃ left, skipBlanks bytes = 0x2C :: left ∧ skipBlanks left = 0x22 :: rest := by
  unfold nextMember
  constructor
  · intro h
    split at h
    · simp at h
    · simp at h
    · split at h
      · contradiction
      · contradiction
      · rename_i left _ hcomma
        split at h
        · simp at h
        · rename_i hquote
          cases h
          exact ⟨left, hcomma, hquote⟩
        · simp at h
        · simp at h
      · simp at h
  · rintro ⟨left, hcomma, hquote⟩
    rw [hcomma]
    split <;> simp_all

theorem readKey_eq_ok_iff {absent : List Field} {bytes rest : Bytes}
    {key : { field : Field // field ∈ absent }} :
    readKey absent bytes = .ok (key, rest) ↔
      ∃ left, readText bytes = .ok (key.1.name, left) ∧ skipBlanks left = 0x3A :: rest := by
  unfold readKey
  constructor
  · intro h
    split at h
    · simp at h
    · rename_i name left htext
      split at h
      · simp at h
      · rename_i field hname
        rw [Field.ofName?_eq_some_iff] at hname
        split at h
        · split at h
          · simp at h
          · rename_i hcolon
            cases h
            exact ⟨left, hname ▸ htext, hcolon⟩
          · simp at h
        · simp at h
  · rintro ⟨left, htext, hcolon⟩
    simp only [htext, Field.ofName?_eq_some_iff.mpr rfl, dif_pos key.2, hcolon]

/-- What stands in front of an item: nothing, or a comma behind an item before it. -/
def Lead (begun : Bool) (lead : Bytes) : Prop :=
  if begun then ∃ gap, Blanks gap ∧ lead = gap ++ [0x2C] else lead = []

theorem row_nil_iff {α : Type} {Item : α → Bytes → Prop} {last : UInt8} {begun : Bool}
    {bytes : Bytes} :
    Row Item last begun [] bytes ↔ ∃ gap, Blanks gap ∧ bytes = gap ++ [last] := by
  constructor
  · rintro (⟨hgap⟩ | _ | _)
    exact ⟨_, hgap, rfl⟩
  · rintro ⟨gap, hgap, rfl⟩
    exact .close hgap

theorem row_cons_iff {α : Type} {Item : α → Bytes → Prop} {last : UInt8} {begun : Bool} {x : α}
    {xs : List α} {bytes : Bytes} :
    Row Item last begun (x :: xs) bytes ↔
      ∃ lead item rest, Lead begun lead ∧ Item x item ∧ Row Item last true xs rest ∧
        bytes = lead ++ item ++ rest := by
  constructor
  · intro h
    cases h with
    | first hitem hrest => exact ⟨[], _, _, rfl, hitem, hrest, rfl⟩
    | @further _ _ gap _ _ hgap hitem hrest =>
      exact ⟨gap ++ [0x2C], _, _, ⟨gap, hgap, rfl⟩, hitem, hrest, by simp⟩
  · rintro ⟨lead, item, rest, hlead, hitem, hrest, rfl⟩
    cases begun with
    | false =>
      obtain rfl := hlead
      exact .first hitem hrest
    | true =>
      obtain ⟨gap, hgap, rfl⟩ := hlead
      have hfurther : Row Item last true (x :: xs) (gap ++ 0x2C :: (item ++ rest)) :=
        .further hgap hitem hrest
      simpa using hfurther

theorem nextMember_entry {begun : Bool} {bytes rest : Bytes} :
    nextMember begun bytes = .ok (.entry rest) ↔
      ∃ lead gap, Lead begun lead ∧ Blanks gap ∧ bytes = lead ++ gap ++ 0x22 :: rest := by
  cases begun with
  | false =>
    rw [nextMember_first, skipBlanks_eq_cons_iff (by decide)]
    constructor
    · rintro ⟨gap, hgap, rfl⟩
      exact ⟨[], gap, rfl, hgap, rfl⟩
    · rintro ⟨lead, gap, hlead, hgap, rfl⟩
      obtain rfl := hlead
      exact ⟨gap, hgap, rfl⟩
  | true =>
    rw [nextMember_further]
    constructor
    · rintro ⟨left, hcomma, hquote⟩
      obtain ⟨gap, hgap, rfl⟩ := (skipBlanks_eq_cons_iff (by decide)).mp hcomma
      obtain ⟨inner, hinner, rfl⟩ := (skipBlanks_eq_cons_iff (by decide)).mp hquote
      exact ⟨gap ++ [0x2C], inner, ⟨gap, hgap, rfl⟩, hinner, by simp⟩
    · rintro ⟨lead, inner, hlead, hinner, rfl⟩
      obtain ⟨gap, hgap, rfl⟩ := hlead
      refine ⟨inner ++ 0x22 :: rest, ?_, (skipBlanks_eq_cons_iff (by decide)).mpr ⟨_, hinner, rfl⟩⟩
      exact (skipBlanks_eq_cons_iff (by decide)).mpr ⟨gap, hgap, by simp⟩

/-- A member is read in three steps. -/
theorem member_iff {begun : Bool} {absent : List Field} {key : { field : Field // field ∈ absent }}
    {text : String} {bytes rest : Bytes} :
    (∃ atKey atValue, nextMember begun bytes = .ok (.entry atKey) ∧
        readKey absent atKey = .ok (key, atValue) ∧ readValue atValue = .ok (text, rest)) ↔
      ∃ lead member, Lead begun lead ∧ Member (key.1.name, text) member ∧
        bytes = lead ++ member ++ rest := by
  constructor
  · rintro ⟨atKey, atValue, hentry, hkey, hvalue⟩
    obtain ⟨lead, gap, hlead, hgap, rfl⟩ := nextMember_entry.mp hentry
    obtain ⟨left, htext, hcolon⟩ := readKey_eq_ok_iff.mp hkey
    obtain ⟨inside, hinside, rfl⟩ := readText_eq_ok_iff.mp htext
    obtain ⟨space, hspace, rfl⟩ := (skipBlanks_eq_cons_iff (by decide)).mp hcolon
    obtain ⟨value, hwritten, rfl⟩ := readValue_eq_ok_iff.mp hvalue
    refine ⟨lead, _, hlead, ⟨_, space, value, ⟨gap, _, hgap, ⟨inside, hinside, rfl⟩, rfl⟩, hspace,
      hwritten, rfl⟩, ?_⟩
    simp
  · rintro ⟨lead, member, hlead, ⟨keyBytes, space, value, ⟨gap, quoted, hgap, ⟨inside, hinside, rfl⟩,
      rfl⟩, hspace, hvalue, rfl⟩, rfl⟩
    refine ⟨inside ++ 0x22 :: (space ++ 0x3A :: (value ++ rest)), value ++ rest, ?_, ?_, ?_⟩
    · exact nextMember_entry.mpr ⟨lead, gap, hlead, hgap, by simp⟩
    · refine readKey_eq_ok_iff.mpr ⟨space ++ 0x3A :: (value ++ rest), ?_, ?_⟩
      · exact readText_eq_ok_iff.mpr ⟨inside, hinside, rfl⟩
      · exact (skipBlanks_eq_cons_iff (by decide)).mpr ⟨space, hspace, rfl⟩
    · exact readValue_eq_ok_iff.mpr ⟨value, hvalue, rfl⟩

/-! ## Objects -/

/-- The film has the wanted texts in the absent fields, and the drafted ones in all others. -/
def Completes (draft : Draft) (film : Film) (pairs : List (String × String)) : Prop :=
  (pairs.map (·.1)).Perm (draft.absent.map Field.name) ∧
    (∀ field ∈ draft.absent, (field.name, film.get field) ∈ pairs) ∧
    ∀ field, field ∉ draft.absent → film.get field = draft.film.get field

theorem readMembers_step {draft : Draft} {bytes rest : Bytes} {film : Film} :
    readMembers draft bytes = .ok (film, rest) ↔
      (draft.absent = [] ∧ film = draft.film ∧
        nextMember (draft.absent != Field.all) bytes = .ok (.close rest)) ∨
      ∃ field text after, ∃ hfield : field ∈ draft.absent,
        (∃ atKey atValue, nextMember (draft.absent != Field.all) bytes = .ok (.entry atKey) ∧
          readKey draft.absent atKey = .ok (⟨field, hfield⟩, atValue) ∧
          readValue atValue = .ok (text, after)) ∧
        readMembers { film := draft.film.set field text, absent := draft.absent.erase field } after =
          .ok (film, rest) := by
  rw [readMembers]
  constructor
  · intro h
    split at h
    · simp at h
    · rename_i left hclose
      split at h
      · rename_i habsent
        cases h
        exact .inl ⟨habsent, rfl, hclose⟩
      · simp at h
    · rename_i atKey hentry
      split at h
      · simp at h
      · rename_i field hfield atValue hkey
        split at h
        · simp at h
        · rename_i text after hvalue
          exact .inr ⟨field, text, after, hfield, ⟨atKey, atValue, hentry, hkey, hvalue⟩, h⟩
  · rintro (⟨habsent, rfl, hclose⟩ | ⟨field, text, after, hfield, ⟨atKey, atValue, hentry, hkey,
      hvalue⟩, h⟩)
    · simp only [hclose]
      split
      · rfl
      · rename_i hne
        rw [habsent] at hne
        cases hne
    · simp only [hentry, hkey, hvalue, h]

theorem begun_of_erase {absent : List Field} {field : Field} (hsub : absent.Sublist Field.all)
    (hfield : field ∈ absent) : (absent.erase field != Field.all) = true := by
  rw [bne_iff_ne]
  intro heq
  have herase := List.length_erase_of_mem hfield
  have hle := hsub.length_le
  have hpos := List.length_pos_of_mem hfield
  rw [heq] at herase
  omega

theorem perm_names_cons_iff {absent : List Field} {field : Field} {names : List String}
    (hfield : field ∈ absent) :
    (field.name :: names).Perm (absent.map Field.name) ↔ names.Perm ((absent.erase field).map Field.name) := by
  rw [((List.perm_cons_erase hfield).map Field.name).congr_right, List.map_cons, List.perm_cons]

/-- No later member has the same name, so the text is the one that the film has. -/
theorem Completes.get_eq {draft : Draft} {film : Film} {field : Field} {text : String}
    {pairs : List (String × String)} (h : Completes draft film ((field.name, text) :: pairs))
    (hnodup : draft.absent.Nodup) (hfield : field ∈ draft.absent) : film.get field = text := by
  obtain ⟨hperm, hwanted, -⟩ := h
  have hmem := hwanted field hfield
  rw [List.mem_cons, Prod.mk.injEq] at hmem
  rcases hmem with ⟨-, htext⟩ | hmem
  · exact htext
  · have hname := ((perm_names_cons_iff hfield).mp hperm).mem_iff.mp (List.mem_map_of_mem hmem)
    obtain ⟨other, hother, heq⟩ := List.mem_map.mp hname
    rw [Field.name_inj heq] at hother
    exact absurd hother hnodup.not_mem_erase

theorem completes_cons_iff {draft : Draft} {film : Film} {field : Field} {text : String}
    {pairs : List (String × String)} (hnodup : draft.absent.Nodup) (hfield : field ∈ draft.absent) :
    Completes draft film ((field.name, text) :: pairs) ↔
      Completes { film := draft.film.set field text, absent := draft.absent.erase field } film pairs := by
  have hgone : field ∉ draft.absent.erase field := hnodup.not_mem_erase
  have hrest {other : Field} (hother : other ≠ field) :
      other ∈ draft.absent.erase field ↔ other ∈ draft.absent := List.mem_erase_of_ne hother
  constructor
  · intro h
    have hown := h.get_eq hnodup hfield
    obtain ⟨hperm, hwanted, hkept⟩ := h
    refine ⟨(perm_names_cons_iff hfield).mp hperm, ?_, ?_⟩
    · intro other hother
      have hne : other ≠ field := ne_of_mem_of_not_mem hother hgone
      -- Its text is in a later member, since the first one carries another name.
      have hmem := hwanted other ((hrest hne).mp hother)
      rw [List.mem_cons, Prod.mk.injEq] at hmem
      rcases hmem with ⟨hname, -⟩ | hmem
      · exact absurd (Field.name_inj hname) hne
      · exact hmem
    · intro other hother
      rw [Film.get_set]
      split
      · rename_i heq
        rw [heq, hown]
      · rename_i hne
        exact hkept other fun hmem => hother ((hrest hne).mpr hmem)
  · rintro ⟨hkeys, hwanted, hkept⟩
    refine ⟨(perm_names_cons_iff hfield).mpr hkeys, ?_, ?_⟩
    · intro other hother
      rw [List.mem_cons, Prod.mk.injEq]
      by_cases hne : other = field
      · have hown := hkept field hgone
        rw [Film.get_set, if_pos rfl] at hown
        exact .inl ⟨by rw [hne], by rw [hne, hown]⟩
      · exact .inr (hwanted other ((hrest hne).mpr hother))
    · intro other hother
      have hne : other ≠ field := (ne_of_mem_of_not_mem hfield hother).symm
      have hsame := hkept other fun hmem => hother ((hrest hne).mp hmem)
      rwa [Film.get_set, if_neg hne] at hsame

theorem completes_nil_iff {draft : Draft} {film : Film} :
    Completes draft film [] ↔ draft.absent = [] ∧ film = draft.film := by
  unfold Completes
  constructor
  · rintro ⟨hperm, -, hkept⟩
    have habsent : draft.absent = [] := List.map_eq_nil_iff.mp hperm.symm.eq_nil
    refine ⟨habsent, Film.ext_get fun field => hkept field ?_⟩
    simp [habsent]
  · rintro ⟨habsent, rfl⟩
    simp [habsent]

/-- The members that are still to be read, by induction on the number of absent fields. -/
theorem readMembers_eq_ok_iff {draft : Draft} {bytes rest : Bytes} {film : Film}
    (hsub : draft.absent.Sublist Field.all) :
    readMembers draft bytes = .ok (film, rest) ↔
      ∃ pairs row, Row Member 0x7D (draft.absent != Field.all) pairs row ∧
        Completes draft film pairs ∧ bytes = row ++ rest := by
  induction hn : draft.absent.length using Nat.strong_induction_on generalizing draft bytes with
  | _ n ih =>
  have hnodup := hsub.nodup Field.nodup_all
  have hshort {field : Field} (hfield : field ∈ draft.absent) :
      (draft.absent.erase field).length < n := by
    rw [← hn, List.length_erase_of_mem hfield]
    exact Nat.sub_lt (List.length_pos_of_mem hfield) Nat.one_pos
  rw [readMembers_step]
  constructor
  · rintro (⟨habsent, hfilm, hclose⟩ | ⟨field, text, after, hfield, hmember, hafter⟩)
    · rw [nextMember_close, skipBlanks_eq_cons_iff (by decide)] at hclose
      obtain ⟨gap, hgap, rfl⟩ := hclose
      exact ⟨[], gap ++ [0x7D], .close hgap, completes_nil_iff.mpr ⟨habsent, hfilm⟩, by simp⟩
    · rw [ih _ (hshort hfield) (List.erase_sublist.trans hsub) rfl,
        begun_of_erase hsub hfield] at hafter
      obtain ⟨pairs, row, hrow, hcompletes, rfl⟩ := hafter
      obtain ⟨lead, member, hlead, hwritten, rfl⟩ := member_iff.mp hmember
      exact ⟨_, _, row_cons_iff.mpr ⟨lead, member, row, hlead, hwritten, hrow, rfl⟩,
        (completes_cons_iff hnodup hfield).mpr hcompletes, by simp⟩
  · rintro ⟨pairs, row, hrow, hcompletes, rfl⟩
    cases pairs with
    | nil =>
      obtain ⟨habsent, hfilm⟩ := completes_nil_iff.mp hcompletes
      obtain ⟨gap, hgap, rfl⟩ := row_nil_iff.mp hrow
      refine .inl ⟨habsent, hfilm, ?_⟩
      rw [nextMember_close, skipBlanks_eq_cons_iff (by decide)]
      exact ⟨gap, hgap, by simp⟩
    | cons pair pairs =>
      obtain ⟨name, text⟩ := pair
      obtain ⟨field, hfield, rfl⟩ : ∃ field ∈ draft.absent, field.name = name :=
        List.mem_map.mp (hcompletes.1.mem_iff.mp (by simp))
      obtain ⟨lead, member, after, hlead, hmember, hafter, rfl⟩ := row_cons_iff.mp hrow
      refine .inr ⟨field, text, after ++ rest, hfield, ?_, ?_⟩
      · exact member_iff.mpr ⟨lead, member, hlead, hmember, by simp⟩
      · rw [ih _ (hshort hfield) (List.erase_sublist.trans hsub) rfl,
          begun_of_erase hsub hfield]
        exact ⟨pairs, after, hafter, (completes_cons_iff hnodup hfield).mp hcompletes, rfl⟩

/-! ## Lists -/

theorem closeList_eq_ok_iff {bytes rest : Bytes} :
    closeList bytes = .ok rest ↔ skipBlanks bytes = 0x5D :: rest := by
  unfold closeList
  constructor
  · intro h
    split at h
    · simp at h
    · rename_i left hleft
      cases h
      exact hleft
    · split at h <;> simp at h
    · simp at h
  · intro h
    rw [h]
    rfl

theorem readValue_skipBlanks (bytes : Bytes) : readValue (skipBlanks bytes) = readValue bytes := by
  unfold readValue
  rw [skipBlanks_idempotent]

theorem nextItem_quote {bytes rest : Bytes} (hquote : skipBlanks bytes = 0x22 :: rest) :
    nextItem false bytes = .ok (.entry (0x22 :: rest)) := by
  unfold nextItem
  rw [hquote]
  rfl

theorem nextItem_comma {bytes left rest : Bytes} (hcomma : skipBlanks bytes = 0x2C :: left)
    (hquote : skipBlanks left = 0x22 :: rest) :
    nextItem true bytes = .ok (.entry (0x22 :: rest)) := by
  unfold nextItem
  rw [hcomma]
  split <;> simp_all

theorem nextItem_entry {begun : Bool} {bytes rest : Bytes}
    (h : nextItem begun bytes = .ok (.entry rest)) :
    ∃ lead left, Lead begun lead ∧ bytes = lead ++ left ∧ rest = skipBlanks left := by
  unfold nextItem at h
  split at h
  · simp at h
  · simp at h
  · split at h
    · cases h
      exact ⟨[], bytes, rfl, rfl, rfl⟩
    · rename_i hcomma
      split at h
      · simp at h
      · simp at h
      · cases h
        obtain ⟨gap, hgap, rfl⟩ := (skipBlanks_eq_cons_iff (by decide)).mp hcomma
        refine ⟨gap ++ [0x2C], _, ⟨gap, hgap, rfl⟩, ?_, rfl⟩
        simp
    · simp at h

/-- An item is read in two steps. -/
theorem item_iff {begun : Bool} {text : String} {bytes rest : Bytes} :
    (∃ atItem, nextItem begun bytes = .ok (.entry atItem) ∧ readValue atItem = .ok (text, rest)) ↔
      ∃ lead item, Lead begun lead ∧ Value text item ∧ bytes = lead ++ item ++ rest := by
  constructor
  · rintro ⟨atItem, hentry, hvalue⟩
    obtain ⟨lead, left, hlead, rfl, rfl⟩ := nextItem_entry hentry
    rw [readValue_skipBlanks, readValue_eq_ok_iff] at hvalue
    obtain ⟨item, hitem, rfl⟩ := hvalue
    exact ⟨lead, item, hlead, hitem, by simp⟩
  · rintro ⟨lead, item, hlead, hitem, rfl⟩
    have hread := readValue_eq_ok_iff.mpr ⟨item, hitem, (rfl : item ++ rest = item ++ rest)⟩
    obtain ⟨gap, quoted, hgap, ⟨inside, hinside, rfl⟩, rfl⟩ := hitem
    have hquote : skipBlanks (gap ++ 0x22 :: (inside ++ [0x22]) ++ rest) =
        0x22 :: (inside ++ [0x22] ++ rest) :=
      (skipBlanks_eq_cons_iff (by decide)).mpr ⟨gap, hgap, by simp⟩
    rw [← readValue_skipBlanks, hquote] at hread
    refine ⟨_, ?_, hread⟩
    cases begun with
    | false =>
      obtain rfl := hlead
      exact nextItem_quote hquote
    | true =>
      obtain ⟨comma, hcomma, rfl⟩ := hlead
      refine nextItem_comma ((skipBlanks_eq_cons_iff (by decide)).mpr ⟨comma, hcomma, ?_⟩) hquote
      simp

theorem readItems_step {count : Nat} {film final : Film} {field : Field} {fields : List Field}
    {bytes rest : Bytes} :
    readItems count film (field :: fields) bytes = .ok (final, rest) ↔
      ∃ text after,
        (∃ atItem, nextItem (count != 0) bytes = .ok (.entry atItem) ∧
          readValue atItem = .ok (text, after)) ∧
        readItems (count + 1) (film.set field text) fields after = .ok (final, rest) := by
  rw [readItems]
  constructor
  · intro h
    split at h
    · simp at h
    · simp at h
    · rename_i atItem hentry
      split at h
      · simp at h
      · rename_i text after hvalue
        exact ⟨text, after, ⟨atItem, hentry, hvalue⟩, h⟩
  · rintro ⟨text, after, ⟨atItem, hentry, hvalue⟩, h⟩
    simp only [hentry, hvalue, h]

/-- The items that are still to be read, by induction on their fields. -/
theorem readItems_eq_ok_iff {count : Nat} {film final : Film} {fields : List Field}
    {bytes rest : Bytes} (hnodup : fields.Nodup) :
    readItems count film fields bytes = .ok (final, rest) ↔
      ∃ row, Row Value 0x5D (count != 0) (fields.map final.get) row ∧
        (∀ field, field ∉ fields → final.get field = film.get field) ∧ bytes = row ++ rest := by
  induction fields generalizing count film bytes with
  | nil =>
    have hclose : readItems count film [] bytes = .ok (final, rest) ↔
        film = final ∧ skipBlanks bytes = 0x5D :: rest := by
      rw [readItems, ← closeList_eq_ok_iff]
      cases closeList bytes <;> simp [Except.map]
    rw [hclose, skipBlanks_eq_cons_iff (by decide)]
    constructor
    · rintro ⟨rfl, gap, hgap, rfl⟩
      exact ⟨gap ++ [0x5D], .close hgap, fun _ _ => rfl, by simp⟩
    · rintro ⟨row, hrow, hkept, rfl⟩
      obtain ⟨gap, hgap, rfl⟩ := row_nil_iff.mp hrow
      exact ⟨Film.ext_get fun field => (hkept field (by simp)).symm, gap, hgap, by simp⟩
  | cons field fields ih =>
    obtain ⟨hfield, hrest⟩ := List.nodup_cons.mp hnodup
    rw [readItems_step]
    constructor
    · rintro ⟨text, after, hitem, hafter⟩
      obtain ⟨row, hrow, hkept, rfl⟩ := (ih hrest).mp hafter
      obtain ⟨lead, item, hlead, hwritten, rfl⟩ := item_iff.mp hitem
      have hown := hkept field hfield
      rw [Film.get_set, if_pos rfl] at hown
      refine ⟨_, row_cons_iff.mpr ⟨lead, item, row, hlead, hown ▸ hwritten, hrow, rfl⟩, ?_, by simp⟩
      intro other hother
      rw [List.mem_cons, not_or] at hother
      rw [hkept other hother.2, Film.get_set, if_neg hother.1]
    · rintro ⟨row, hrow, hkept, rfl⟩
      obtain ⟨lead, item, after, hlead, hitem, hafter, rfl⟩ := row_cons_iff.mp hrow
      refine ⟨final.get field, after ++ rest, item_iff.mpr ⟨lead, item, hlead, hitem, by simp⟩, ?_⟩
      refine (ih hrest).mpr ⟨after, hafter, ?_, rfl⟩
      intro other hother
      rw [Film.get_set]
      split
      · rename_i heq
        rw [heq]
      · rename_i hne
        exact hkept other (by simp [hne, hother])

/-! ## Whole bodies -/

theorem readFilm_eq_ok_iff {bytes rest : Bytes} {film : Film} :
    readFilm bytes = .ok (film, rest) ↔
      (∃ left, bytes = 0x7B :: left ∧ readMembers {} left = .ok (film, rest)) ∨
        ∃ left, bytes = 0x5B :: left ∧ readItems 0 {} Field.all left = .ok (film, rest) := by
  unfold readFilm
  constructor
  · intro h
    split at h
    · simp at h
    · exact .inl ⟨_, rfl, h⟩
    · exact .inr ⟨_, rfl, h⟩
    · simp at h
  · rintro (⟨left, rfl, h⟩ | ⟨left, rfl, h⟩)
    · exact h
    · exact h

theorem readBody_eq_ok_iff {body : Bytes} {film : Film} :
    readBody body = .ok film ↔
      ∃ rest, readFilm (skipBlanks body) = .ok (film, rest) ∧ Blanks rest := by
  unfold readBody
  constructor
  · intro h
    split at h
    · simp at h
    · rename_i found rest hfilm
      split at h
      · rename_i hrest
        cases h
        exact ⟨rest, hfilm, skipBlanks_eq_nil_iff.mp hrest⟩
      · simp at h
  · rintro ⟨rest, hfilm, hrest⟩
    simp only [hfilm, skipBlanks_eq_nil_iff.mpr hrest]

theorem filmObject_iff {body : Bytes} {film : Film} :
    FilmObject film body ↔
      ∃ left rest, skipBlanks body = 0x7B :: left ∧ readMembers {} left = .ok (film, rest) ∧
        Blanks rest := by
  have hsub : ({} : Draft).absent.Sublist Field.all := .refl _
  constructor
  · rintro ⟨pairs, ⟨before, written, after, hbefore, ⟨row, hrow, rfl⟩, hafter, rfl⟩, hperm, htexts⟩
    refine ⟨row ++ after, after, ?_, ?_, hafter⟩
    · exact (skipBlanks_eq_cons_iff (by decide)).mpr ⟨before, hbefore, by simp⟩
    · rw [readMembers_eq_ok_iff hsub]
      refine ⟨pairs, row, hrow, ⟨hperm, fun field _ => htexts field, ?_⟩, rfl⟩
      intro field hfield
      exact absurd (Field.mem_all field) hfield
  · rintro ⟨left, rest, hleft, hread, hrest⟩
    obtain ⟨before, hbefore, rfl⟩ := (skipBlanks_eq_cons_iff (by decide)).mp hleft
    obtain ⟨pairs, row, hrow, ⟨hperm, htexts, -⟩, rfl⟩ := (readMembers_eq_ok_iff hsub).mp hread
    refine ⟨pairs, ⟨before, 0x7B :: row, rest, hbefore, ⟨row, hrow, rfl⟩, hrest, by simp⟩, hperm, ?_⟩
    exact fun field => htexts field (Field.mem_all field)

theorem filmList_iff {body : Bytes} {film : Film} :
    FilmList film body ↔
      ∃ left rest, skipBlanks body = 0x5B :: left ∧
        readItems 0 {} Field.all left = .ok (film, rest) ∧ Blanks rest := by
  constructor
  · rintro ⟨before, written, after, hbefore, ⟨row, hrow, rfl⟩, hafter, rfl⟩
    refine ⟨row ++ after, after, ?_, ?_, hafter⟩
    · exact (skipBlanks_eq_cons_iff (by decide)).mpr ⟨before, hbefore, by simp⟩
    · rw [readItems_eq_ok_iff Field.nodup_all]
      refine ⟨row, hrow, ?_, rfl⟩
      intro field hfield
      exact absurd (Field.mem_all field) hfield
  · rintro ⟨left, rest, hleft, hread, hrest⟩
    obtain ⟨before, hbefore, rfl⟩ := (skipBlanks_eq_cons_iff (by decide)).mp hleft
    obtain ⟨row, hrow, -, rfl⟩ := (readItems_eq_ok_iff Field.nodup_all).mp hread
    exact ⟨before, 0x5B :: row, rest, hbefore, ⟨row, hrow, rfl⟩, hrest, by simp⟩

/-- A body is read exactly when it is an object with the six fields or a list of the six texts. -/
theorem readBody_iff {body : Bytes} {film : Film} :
    readBody body = .ok film ↔ FilmObject film body ∨ FilmList film body := by
  rw [readBody_eq_ok_iff, filmObject_iff, filmList_iff]
  constructor
  · rintro ⟨rest, hread, hrest⟩
    obtain ⟨left, hleft, hmembers⟩ | ⟨left, hleft, hitems⟩ := readFilm_eq_ok_iff.mp hread
    · exact .inl ⟨left, rest, hleft, hmembers, hrest⟩
    · exact .inr ⟨left, rest, hleft, hitems, hrest⟩
  · rintro (⟨left, rest, hleft, hmembers, hrest⟩ | ⟨left, rest, hleft, hitems, hrest⟩)
    · exact ⟨rest, readFilm_eq_ok_iff.mpr (.inl ⟨left, hleft, hmembers⟩), hrest⟩
    · exact ⟨rest, readFilm_eq_ok_iff.mpr (.inr ⟨left, hleft, hitems⟩), hrest⟩

end FilmCatalog.Reading
