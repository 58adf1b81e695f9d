import FilmCatalog.Proofs.Bodies
import FilmCatalog.Proofs.Magnitudes

/-!
# Texts and the data they say

The reader takes exactly the texts of the grammar. Soundness is by induction on the depth that is left,
and completeness too, since the parts of a text are shorter than the text.
-/

namespace FilmCatalog.Datum

open Grammar
open Reading

variable {α : Type} {datum : Datum} {bytes rest written : Bytes} {last : UInt8} {begun : Bool}

/-! ## What values begin with, and what ends them -/

def Closes (b : UInt8) : Prop := b = 0x5D ∨ b = 0x7D

/-- Behind some blanks stands neither the end nor a closing bracket. -/
def Opens (bytes : Bytes) : Prop :=
  ∃ gap b more, Blanks gap ∧ ¬ isBlankByte b ∧ ¬ Closes b ∧ bytes = gap ++ b :: more

theorem Closes.not_blank (h : Closes last) : ¬ isBlankByte last := by
  rcases h with rfl | rfl <;> decide

theorem Opens.head?_ne (h : Opens written) (hlast : Closes last) (rest : Bytes) :
    (skipBlanks (written ++ rest)).head? ≠ some last := by
  obtain ⟨gap, b, more, hgap, hblank, hcloses, rfl⟩ := h
  have hfront : skipBlanks (gap ++ b :: more ++ rest) = b :: (more ++ rest) :=
    (skipBlanks_eq_cons_iff hblank).mpr ⟨gap, hgap, by simp⟩
  rw [hfront]
  intro hb
  cases hb
  exact hcloses hlast

theorem Opens.length_pos (h : Opens written) : 0 < written.length := by
  obtain ⟨gap, b, more, -, -, -, rfl⟩ := h
  rw [List.length_append, List.length_cons]
  omega

theorem stops_cons {b : UInt8} (hdigit : ¬ isDigitByte b) (hpoint : b ≠ 0x2E) (hpower : b ≠ 0x65 ∧ b ≠ 0x45)
    (rest : Bytes) : Stops (b :: rest) := by
  refine ⟨?_, by simpa using hpoint, by simpa using hpower⟩
  intro other hother
  cases hother
  exact hdigit

theorem stops_blanks {gap : Bytes} (hgap : Blanks gap) (h : Stops rest) : Stops (gap ++ rest) := by
  cases gap with
  | nil => exact h
  | cons b gap =>
    rcases hgap b List.mem_cons_self with rfl | rfl | rfl | rfl <;>
      exact stops_cons (by decide) (by decide) (by decide) _

theorem stops_row {Item : α → Bytes → Prop} {xs : List α} (hlast : Closes last)
    (h : Row Item last true xs written) (rest : Bytes) : Stops (written ++ rest) := by
  cases h with
  | @close _ gap hgap =>
    rw [List.append_assoc]
    apply stops_blanks hgap
    rcases hlast with rfl | rfl <;> exact stops_cons (by decide) (by decide) (by decide) _
  | further hgap =>
    rw [List.append_assoc]
    apply stops_blanks hgap
    exact stops_cons (by decide) (by decide) (by decide) _

theorem digit_front {b : UInt8} (h : isDigitByte b) : ¬ isBlankByte b ∧ ¬ Closes b := by
  constructor
  · intro hblank
    rcases isBlankByte_iff.mp hblank with rfl | rfl | rfl | rfl <;> cases h
  · rintro (rfl | rfl) <;> cases h

theorem opens_lead {lead item : Bytes} (hlead : Lead begun lead) (h : Opens item) :
    Opens (lead ++ item) := by
  cases begun with
  | false =>
    obtain rfl := hlead
    exact h
  | true =>
    obtain ⟨gap, hgap, rfl⟩ := hlead
    exact ⟨gap, 0x2C, item, hgap, by decide, nofun, by simp⟩

/-! ## Rows -/

theorem entry?_eq_some_iff :
    entry? begun bytes = some rest ↔ ∃ lead, Lead begun lead ∧ bytes = lead ++ rest := by
  unfold entry? Lead
  cases begun with
  | false => simp
  | true =>
    simp only [if_true]
    constructor
    · intro h
      split at h
      · rename_i hcomma
        cases h
        obtain ⟨gap, hgap, rfl⟩ := (skipBlanks_eq_cons_iff (by decide)).mp hcomma
        exact ⟨_, ⟨gap, hgap, rfl⟩, by simp⟩
      · cases h
    · rintro ⟨lead, ⟨gap, hgap, rfl⟩, rfl⟩
      have hcomma : skipBlanks (gap ++ [0x2C] ++ rest) = 0x2C :: rest :=
        (skipBlanks_eq_cons_iff (by decide)).mpr ⟨gap, hgap, by simp⟩
      simp only [hcomma]

/-- Whatever a reader takes is an item. -/
def Sound (read : Bytes → Option (α × Bytes)) (Item : α → Bytes → Prop) : Prop :=
  ∀ {bytes x rest}, read bytes = some (x, rest) → ∃ written, Item x written ∧ bytes = written ++ rest

/-- A reader takes each item that is not too long. -/
def Complete (limit : Nat) (read : Bytes → Option (α × Bytes)) (Item : α → Bytes → Prop) : Prop :=
  ∀ {x written rest}, Item x written → written.length ≤ limit → Stops rest →
    read (written ++ rest) = some (x, rest)

variable {read : Bytes → Option (α × Bytes)} {Item : α → Bytes → Prop} {limit count : Nat} {xs : List α}

theorem row_of_read (hread : Sound read Item) (hlast : Closes last)
    (h : readRow read last count begun bytes = some (xs, rest)) :
    ∃ written, Row Item last begun xs written ∧ bytes = written ++ rest := by
  induction count generalizing begun bytes xs with
  | zero => cases h
  | succ count ih =>
    unfold readRow at h
    split at h
    · rename_i hclosed
      cases h
      obtain ⟨after, hafter⟩ := List.head?_eq_some_iff.mp hclosed
      obtain ⟨gap, hgap, rfl⟩ := (skipBlanks_eq_cons_iff hlast.not_blank).mp hafter
      exact ⟨gap ++ [last], .close hgap, by simp [hafter]⟩
    · simp only [Option.bind_eq_bind, Option.bind_eq_some_iff, Option.pure_def, Prod.exists] at h
      obtain ⟨start, hstart, x, afterItem, hreadItem, others, after, hothers, hall⟩ := h
      cases hall
      obtain ⟨lead, hlead, rfl⟩ := entry?_eq_some_iff.mp hstart
      obtain ⟨item, hitem, rfl⟩ := hread hreadItem
      obtain ⟨row, hrow, rfl⟩ := ih hothers
      exact ⟨lead ++ item ++ row, row_cons_iff.mpr ⟨lead, item, row, hlead, hitem, hrow, rfl⟩, by simp⟩

theorem readRow_append (hread : Complete limit read Item)
    (hopens : ∀ {x written}, Item x written → Opens written) (hlast : Closes last)
    (hrow : Row Item last begun xs written) (hlimit : written.length ≤ limit)
    (hcount : written.length ≤ count) :
    readRow read last count begun (written ++ rest) = some (xs, rest) := by
  induction xs generalizing count begun written with
  | nil =>
    obtain ⟨gap, hgap, rfl⟩ := row_nil_iff.mp hrow
    have hclosed : skipBlanks (gap ++ [last] ++ rest) = last :: rest :=
      (skipBlanks_eq_cons_iff hlast.not_blank).mpr ⟨gap, hgap, by simp⟩
    cases count with
    | zero => simp at hcount
    | succ count =>
      unfold readRow
      rw [hclosed, if_pos (List.head?_cons)]
      rfl
  | cons x xs ih =>
    obtain ⟨lead, item, row, hlead, hitem, hrest, rfl⟩ := row_cons_iff.mp hrow
    -- The rest of the row is shorter, so the count that is left is enough for it.
    have hpos := (hopens hitem).length_pos
    simp only [List.length_append] at hlimit hcount
    have hgoes : (skipBlanks (lead ++ item ++ row ++ rest)).head? ≠ some last := by
      rw [List.append_assoc]
      exact (opens_lead hlead (hopens hitem)).head?_ne hlast _
    have hstart : entry? begun (lead ++ item ++ row ++ rest) = some (item ++ (row ++ rest)) :=
      entry?_eq_some_iff.mpr ⟨lead, hlead, by simp⟩
    cases count with
    | zero => omega
    | succ count =>
      have hreadItem := hread hitem (by omega) (stops_row hlast hrest rest)
      have hothers : readRow read last count true (row ++ rest) = some (xs, rest) :=
        ih hrest (by omega) (by omega)
      unfold readRow
      rw [if_neg hgoes]
      simp only [hstart, hreadItem, hothers, Option.bind_eq_bind, Option.bind_some, Option.pure_def]

/-! ## Items -/

theorem spaced_of_read {read : Bytes → Option (Datum × Bytes)} (hread : Sound read Spells) :
    Sound (readSpaced read) Spaced := by
  intro bytes datum rest h
  obtain ⟨gap, hgap, hbytes⟩ := exists_gap bytes
  obtain ⟨written, hwritten, hrest⟩ := hread h
  refine ⟨gap ++ written, .mk hgap hwritten, ?_⟩
  rw [List.append_assoc, ← hrest]
  exact hbytes

theorem keyed_of_read {read : Bytes → Option (Datum × Bytes)} (hread : Sound read Spells) :
    Sound (readKeyed read) Keyed := by
  intro bytes pair rest h
  unfold readKeyed at h
  split at h
  · cases h
  · rename_i name afterKey hkey
    split at h
    · rename_i afterColon hcolon
      obtain ⟨⟨datum, after⟩, hdatum, hpair⟩ := Option.map_eq_some_iff.mp h
      cases hpair
      obtain ⟨key, hvalue, rfl⟩ := readValue_eq_ok_iff.mp hkey
      obtain ⟨gap, hgap, rfl⟩ := (skipBlanks_eq_cons_iff (by decide)).mp hcolon
      obtain ⟨written, hwritten, rfl⟩ := spaced_of_read hread hdatum
      exact ⟨_, .mk hvalue hgap hwritten, by simp⟩
    · cases h

theorem mem_words {word : Bytes × Datum} (h : word ∈ words) :
    word = (Utf8.encode "null", .null) ∨ word = (Utf8.encode "true", .boolean true) ∨
      word = (Utf8.encode "false", .boolean false) := by
  simpa only [words, List.mem_cons, List.not_mem_nil, or_false] using h

theorem spells_front (h : Spells datum written) :
    ∃ b more, written = b :: more ∧ ¬ isBlankByte b ∧ ¬ Closes b := by
  cases h with
  | word hword =>
    rcases mem_words hword with h | h | h <;> cases h <;> exact ⟨_, _, rfl, by decide, nofun⟩
  | number h =>
    obtain ⟨b, more, rfl, rfl | hdigit⟩ := number_head h
    · exact ⟨_, _, rfl, by decide, nofun⟩
    · exact ⟨b, more, rfl, digit_front hdigit⟩
  | text h =>
    obtain ⟨inside, -, rfl⟩ := h
    exact ⟨_, _, rfl, by decide, nofun⟩
  | list => exact ⟨_, _, rfl, by decide, nofun⟩
  | object => exact ⟨_, _, rfl, by decide, nofun⟩

theorem skipBlanks_spells {gap : Bytes} (hgap : Blanks gap) (h : Spells datum written) (rest : Bytes) :
    skipBlanks (gap ++ written ++ rest) = written ++ rest := by
  obtain ⟨b, more, rfl, hblank, -⟩ := spells_front h
  exact (skipBlanks_eq_cons_iff hblank).mpr ⟨gap, hgap, List.append_assoc _ _ _⟩

theorem opens_spaced (h : Spaced datum written) : Opens written := by
  obtain ⟨hgap, hspells⟩ := h
  obtain ⟨b, more, rfl, hblank, hcloses⟩ := spells_front hspells
  exact ⟨_, b, more, hgap, hblank, hcloses, rfl⟩

theorem opens_keyed {pair : String × Datum} (h : Keyed pair written) : Opens written := by
  cases h with
  | @mk name datum key gap bytes hkey =>
    obtain ⟨front, text, hfront, ⟨inside, -, rfl⟩, rfl⟩ := hkey
    exact ⟨front, 0x22, inside ++ [0x22] ++ (gap ++ 0x3A :: bytes), hfront, by decide, nofun, by simp⟩

theorem readSpaced_append {read : Bytes → Option (Datum × Bytes)} (hread : Complete limit read Spells) :
    Complete limit (readSpaced read) Spaced := by
  intro datum written rest h hlimit hrest
  cases h with
  | @mk _ gap bytes hgap hspells =>
    rw [List.length_append] at hlimit
    unfold readSpaced
    rw [skipBlanks_spells hgap hspells]
    exact hread hspells (by omega) hrest

theorem readKeyed_append {read : Bytes → Option (Datum × Bytes)} (hread : Complete limit read Spells) :
    Complete limit (readKeyed read) Keyed := by
  intro pair written rest h hlimit hrest
  cases h with
  | @mk name datum key gap bytes hkey hgap hspaced =>
    have hreadKey : readValue (key ++ (gap ++ 0x3A :: bytes) ++ rest) =
        .ok (name, gap ++ 0x3A :: (bytes ++ rest)) :=
      readValue_eq_ok_iff.mpr ⟨key, hkey, by simp⟩
    have hcolon : skipBlanks (gap ++ 0x3A :: (bytes ++ rest)) = 0x3A :: (bytes ++ rest) :=
      (skipBlanks_eq_cons_iff (by decide)).mpr ⟨gap, hgap, rfl⟩
    simp only [List.length_append, List.length_cons] at hlimit
    unfold readKeyed
    simp only [hreadKey, hcolon, readSpaced_append hread hspaced (by omega) hrest]
    rfl

/-! ## Values -/

theorem word_of_read (h : readWord bytes = some (datum, rest)) :
    ∃ written, Spells datum written ∧ bytes = written ++ rest := by
  obtain ⟨⟨word, value⟩, hfound, hdatum⟩ := Option.map_eq_some_iff.mp h
  cases hdatum
  have hword := List.find?_some hfound
  obtain ⟨after, rfl⟩ := List.isPrefixOf_iff_prefix.mp hword
  exact ⟨word, .word (List.mem_of_find?_eq_some hfound), by simp⟩

theorem ok_of_toOption {ε : Type} {result : Except ε α} {x : α} (h : result.toOption = some x) :
    result = .ok x := by
  cases result with
  | error => cases h
  | ok => exact congrArg Except.ok (Option.some.inj h)

/-- A number begins unlike all other values. -/
theorem readNested_number {depth : Nat} {b : UInt8} (hb : b = 0x2D ∨ isDigitByte b) :
    readNested (depth + 1) (b :: rest) = readNumber (b :: rest) := by
  have hne {other : UInt8} (hother : ¬ (other = 0x2D ∨ isDigitByte other)) : b ≠ other := by
    rintro rfl
    exact hother hb
  have hprefix {other : UInt8} (hother : ¬ (other = 0x2D ∨ isDigitByte other)) (more : Bytes) :
      ¬ (other :: more).isPrefixOf (b :: rest) := by
    intro h
    rw [List.isPrefixOf_cons_cons, Bool.and_eq_true, beq_iff_eq] at h
    exact hne hother h.1.symm
  have hword : readWord (b :: rest) = none := by
    unfold readWord
    rw [Option.map_eq_none_iff, List.find?_eq_none]
    intro word hword
    rcases mem_words hword with rfl | rfl | rfl <;> exact hprefix (by decide) _
  rw [readNested, if_neg (hne (by decide)), if_neg (hne (by decide)), if_neg (hne (by decide)), hword,
    Option.none_or]

theorem spells_of_read (depth : Nat) : Sound (readNested depth) Spells := by
  induction depth with
  | zero => nofun
  | succ depth ih =>
    intro bytes datum rest h
    cases bytes with
    | nil => cases h
    | cons b bytes =>
      unfold readNested at h
      split_ifs at h with hquote hbracket hbrace
      · obtain ⟨⟨s, after⟩, htext, hdatum⟩ := Option.map_eq_some_iff.mp h
        cases hdatum
        obtain ⟨inside, hinside, rfl⟩ := readText_eq_ok_iff.mp (ok_of_toOption htext)
        exact ⟨_, .text ⟨inside, hinside, rfl⟩, by simp [hquote]⟩
      · obtain ⟨⟨items, after⟩, hitems, hdatum⟩ := Option.map_eq_some_iff.mp h
        cases hdatum
        obtain ⟨row, hrow, rfl⟩ := row_of_read (spaced_of_read ih) (.inl rfl) hitems
        exact ⟨_, .list hrow, by simp [hbracket]⟩
      · obtain ⟨⟨members, after⟩, hmembers, hdatum⟩ := Option.map_eq_some_iff.mp h
        cases hdatum
        obtain ⟨row, hrow, rfl⟩ := row_of_read (keyed_of_read ih) (.inr rfl) hmembers
        exact ⟨_, .object hrow, by simp [hbrace]⟩
      · rcases Option.or_eq_some_iff.mp h with hword | ⟨-, hnumber⟩
        · exact word_of_read hword
        · exact number_of_read hnumber

theorem readNested_append (depth : Nat) : Complete depth (readNested depth) Spells := by
  induction depth with
  | zero =>
    intro datum written rest h hlimit
    obtain ⟨b, more, rfl, -⟩ := spells_front h
    cases hlimit
  | succ depth ih =>
    intro datum written rest h hlimit hrest
    cases h with
    | word hword =>
      rcases mem_words hword with h | h | h <;> cases h <;> rfl
    | number h =>
      have hread := readNumber_append h hrest
      obtain ⟨b, more, rfl, hb⟩ := number_head h
      rw [List.cons_append, readNested_number hb]
      exact hread
    | text h =>
      obtain ⟨inside, hinside, rfl⟩ := h
      have htext : readText (inside ++ [0x22] ++ rest) = .ok (_, rest) :=
        readText_eq_ok_iff.mpr ⟨inside, hinside, by simp⟩
      rw [List.cons_append, readNested, if_pos rfl, htext]
      rfl
    | @list items row hrow =>
      -- Without its bracket the text is short enough for the depth inside.
      simp only [List.length_cons, Nat.add_le_add_iff_right] at hlimit
      have hitems : readRow (readSpaced (readNested depth)) 0x5D (row ++ rest).length false (row ++ rest) =
          some (items, rest) :=
        readRow_append (readSpaced_append ih) opens_spaced (.inl rfl) hrow hlimit (by simp)
      rw [List.cons_append, readNested, if_neg (by decide), if_pos rfl, hitems]
      rfl
    | @object members row hrow =>
      simp only [List.length_cons, Nat.add_le_add_iff_right] at hlimit
      have hmembers : readRow (readKeyed (readNested depth)) 0x7D (row ++ rest).length false (row ++ rest) =
          some (members, rest) :=
        readRow_append (readKeyed_append ih) opens_keyed (.inr rfl) hrow hlimit (by simp)
      rw [List.cons_append, readNested, if_neg (by decide), if_neg (by decide), if_pos rfl, hmembers]
      rfl

/-- The reader says what a text says, and says nothing of anything that is no text of the grammar. -/
theorem read_eq_some_iff : Datum.read bytes = some datum ↔ Document datum bytes := by
  unfold Datum.read
  constructor
  · intro h
    split at h
    · rename_i rest hread
      split_ifs at h with hrest
      cases h
      obtain ⟨gap, hgap, hbytes⟩ := exists_gap bytes
      obtain ⟨written, hwritten, hskipped⟩ := spells_of_read _ hread
      refine ⟨gap, written, rest, hgap, hwritten, skipBlanks_eq_nil_iff.mp hrest, ?_⟩
      rw [List.append_assoc, ← hskipped]
      exact hbytes
    · cases h
  · rintro ⟨before, written, after, hbefore, hwritten, hafter, rfl⟩
    have hstops : Stops after := by
      simpa using stops_blanks hafter stops_nil
    have hread : readNested (before ++ written ++ after).length (written ++ after) = some (datum, after) :=
      readNested_append _ hwritten (by simp only [List.length_append]; omega) hstops
    rw [skipBlanks_spells hbefore hwritten, hread]
    simp only [if_pos (skipBlanks_eq_nil_iff.mpr hafter)]

example : Datum.read (Utf8.encode " [-1.50e2, [], null ] ") =
    some (.list [.number (-150) 0, .list [], .null]) := rfl

end FilmCatalog.Datum
