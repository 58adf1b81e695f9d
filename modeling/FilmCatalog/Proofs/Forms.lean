import FilmCatalog.Proofs.Characters
import FilmCatalog.Proofs.Cuts
import FilmCatalog.Text.Form.Grammar

/-!
# Films in forms

A form carries a film as well as its bytes alone do, however they are escaped.
-/

namespace FilmCatalog

namespace Form

/-! ## Escaped bytes -/

theorem byte?_eq_some_iff {high low b : UInt8} :
    Percent.byte? high low = some b ↔ HexPair high low b := by
  unfold Percent.byte? HexPair
  constructor
  · intro h
    split at h
    · rename_i x y hx hy
      have hxs := Ascii.hexValue?_lt hx
      have hys := Ascii.hexValue?_lt hy
      cases h
      exact ⟨x, y, hx, hy, UInt8.toNat_ofNat_of_lt' (show _ < 256 by omega)⟩
    · cases h
  · rintro ⟨x, y, hx, hy, hb⟩
    rw [hx, hy]
    exact congrArg some (Utf8.ofNat_eq hb.symm)

/-- A `+` is read as a blank. -/
def spaced (b : UInt8) : UInt8 := if b = 0x2B then 0x20 else b

theorem unescape_eq (written : Bytes) : unescape written = Percent.unescape (written.map spaced) := rfl

theorem spaced_of_ne {b : UInt8} (h : b ≠ 0x2B) : spaced b = b := if_neg h

/-- Neither a `+` nor a blank is a digit. -/
theorem hexValue?_spaced (b : UInt8) : Ascii.hexValue? (spaced b) = Ascii.hexValue? b := by
  unfold spaced
  split
  · rename_i hplus
    rw [hplus]
    decide
  · rfl

theorem byte?_spaced (high low : UInt8) :
    Percent.byte? (spaced high) (spaced low) = Percent.byte? high low := by
  unfold Percent.byte?
  rw [hexValue?_spaced, hexValue?_spaced]

theorem unescape_spelling {b : UInt8} {first : Bytes} (h : Spelling b first) (rest : Bytes) :
    unescape (first ++ rest) = b :: unescape rest := by
  rw [unescape_eq, List.map_append]
  cases h with
  | plain hpercent hplus =>
    rw [List.map_singleton, spaced_of_ne hplus]
    exact Percent.unescape_cons hpercent _
  | blank => exact Percent.unescape_cons (by decide) _
  | @escaped high low _ hpair =>
    refine Percent.unescape_escaped ?_ _
    rw [byte?_spaced, byte?_eq_some_iff]
    exact hpair

theorem unescape_of_standsFor {written bytes : Bytes} (h : StandsFor written bytes) :
    unescape written = bytes := by
  induction h with
  | nil => rfl
  | cons hfirst _ ih => rw [unescape_spelling hfirst, ih]
  | @percent rest _ halone _ ih =>
    rw [← ih, unescape_eq, unescape_eq, List.map_cons]
    refine Percent.unescape_alone fun high low more hrest => ?_
    -- A `+` is a blank by now, and neither of the two is a digit.
    obtain ⟨x, tail, rfl, rfl, htail⟩ := List.map_eq_cons_iff.mp hrest
    obtain ⟨y, more, rfl, rfl, rfl⟩ := List.map_eq_cons_iff.mp htail
    rw [byte?_spaced, Option.eq_none_iff_forall_ne_some]
    exact fun b hb => halone x y b more rfl (byte?_eq_some_iff.mp hb)

theorem exists_standsFor (written : Bytes) : ∃ bytes, StandsFor written bytes := by
  -- On the length, since an escape takes three bytes at once.
  induction hn : written.length using Nat.strong_induction_on generalizing written with
  | _ n ih =>
  cases written with
  | nil => exact ⟨[], .nil⟩
  | cons b rest =>
    rw [List.length_cons] at hn
    obtain ⟨bytes, hrest⟩ := ih rest.length (by omega) rest rfl
    by_cases hpercent : b = 0x25
    · subst hpercent
      by_cases hpair : ∃ high low c more, rest = high :: low :: more ∧ HexPair high low c
      · obtain ⟨high, low, c, more, rfl, hpair⟩ := hpair
        obtain ⟨tail, hmore⟩ := ih more.length (by simp at hn; omega) more rfl
        exact ⟨c :: tail, .cons (.escaped hpair) hmore⟩
      · refine ⟨0x25 :: bytes, .percent ?_ hrest⟩
        exact fun high low c more heq h => hpair ⟨high, low, c, more, heq, h⟩
    · by_cases hplus : b = 0x2B
      · subst hplus
        exact ⟨0x20 :: bytes, .cons .blank hrest⟩
      · exact ⟨b :: bytes, .cons (.plain hpercent hplus) hrest⟩

/-- Each byte string stands for the bytes that it is unescaped to, and for no others. -/
theorem standsFor_iff {written bytes : Bytes} : StandsFor written bytes ↔ unescape written = bytes := by
  constructor
  · exact unescape_of_standsFor
  · rintro rfl
    obtain ⟨bytes, h⟩ := exists_standsFor written
    rwa [unescape_of_standsFor h]

theorem Encodes.standsFor {bytes written : Bytes} (h : Encodes bytes written) :
    StandsFor written bytes := by
  induction h with
  | nil => exact .nil
  | cons hfirst _ _ ih => exact .cons hfirst ih

theorem Encodes.append {bytes written more further : Bytes} (h : Encodes bytes written)
    (hmore : Encodes more further) : Encodes (bytes ++ more) (written ++ further) := by
  induction h with
  | nil => exact hmore
  | cons hfirst hand _ ih =>
    rw [List.append_assoc]
    exact .cons hfirst hand ih

variable {b high low : UInt8} {bytes rest : Bytes}

theorem Encodes.plain (hpercent : b ≠ 0x25) (hplus : b ≠ 0x2B) (hand : b ≠ 0x26)
    (hrest : Encodes bytes rest) : Encodes (b :: bytes) (b :: rest) :=
  .cons (.plain hpercent hplus) (by simpa using Ne.symm hand) hrest

theorem Encodes.blank (hrest : Encodes bytes rest) : Encodes (0x20 :: bytes) (0x2B :: rest) :=
  .cons .blank (by decide) hrest

/-- A `&` is no digit. -/
theorem Encodes.escaped (hpair : HexPair high low b) (hrest : Encodes bytes rest) :
    Encodes (b :: bytes) (0x25 :: high :: low :: rest) := by
  refine .cons (.escaped hpair) ?_ hrest
  obtain ⟨h, l, hh, hl, -⟩ := hpair
  simp only [List.mem_cons, List.not_mem_nil, or_false, not_or]
  refine ⟨by decide, ?_, ?_⟩
  · rintro rfl
    cases hh
  · rintro rfl
    cases hl

/-- Bytes without a meaning of their own may stand as they are. -/
theorem encodes_plain (h : ∀ b ∈ bytes, b ≠ 0x25 ∧ b ≠ 0x2B ∧ b ≠ 0x26) : Encodes bytes bytes := by
  induction bytes with
  | nil => exact .nil
  | cons b bytes ih =>
    rw [List.forall_mem_cons] at h
    obtain ⟨⟨hpercent, hplus, hand⟩, hrest⟩ := h
    exact .plain hpercent hplus hand (ih hrest)

/-! ## Pairs -/

theorem part_iff {name value part : Bytes} :
    Part name value part ↔
      part ≠ [] ∧ name = part.takeWhile (· != 0x3D) ∧ value = (part.dropWhile (· != 0x3D)).drop 1 := by
  rw [@eq_comm _ name, @eq_comm _ value, cut_iff]
  constructor
  · intro h
    cases h with
    | pair hname => exact ⟨by simp, hname, .inl rfl⟩
    | bare hsome hname => exact ⟨hsome, hname, .inr ⟨rfl, rfl⟩⟩
  · rintro ⟨hsome, hname, rfl | ⟨rfl, rfl⟩⟩
    · exact .pair hname
    · exact .bare hsome hname

/-- The value in a part of a form, if the part is a pair with the name. -/
def valueOf? (name : String) (part : Bytes) : Option Bytes :=
  if part ≠ [] ∧ text (part.takeWhile (· != 0x3D)) = name then
    some ((part.dropWhile (· != 0x3D)).drop 1)
  else none

theorem valueOf?_eq_some_iff {name : String} {part value : Bytes} :
    valueOf? name part = some value ↔ ∃ spelt, Part spelt value part ∧ text spelt = name := by
  unfold valueOf?
  simp only [part_iff]
  constructor
  · intro h
    split at h
    · rename_i hpart
      cases h
      exact ⟨_, ⟨hpart.1, rfl, rfl⟩, hpart.2⟩
    · cases h
  · rintro ⟨spelt, ⟨hsome, rfl, rfl⟩, hname⟩
    rw [if_pos ⟨hsome, hname⟩]

theorem valueOf?_eq_none_iff {name : String} {part : Bytes} :
    valueOf? name part = none ↔ ∀ spelt value, Part spelt value part → text spelt ≠ name := by
  simp only [Option.eq_none_iff_forall_ne_some, Ne, valueOf?_eq_some_iff]
  constructor
  · intro h spelt value hpart hname
    exact h value ⟨spelt, hpart, hname⟩
  · rintro h value ⟨spelt, hpart, hname⟩
    exact h spelt value hpart hname

theorem rawValues_eq (name : String) (form : Bytes) :
    rawValues name form = (form.splitOn 0x26).filterMap (valueOf? name) := by
  unfold rawValues rawPairs
  generalize form.splitOn 0x26 = parts
  induction parts with
  | nil => rfl
  | cons part parts ih =>
    rw [List.filterMap_cons, ← ih]
    unfold valueOf?
    by_cases hempty : part = []
    · simp [hempty]
    · by_cases hname : text (part.takeWhile (· != 0x3D)) = name
      · simp [hempty, hname]
      · simp [hempty, hname]

/-- The first of the values under a name is the one that the form gives it. -/
theorem rawValues_eq_cons_iff {name : String} {form value : Bytes} :
    (∃ later, rawValues name form = value :: later) ↔ FirstValue name form value := by
  simp only [rawValues_eq, List.filterMap_eq_cons_iff, valueOf?_eq_none_iff, valueOf?_eq_some_iff]
  constructor
  · rintro ⟨later, before, part, after, hparts, hbefore, ⟨spelt, hpart, hname⟩, -⟩
    refine ⟨before, part, after, spelt, ?_, ?_, hpart, hname, hbefore⟩
    · rw [← hparts, List.intercalate_splitOn]
    · intro other hother
      rw [← hparts] at hother
      exact not_mem_of_mem_splitOn hother
  · rintro ⟨before, part, after, spelt, rfl, hparts, hpart, hname, hbefore⟩
    refine ⟨_, before, part, after, ?_, hbefore, ⟨spelt, hpart, hname⟩, rfl⟩
    exact List.splitOn_intercalate _ hparts (by simp)

end Form

/-! ## Films behind each encoding -/

namespace Submission

open Form

variable {form value exact inner : Bytes} {film : Film}

/-- A form is read by its first `data`, after what is no text there has been replaced. -/
theorem readForm_eq (hfirst : FirstValue "data" form value) (hexact : StandsFor value exact) :
    readForm form = readPlain (Utf8.encode (Utf8.lossy exact)) := by
  obtain ⟨later, hvalues⟩ := rawValues_eq_cons_iff.mpr hfirst
  unfold readForm Encoding.fieldName
  rw [hvalues]
  dsimp only
  rw [text, standsFor_iff.mp hexact]

/-- A text comes through unchanged, however it was escaped. -/
theorem readForm_encode {written : String} (hfirst : FirstValue "data" form value)
    (hencodes : Encodes (Utf8.encode written) value) :
    readForm form = readPlain (Utf8.encode written) := by
  rw [readForm_eq hfirst hencodes.standsFor, Utf8.lossy_encode]

/-- A film that its bytes alone carry is also read behind the mark, and as the first `data` of a form,
whichever bytes are escaped there and whatever pairs stand around it. -/
theorem every_encoding_carries_films (hread : readPlain inner = .ok film) :
    readMarked (Utf8.encode "data=" ++ inner) = .ok film ∧
      ∀ form value, FirstValue "data" form value → Encodes inner value →
        readForm form = .ok film := by
  refine ⟨(readMarked_mark inner).trans hread, ?_⟩
  intro form value hfirst hencodes
  obtain ⟨written, rfl, -⟩ := text_of_written (readPlain_eq_ok_iff.mp hread)
  rw [readForm_encode hfirst hencodes, hread]

/-- An object whose first text is written with the given bytes, and whose other texts are empty. -/
def titled (title : Bytes) : Bytes :=
  Utf8.encode "\x7b\"title\":\"" ++ title ++
    Utf8.encode
      ("\",\"originalTitle\":\"\",\"productionYear\":\"\",\"length\":\"\"," ++
        "\"director\":\"\",\"actors\":\"\"\x7d")

def sampleInner : Bytes := titled (Utf8.encode "&B +%é=")

def sampleValue : Bytes := titled (Utf8.encode "%26B+%2b%25%c3%A9=")

def sampleForm : Bytes :=
  Utf8.encode "x=%FF&&%64at%61=" ++ sampleValue ++ Utf8.encode "&data=later&y"

theorem every_encoding_carries_films_sample :
    readPlain sampleInner = .ok { title := "&B +%é=" } ∧
      readMarked (Utf8.encode "data=" ++ sampleInner) = .ok { title := "&B +%é=" } ∧
      FirstValue "data" sampleForm sampleValue ∧ Encodes sampleInner sampleValue ∧
      readForm sampleForm = .ok { title := "&B +%é=" } := by
  have hfirst : FirstValue "data" sampleForm sampleValue := by
    refine ⟨[Utf8.encode "x=%FF", []], Utf8.encode "%64at%61" ++ 0x3D :: sampleValue,
      [Utf8.encode "data=later", Utf8.encode "y"], _, by decide +kernel, by decide +kernel,
      .pair (by decide +kernel), by decide +kernel, ?_⟩
    simp only [← valueOf?_eq_none_iff]
    decide +kernel
  have hescapes : Encodes (Utf8.encode "&B +%é=") (Utf8.encode "%26B+%2b%25%c3%A9=") := by
    refine .escaped ⟨2, 6, rfl, rfl, rfl⟩ (.plain (by decide) (by decide) (by decide) (.blank ?_))
    refine .escaped ⟨2, 11, rfl, rfl, rfl⟩ (.escaped ⟨2, 5, rfl, rfl, rfl⟩ ?_)
    refine .escaped ⟨12, 3, rfl, rfl, rfl⟩ (.escaped ⟨10, 9, rfl, rfl, rfl⟩ ?_)
    exact encodes_plain (by decide +kernel)
  have hencodes : Encodes sampleInner sampleValue :=
    ((encodes_plain (by decide +kernel)).append hescapes).append (encodes_plain (by decide +kernel))
  have hread : readPlain sampleInner = .ok { title := "&B +%é=" } :=
    readPlain_of_toOption (by decide +kernel)
  obtain ⟨hmarked, hform⟩ := every_encoding_carries_films hread
  exact ⟨hread, hmarked, hfirst, hencodes, hform _ _ hfirst hencodes⟩

end Submission

end FilmCatalog
