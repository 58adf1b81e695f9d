import FilmCatalog.Proofs.Creations

/-!
# The configured base

A base loses the blanks at its ends, and after that the slashes at its end. It is not looked at again, so a blank
that stood in front of those slashes is then at its end, and shows in every address.
-/

namespace FilmCatalog

open Blank (isBlank Bare)

namespace Settings

variable {text base : String} {front slashes : List Char} {c : Char}

/-! ## Cuts -/

/-- A text cut into blanks, a front, slashes and blanks. No blank is left at the ends of the middle, and no slash
at the end of the front. -/
structure Cut (text : String) (front slashes : List Char) : Prop where
  between : ∃ before after : List Char, (∀ c ∈ before, isBlank c) ∧ (∀ c ∈ after, isBlank c) ∧
    text.toList = before ++ (front ++ slashes) ++ after
  bare : Bare (front ++ slashes)
  slashes : ∀ c ∈ slashes, c = '/'
  front : front.getLast? ≠ some '/'

theorem cut_iff_trim :
    Cut text front slashes ↔
      (Blank.trim text).toList = front ++ slashes ∧ (∀ c ∈ slashes, c = '/') ∧
        front.getLast? ≠ some '/' := by
  rw [Blank.trim_eq_iff]
  constructor
  · intro h
    exact ⟨⟨h.bare, h.between⟩, h.slashes, h.front⟩
  · rintro ⟨⟨hbare, hbetween⟩, hslashes, hfront⟩
    exact ⟨hbetween, hbare, hslashes, hfront⟩

theorem cut_iff_rdropWhile :
    (∃ slashes, Cut text front slashes) ↔
      (Blank.trim text).toList.rdropWhile (· == '/') = front := by
  rw [Blank.rdropWhile_eq_iff]
  simp only [cut_iff_trim, beq_iff_eq]
  constructor
  · rintro ⟨slashes, htrim, hslashes, hfront⟩
    refine ⟨?_, slashes, hslashes, htrim⟩
    rintro c hc rfl
    exact hfront hc
  · rintro ⟨hfront, slashes, hslashes, htrim⟩
    refine ⟨slashes, htrim, hslashes, ?_⟩
    intro hlast
    exact hfront '/' hlast rfl

theorem Cut.unique {other more : List Char} (h : Cut text front slashes) (hother : Cut text other more) :
    front = other := by
  rw [← cut_iff_rdropWhile.mp ⟨_, h⟩, cut_iff_rdropWhile.mp ⟨_, hother⟩]

theorem base?_eq_some_iff :
    base? text = some base ↔ base ≠ "" ∧ ∃ slashes, Cut text base.toList slashes := by
  rw [cut_iff_rdropWhile]
  unfold base? List.rdropWhile
  dsimp only
  generalize ((Blank.trim text).toList.reverse.dropWhile (· == '/')).reverse = kept
  have hkept : kept = base.toList ↔ String.ofList kept = base := by
    rw [← String.toList_inj, String.toList_ofList]
  rw [hkept]
  split
  · rename_i hempty
    rw [hempty]
    simp [eq_comm]
  · rename_i hsome
    constructor
    · rintro ⟨rfl⟩
      exact ⟨hsome, rfl⟩
    · rintro ⟨-, rfl⟩
      rfl

theorem base?_eq_none_iff : base? text = none ↔ ∃ slashes, Cut text [] slashes := by
  rw [cut_iff_rdropWhile]
  unfold base? List.rdropWhile
  dsimp only
  generalize ((Blank.trim text).toList.reverse.dropWhile (· == '/')).reverse = kept
  simp

/-! ## Blanks that are kept -/

def EndsBlank (base : String) : Prop := ∃ c, base.toList.getLast? = some c ∧ isBlank c

/-- With the blanks at its ends gone, the text ends in slashes, and a blank stands in front of them. -/
def BlankBeforeSlashes (text : String) : Prop :=
  ∃ front c slashes, isBlank c ∧ slashes ≠ [] ∧ Cut text (front ++ [c]) slashes

theorem Cut.endsBlank_iff (h : Cut text base.toList slashes) : EndsBlank base ↔ BlankBeforeSlashes text := by
  constructor
  · rintro ⟨c, hlast, hblank⟩
    obtain ⟨front, hfront⟩ := List.getLast?_eq_some_iff.mp hlast
    rw [hfront] at h
    refine ⟨front, c, slashes, hblank, ?_, h⟩
    -- A blank at the end of the middle would be cut off.
    rintro rfl
    apply h.bare.last c _ hblank
    simp
  · rintro ⟨front, c, more, hblank, -, hcut⟩
    refine ⟨c, ?_, hblank⟩
    rw [h.unique hcut]
    simp

theorem Cut.first (h : Cut text front slashes) (hc : front.head? = some c) : ¬ isBlank c := by
  apply h.bare.first
  rw [List.head?_append, hc]
  rfl

/-- To cut a base once more changes nothing only if no blank was kept. -/
theorem Cut.base?_eq_self_iff (h : Cut text base.toList slashes) (hsome : base ≠ "") :
    base? base = some base ↔ ¬ EndsBlank base := by
  rw [base?_eq_some_iff, and_iff_right hsome]
  constructor
  · rintro ⟨more, hagain⟩ ⟨c, hlast, hblank⟩
    obtain ⟨before, after, -, -, hwhole⟩ := hagain.between
    -- The base is all of the text, so nothing was cut off.
    have hlength := congrArg List.length hwhole
    simp only [List.length_append] at hlength
    obtain rfl : more = [] := List.eq_nil_of_length_eq_zero (by omega)
    apply hagain.bare.last c _ hblank
    rw [List.append_nil]
    exact hlast
  · intro hends
    refine ⟨[], ⟨[], [], nofun, nofun, by simp⟩, ?_, nofun, h.front⟩
    rw [List.append_nil]
    refine ⟨fun c => h.first, fun c hlast hblank => ?_⟩
    exact hends ⟨c, hlast, hblank⟩

end Settings

/-! ## Bases of addresses -/

namespace Service

open Settings (Cut EndsBlank BlankBeforeSlashes)

variable {env : Environment} {settings : Settings}

/-- Every value of the variable is taken. One that is blanks and slashes is no base, and any other one is cut to a
base that starts with no blank and ends in no slash. All addresses go on right behind it. The base ends in a
blank exactly if a blank stood in front of the last slashes, and only then would it be cut once more. -/
theorem base_is_cut_once (hset : Settings.ofEnvironment env = .ok settings) :
    (∀ value, ∃ other, Settings.ofEnvironment (env.withBase value) = .ok other) ∧
      (settings.publicBase = none ↔
        ∀ text, env.text? .publicBase = some text → ∃ slashes, Cut text [] slashes) ∧
      ∀ base, settings.publicBase = some base →
        (∃ text slashes, env.text? .publicBase = some text ∧ Cut text base.toList slashes ∧
          (EndsBlank base ↔ BlankBeforeSlashes text)) ∧
          base ≠ "" ∧ (∀ c, base.toList.head? = some c → ¬ isBlank c) ∧
          base.toList.getLast? ≠ some '/' ∧
          (Settings.base? base = some base ↔ ¬ EndsBlank base) ∧
          ∀ request id, (address settings request).collection = base ++ "/films" ∧
            (address settings request).item id = base ++ "/films/" ++ id.text := by
  have hbase := Settings.publicBase_of_environment hset
  refine ⟨?_, ?_, ?_⟩
  · intro value
    rw [Settings.ofEnvironment_withBase, hset]
    exact ⟨_, rfl⟩
  · rw [hbase, Option.bind_eq_none_iff]
    simp only [Settings.base?_eq_none_iff]
  · intro base hsome
    rw [hbase, Option.bind_eq_some_iff] at hsome
    obtain ⟨text, htext, hread⟩ := hsome
    obtain ⟨hne, slashes, hcut⟩ := Settings.base?_eq_some_iff.mp hread
    refine ⟨⟨text, slashes, htext, hcut, hcut.endsBlank_iff⟩, hne, fun c => hcut.first, hcut.front,
      hcut.base?_eq_self_iff hne, ?_⟩
    intro request id
    have haddress : address settings request = { base } := by
      unfold address
      rw [hbase, htext, Option.bind_some, hread]
    have hfolder : base ++ "/films" ++ "/" = base ++ "/films/" := String.append_assoc
    rw [haddress]
    exact ⟨rfl, congrArg (· ++ id.text) hfolder⟩

theorem base_is_cut_once_sample :
    Settings.ofEnvironment (based "\u00A0//films.test/ /a// \t") =
        .ok { publicBase := some "//films.test/ /a" } ∧
      ¬ EndsBlank "//films.test/ /a" ∧
      Settings.base? "//films.test/ /a" = some "//films.test/ /a" := by
  have hset : Settings.ofEnvironment (based "\u00A0//films.test/ /a// \t") =
      .ok { publicBase := some "//films.test/ /a" } := by decide +kernel
  obtain ⟨-, -, hbase⟩ := base_is_cut_once hset
  obtain ⟨-, -, -, -, hagain, -⟩ := hbase _ rfl
  have hends : ¬ EndsBlank "//films.test/ /a" := by
    rintro ⟨c, hlast, hblank⟩
    cases hlast
    revert hblank
    decide
  exact ⟨hset, hends, hagain.mpr hends⟩

/-- The blank in front of the slash is left at the end of the base. To cut the base once more takes it off. -/
theorem blank_before_slash_is_kept :
    Settings.ofEnvironment (based "http://films.test /") =
        .ok { publicBase := some "http://films.test " } ∧
      EndsBlank "http://films.test " ∧
      Settings.base? "http://films.test " = some "http://films.test" ∧
      (address { publicBase := some "http://films.test " } sampleCreation).item ⟨0⟩ =
        "http://films.test /films/0" := by
  refine ⟨by decide +kernel, ⟨' ', by decide, by decide⟩, by decide +kernel, by decide +kernel⟩

end Service

end FilmCatalog
