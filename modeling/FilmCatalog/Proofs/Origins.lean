import FilmCatalog.Proofs.Creations

/-!
# Granted origins

The list of origins is cut at its commas, and each part that is not blank is an origin, without the blanks around
it. A request is granted its origin if that is one of the list, byte for byte.
-/

namespace FilmCatalog

open Blank (isBlank Bare)

namespace Settings

variable {text origin : String} {piece : List Char} {pieces : List (List Char)} {origins : List String}

/-! ## Lists of origins -/

/-- What may be listed: a text without commas and without blanks at its ends. -/
structure Listable (origin : String) : Prop where
  nonempty : origin ≠ ""
  noComma : ',' ∉ origin.toList
  bare : Bare origin.toList

/-- The piece is the word with blanks around it. -/
def Pads (word piece : List Char) : Prop :=
  ∃ before after : List Char, (∀ c ∈ before, isBlank c) ∧ (∀ c ∈ after, isBlank c) ∧
    piece = before ++ word ++ after

/-- The origins in some pieces, in their order. There is none in a piece of blanks. -/
inductive Holds : List (List Char) → List String → Prop
  | nil : Holds [] []
  | blank {piece : List Char} {pieces : List (List Char)} {origins : List String}
      (hblank : ∀ c ∈ piece, isBlank c) (hrest : Holds pieces origins) : Holds (piece :: pieces) origins
  | origin {origin : String} {piece : List Char} {pieces : List (List Char)} {origins : List String}
      (hlistable : Listable origin) (hpads : Pads origin.toList piece) (hrest : Holds pieces origins) :
    Holds (piece :: pieces) (origin :: origins)

/-- The text joins pieces that hold the origins with commas. -/
def ListsOrigins (text : String) (origins : List String) : Prop :=
  ∃ pieces : List (List Char), text.toList = [','].intercalate pieces ∧ Holds pieces origins

/-- One of the parts of the text between its commas is the origin with blanks around it. -/
def NamesOrigin (text origin : String) : Prop :=
  origin ≠ "" ∧ Bare origin.toList ∧ ∃ (pieces : List (List Char)) (piece : List Char),
    text.toList = [','].intercalate pieces ∧ (∀ other ∈ pieces, ',' ∉ other) ∧ piece ∈ pieces ∧
      Pads origin.toList piece

theorem trim_piece_iff :
    Blank.trim (String.ofList piece) = origin ↔ Bare origin.toList ∧ Pads origin.toList piece := by
  rw [← String.toList_inj, Blank.trim_eq_iff, String.toList_ofList]
  rfl

theorem trim_piece_eq_empty_iff : Blank.trim (String.ofList piece) = "" ↔ ∀ c ∈ piece, isBlank c := by
  rw [trim_piece_iff]
  constructor
  · rintro ⟨-, before, after, hbefore, hafter, rfl⟩
    simpa using List.forall_mem_append.mpr ⟨hbefore, hafter⟩
  · intro hblank
    exact ⟨by decide, piece, [], hblank, nofun, by simp⟩

theorem no_comma_of_blank (h : ∀ c ∈ piece, isBlank c) : ',' ∉ piece := by
  intro hcomma
  exact absurd (h ',' hcomma) (by decide)

theorem Holds.noComma (h : Holds pieces origins) : ∀ piece ∈ pieces, ',' ∉ piece := by
  induction h with
  | nil => exact nofun
  | blank hblank _ ih => exact List.forall_mem_cons.mpr ⟨no_comma_of_blank hblank, ih⟩
  | origin hlistable hpads _ ih =>
    obtain ⟨before, after, hbefore, hafter, rfl⟩ := hpads
    refine List.forall_mem_cons.mpr ⟨?_, ih⟩
    simp only [List.mem_append, not_or]
    exact ⟨⟨no_comma_of_blank hbefore, hlistable.noComma⟩, no_comma_of_blank hafter⟩

theorem Pads.noComma (h : Pads origin.toList piece) (hplain : ',' ∉ piece) : ',' ∉ origin.toList := by
  obtain ⟨before, after, -, -, rfl⟩ := h
  intro hcomma
  exact hplain (List.mem_append_left _ (List.mem_append_right _ hcomma))

/-- The trimmed pieces are the origins, once the empty ones are left out. -/
theorem holds_iff (hplain : ∀ piece ∈ pieces, ',' ∉ piece) :
    Holds pieces origins ↔
      (pieces.map fun piece => Blank.trim (String.ofList piece)).filter (· != "") = origins := by
  constructor
  · intro h
    clear hplain
    induction h with
    | nil => rfl
    | blank hblank _ ih =>
      rw [List.map_cons, trim_piece_eq_empty_iff.mpr hblank]
      exact ih
    | origin hlistable hpads _ ih =>
      rw [List.map_cons, trim_piece_iff.mpr ⟨hlistable.bare, hpads⟩,
        List.filter_cons_of_pos (by simpa using hlistable.nonempty), ih]
  · rintro rfl
    induction pieces with
    | nil => exact .nil
    | cons piece pieces ih =>
      rw [List.forall_mem_cons] at hplain
      have hrest := ih hplain.2
      rw [List.map_cons]
      by_cases hempty : Blank.trim (String.ofList piece) = ""
      · rw [hempty]
        exact .blank (trim_piece_eq_empty_iff.mp hempty) hrest
      · rw [List.filter_cons_of_pos (by simpa using hempty)]
        obtain ⟨hbare, hpads⟩ := trim_piece_iff.mp (rfl : Blank.trim (String.ofList piece) = _)
        exact .origin ⟨hempty, hpads.noComma hplain.1, hbare⟩ hpads hrest

theorem originList_eq_iff : originList text = origins ↔ ListsOrigins text origins := by
  unfold originList ListsOrigins
  constructor
  · intro h
    refine ⟨text.toList.splitOn ',', (List.intercalate_splitOn _).symm, ?_⟩
    exact (holds_iff fun piece => not_mem_of_mem_splitOn).mpr h
  · rintro ⟨pieces, htext, hholds⟩
    rw [htext]
    cases hpieces : pieces with
    | nil =>
      rw [hpieces] at hholds
      cases hholds
      rfl
    | cons piece rest =>
      rw [← hpieces, List.splitOn_intercalate _ hholds.noComma (by simp [hpieces])]
      exact (holds_iff hholds.noComma).mp hholds

theorem mem_originList_iff : origin ∈ originList text ↔ NamesOrigin text origin := by
  unfold originList NamesOrigin
  simp only [List.mem_filter, List.mem_map, bne_iff_ne, trim_piece_iff]
  constructor
  · rintro ⟨⟨piece, hpiece, hbare, hpads⟩, hsome⟩
    exact ⟨hsome, hbare, _, piece, (List.intercalate_splitOn _).symm,
      fun _ => not_mem_of_mem_splitOn, hpiece, hpads⟩
  · rintro ⟨hsome, hbare, pieces, piece, htext, hplain, hpiece, hpads⟩
    refine ⟨⟨piece, ?_, hbare, hpads⟩, hsome⟩
    rw [htext, List.splitOn_intercalate _ hplain (List.ne_nil_of_mem hpiece)]
    exact hpiece

theorem origins_of_environment {env : Environment} {settings : Settings} (h : ofEnvironment env = .ok settings)
    (htext : env.Sets .origins text) : settings.origins = originList text := by
  obtain ⟨-, -, -, -, -, -, horigins⟩ := ofEnvironment_eq_ok_iff.mp h
  rw [horigins, Environment.text?_eq_some_iff.mpr htext]
  rfl

end Settings

namespace Service

open Settings (ListsOrigins NamesOrigin ofEnvironment)

variable {env : Environment} {settings : Settings} {text origin : String} {catalog : Catalog} {request : Request}

/-! ## Start -/

theorem checkOrigins_eq_ok_iff {origins : List String} :
    checkOrigins origins = .ok () ↔ ∀ origin ∈ origins, isHeaderText origin ∧ origin ≠ "*" := by
  unfold checkOrigins
  cases hfound : origins.find? (!isHeaderText ·) with
  | some bad =>
    refine iff_of_false nofun ?_
    intro h
    have hbad := List.find?_some hfound
    rw [(h bad (List.mem_of_find?_eq_some hfound)).1] at hbad
    cases hbad
  | none =>
    rw [List.find?_eq_none] at hfound
    dsimp only
    split
    · rename_i hany
      exact iff_of_false nofun fun h => (h "*" hany).2 rfl
    · rename_i hnone
      refine iff_of_true rfl ?_
      intro origin horigin
      refine ⟨by simpa using hfound origin horigin, ?_⟩
      rintro rfl
      exact hnone horigin

/-! ## Grants -/

/-- What a response grants to the origin of its request. -/
def granted (response : Response) : List (String × HeaderValue) :=
  response.headers.filter (·.1 = "access-control-allow-origin")

theorem not_granted_by_reply (under : Address) (outcome : Outcome) :
    (outcome.reply under).headers.filter (·.1 = "access-control-allow-origin") = [] := by
  cases outcome with
  | created entry =>
    rw [Outcome.reply, createdReply]
    dsimp only
    split <;> rfl
  | preflight route => cases route <;> rfl
  | _ => rfl

/-- Nothing but the origin headers grants anything, whatever becomes of the request. -/
theorem granted_respond (settings : Settings) (catalog : Catalog) (request : Request) :
    granted (respond settings catalog request).1 = originHeaders settings request := by
  have horigin : (originHeaders settings request).filter (·.1 = "access-control-allow-origin") =
      originHeaders settings request := by
    rw [List.filter_eq_self]
    unfold originHeaders
    simp
  have htracking : (trackingHeaders request).filter (·.1 = "access-control-allow-origin") = [] := by
    unfold trackingHeaders
    split <;> rfl
  rw [respond_eq]
  unfold granted finish
  dsimp only
  have hreply := not_granted_by_reply (address settings request) (request.plan.perform catalog).1
  rw [List.filter_append, List.filter_append, horigin, htracking, List.append_nil, List.filter_map,
    Function.comp_def, hreply]
  rfl

theorem originHeaders_of_mem (horigin : origin ∈ settings.origins)
    (hrequest : request.header? "origin" = some (Utf8.encode origin)) :
    originHeaders settings request = [("access-control-allow-origin", .text origin)] := by
  have hknown : settings.origins.any (Utf8.encode · == Utf8.encode origin) :=
    List.any_eq_true.mpr ⟨origin, horigin, beq_self_eq_true _⟩
  unfold originHeaders grantedOrigin?
  rw [hrequest, Option.filter_some, if_pos hknown]
  rfl

theorem originHeaders_of_not_mem
    (hrequest : ∀ origin ∈ settings.origins, request.header? "origin" ≠ some (Utf8.encode origin)) :
    originHeaders settings request = [] := by
  unfold originHeaders grantedOrigin?
  cases hvalue : request.header? "origin" with
  | none => rfl
  | some value =>
    have hunknown : ¬ settings.origins.any (Utf8.encode · == value) := by
      intro hany
      obtain ⟨origin, horigin, hsame⟩ := List.any_eq_true.mp hany
      apply hrequest origin horigin
      rw [hvalue, beq_iff_eq.mp hsame]
    rw [Option.filter_some, if_neg hunknown]
    rfl

/-- The settings hold exactly the origins that the text lists. The service starts with them if each can be sent in a
header and none stands for all, and then every answer grants the origin of its request, once, if the text names it,
and grants nothing otherwise. -/
theorem named_origins_are_granted (htext : env.Sets .origins text) :
    (env.Valid → ∃ settings, ofEnvironment env = .ok settings ∧
        ∀ origins, settings.origins = origins ↔ ListsOrigins text origins) ∧
      ((∃ settings, start env = .ok settings) ↔
        env.Valid ∧ ∀ origin, NamesOrigin text origin →
          (∀ c ∈ origin.toList, IsHeaderChar c) ∧ origin ≠ "*") ∧
      ∀ settings, start env = .ok settings → ∀ catalog request,
        (∀ origin, NamesOrigin text origin → request.header? "origin" = some (Utf8.encode origin) →
          granted (respond settings catalog request).1 =
            [("access-control-allow-origin", .bytes (Utf8.encode origin))]) ∧
          ((∀ origin, NamesOrigin text origin → request.header? "origin" ≠ some (Utf8.encode origin)) →
            granted (respond settings catalog request).1 = []) := by
  have horigins {settings : Settings} (hset : ofEnvironment env = .ok settings) :
      settings.origins = Settings.originList text := Settings.origins_of_environment hset htext
  simp only [← Settings.mem_originList_iff, ← isHeaderText_iff]
  refine ⟨?_, ?_, ?_⟩
  · intro hvalid
    obtain ⟨settings, hset⟩ := Settings.exists_ofEnvironment_iff.mpr hvalid
    refine ⟨settings, hset, fun origins => ?_⟩
    rw [horigins hset]
    exact Settings.originList_eq_iff
  · simp only [start_eq_ok_iff, checkOrigins_eq_ok_iff, ← Settings.exists_ofEnvironment_iff]
    constructor
    · rintro ⟨settings, hset, hchecked⟩
      rw [horigins hset] at hchecked
      exact ⟨⟨settings, hset⟩, hchecked⟩
    · rintro ⟨⟨settings, hset⟩, hchecked⟩
      rw [← horigins hset] at hchecked
      exact ⟨settings, hset, hchecked⟩
  · intro settings hstart catalog request
    rw [granted_respond, ← horigins (start_eq_ok_iff.mp hstart).1]
    exact ⟨fun origin => originHeaders_of_mem, originHeaders_of_not_mem⟩

/-! ## An example -/

/-- An environment in which the origins alone are set. -/
def allowing (text : String) : Environment where
  value?
    | .origins => some (Utf8.encode text)
    | _ => none

def sampleOriginText : String := "\u00A0http://a.test ,, \u2003,https://b.test:8443\t"

def sampleOrigins : List String := ["http://a.test", "https://b.test:8443"]

/-- A request with an origin in front of one that is listed. -/
def visit (origin : String) : Request :=
  { target := Utf8.encode "/films"
    headers := [("Origin", Utf8.encode origin), ("origin", Utf8.encode "http://a.test")] }

theorem named_origins_are_granted_sample :
    (allowing sampleOriginText).Sets .origins sampleOriginText ∧ (allowing sampleOriginText).Valid ∧
      ListsOrigins sampleOriginText sampleOrigins ∧
      start (allowing sampleOriginText) = .ok { origins := sampleOrigins } ∧
      ∀ catalog,
        granted (respond { origins := sampleOrigins } catalog (visit "https://b.test:8443")).1 =
            [("access-control-allow-origin", .bytes (Utf8.encode "https://b.test:8443"))] ∧
          ∀ origin ∈ ["https://b.test", "b.test:8443", "HTTP://a.test", "http://a.test,", ""],
            granted (respond { origins := sampleOrigins } catalog (visit origin)).1 = [] := by
  have htext : (allowing sampleOriginText).Sets .origins sampleOriginText := rfl
  have hstart : start (allowing sampleOriginText) = .ok { origins := sampleOrigins } := by decide +kernel
  obtain ⟨hlists, hstarts, hgrants⟩ := named_origins_are_granted htext
  obtain ⟨hvalid, -⟩ := hstarts.mp ⟨_, hstart⟩
  obtain ⟨settings, hset, horigins⟩ := hlists hvalid
  have hnamed (origin : String) : NamesOrigin sampleOriginText origin ↔ origin ∈ sampleOrigins := by
    have hlist : Settings.originList sampleOriginText = sampleOrigins := by decide +kernel
    rw [← Settings.mem_originList_iff, hlist]
  refine ⟨htext, hvalid, (horigins _).mp ?_, hstart, fun catalog => ⟨?_, fun origin horigin => ?_⟩⟩
  · rw [(start_eq_ok_iff.mp hstart).1] at hset
    rw [← Except.ok.inj hset]
  · exact (hgrants _ hstart catalog _).1 _ ((hnamed _).mpr (by decide)) rfl
  · apply (hgrants _ hstart catalog _).2
    simp only [hnamed]
    revert origin
    decide +kernel

end Service

end FilmCatalog
