import FilmCatalog.Proofs.Bodies
import FilmCatalog.Proofs.Requests

/-!
# Where stored films come from

A film is read from what its body carries, and nothing is stored that no body carried.
-/

namespace FilmCatalog

open Grammar

theorem Encoding.mark_isPrefixOf (inner : Bytes) : mark.isPrefixOf (mark ++ inner) :=
  List.isPrefixOf_iff_prefix.mpr (List.prefix_append mark inner)

/-! ## What a body carries -/

namespace Submission

/-- An object with the six fields, or a list of the six texts. -/
def Written (film : Film) (body : Bytes) : Prop := FilmObject film body ∨ FilmList film body

/-- The bytes that a body of some encoding carries. -/
inductive Carries : Encoding → Bytes → Bytes → Prop
  | plain {body : Bytes} : Carries .plain body body
  | form {body value : Bytes} {later : List Bytes}
      (hvalues : Form.rawValues Encoding.fieldName body = value :: later) :
    Carries .form body (Utf8.encode (Form.text value))
  | marked {inner : Bytes} : Carries .marked (Encoding.mark ++ inner) inner

/-- The first byte behind the blanks opens an object. -/
def OpensObject (body : Bytes) : Prop := ∃ gap rest, Blanks gap ∧ body = gap ++ 0x7B :: rest

theorem readPlain_eq_ok_iff {body : Bytes} {film : Film} :
    readPlain body = .ok film ↔ Written film body := by
  unfold readPlain Reading.film Written
  rw [← Reading.readBody_iff]
  cases Reading.readBody body <;> simp [Except.mapError]

theorem readPlain_fails {body : Bytes} (h : ∀ film, ¬ Written film body) :
    ∃ problem, readPlain body = .error (.unreadable problem) := by
  cases hread : Reading.film body with
  | error problem =>
    refine ⟨problem, ?_⟩
    rw [readPlain, hread]
    rfl
  | ok film =>
    refine absurd (readPlain_eq_ok_iff.mp ?_) (h film)
    rw [readPlain, hread]
    rfl

theorem readPlain_of_toOption {body : Bytes} {film : Film}
    (h : (readPlain body).toOption = some film) : readPlain body = .ok film := by
  cases hread : readPlain body with
  | ok found =>
    rw [hread] at h
    cases h
    rfl
  | error fault =>
    rw [hread] at h
    cases h

theorem opensObject_iff {body : Bytes} :
    OpensObject body ↔ (Reading.skipBlanks body).head? = some 0x7B := by
  unfold OpensObject
  rw [List.head?_eq_some_iff, exists_comm]
  simp only [Reading.skipBlanks_eq_cons_iff (by decide : ¬ Reading.isBlankByte 0x7B)]

theorem OpensObject.not_list {body : Bytes} (hopens : OpensObject body) (film : Film) :
    ¬ FilmList film body := by
  intro hlist
  obtain ⟨left, -, hbracket, -⟩ := Reading.filmList_iff.mp hlist
  rw [opensObject_iff, hbracket] at hopens
  cases hopens

theorem opensObject_of_object {body : Bytes} {film : Film} (h : FilmObject film body) :
    OpensObject body := by
  obtain ⟨left, -, hbrace, -⟩ := Reading.filmObject_iff.mp h
  rw [opensObject_iff, hbrace]
  rfl

theorem OpensObject.written_iff {body : Bytes} (hopens : OpensObject body) {film : Film} :
    Written film body ↔ FilmObject film body :=
  or_iff_left (hopens.not_list film)

theorem readForm_eq_ok_iff {body : Bytes} {film : Film} :
    readForm body = .ok film ↔ ∃ inner, Carries .form body inner ∧ readPlain inner = .ok film := by
  unfold readForm
  constructor
  · intro h
    split at h
    · simp at h
    · rename_i value later hvalues
      exact ⟨_, .form hvalues, h⟩
  · rintro ⟨inner, hcarries, h⟩
    cases hcarries with
    | form hvalues =>
      rw [hvalues]
      exact h

theorem readMarked_mark (inner : Bytes) : readMarked (Encoding.mark ++ inner) = readPlain inner := by
  unfold readMarked
  rw [if_pos (Encoding.mark_isPrefixOf inner), List.drop_left]

theorem readMarked_eq_ok_iff {body : Bytes} {film : Film} :
    readMarked body = .ok film ↔ ∃ inner, Carries .marked body inner ∧ readPlain inner = .ok film := by
  constructor
  · intro h
    have hmark := h
    unfold readMarked at hmark
    split at hmark
    · rename_i hprefix
      obtain ⟨inner, rfl⟩ := List.isPrefixOf_iff_prefix.mp hprefix
      rw [readMarked_mark] at h
      exact ⟨inner, .marked, h⟩
    · cases hmark
  · rintro ⟨inner, ⟨⟩, h⟩
    rw [readMarked_mark, h]

theorem read_eq_ok_iff {encoding : Encoding} {body : Bytes} {film : Film} :
    read encoding body = .ok film ↔ ∃ inner, Carries encoding body inner ∧ Written film inner := by
  simp only [← readPlain_eq_ok_iff]
  cases encoding with
  | plain =>
    constructor
    · intro h
      exact ⟨body, .plain, h⟩
    · rintro ⟨inner, ⟨⟩, h⟩
      exact h
  | form => exact readForm_eq_ok_iff
  | marked => exact readMarked_eq_ok_iff

/-- Of the bodies that open an object, the film objects are read, each as the film that it writes, and
all others are malformed. -/
theorem object_read_iff {body : Bytes} (hopens : OpensObject body) :
    (∀ film, readPlain body = .ok film ↔ FilmObject film body) ∧
      ((∀ film, ¬ FilmObject film body) →
        ∃ problem, readPlain body = .error (.unreadable problem) ∧
          (readPlain body).mapError (Refusal.malformed ·.message) =
            .error (.malformed problem.message)) := by
  constructor
  · intro film
    rw [readPlain_eq_ok_iff, hopens.written_iff]
  · intro hnone
    obtain ⟨problem, hproblem⟩ :=
      readPlain_fails fun film hwritten => hnone film (hopens.written_iff.mp hwritten)
    refine ⟨problem, hproblem, ?_⟩
    rw [hproblem]
    rfl

def sampleObject : Bytes :=
  Utf8.encode <|
    " \x7b\"actors\":\"\\ud83c\\udfac\" ,\n\"\\u0074itle\": \"a\\/b\", \"length\" : \"\"," ++
    "\"director\":\"é\",\"originalTitle\":\"\\n\",\"productionYear\":\"1\"\t\x7d\r\n"

def sampleObjectFilm : Film :=
  { title := "a/b", originalTitle := "\n", productionYear := "1", director := "é", actors := "🎬" }

/-- The second key spells the same name as the first one. -/
def sampleRepetition : Bytes := Utf8.encode "\x7b\"title\":\"\",\"\\u0074itle\":\"\"\x7d"

theorem object_read_iff_sample :
    OpensObject sampleObject ∧ FilmObject sampleObjectFilm sampleObject ∧
      OpensObject sampleRepetition ∧
        ∃ problem, readPlain sampleRepetition = .error (.unreadable problem) := by
  have hopens : OpensObject sampleObject := opensObject_iff.mpr (by decide +kernel)
  have hrepetition : OpensObject sampleRepetition := opensObject_iff.mpr (by decide +kernel)
  have hread : readPlain sampleObject = .ok sampleObjectFilm :=
    readPlain_of_toOption (by decide +kernel)
  have hfault : (readPlain sampleRepetition).toOption = none := by decide +kernel
  refine ⟨hopens, ((object_read_iff hopens).1 _).mp hread, hrepetition, ?_⟩
  obtain ⟨problem, hproblem, -⟩ := (object_read_iff hrepetition).2 fun film hfilm => by
    rw [((object_read_iff hrepetition).1 film).mpr hfilm] at hfault
    cases hfault
  exact ⟨problem, hproblem⟩

end Submission

/-! ## What is stored -/

namespace Service

open Submission

namespace Request

/-- The body has two mebibytes at most, and a film is read from it. -/
def Submits (request : Request) (film : Film) : Prop :=
  request.body.length ≤ 2097152 ∧
    read (Encoding.detect request.contentType? request.body) request.body = .ok film

theorem film_eq_ok_iff {request : Request} {film : Film} :
    request.film = .ok film ↔ request.Submits film := by
  unfold Request.film receive Submits sizeLimit
  split
  · rename_i hsize
    cases read (Encoding.detect request.contentType? request.body) request.body <;>
      simp [Except.mapError, hsize]
  · rename_i hsize
    simp [Except.mapError, hsize]

/-- Brings a film in its body to be stored. -/
def Brings (request : Request) (film : Film) : Prop :=
  (request.method = .post ∨ request.method = .put) ∧
    ∃ inner,
      Carries (Encoding.detect request.contentType? request.body) request.body inner ∧
        Written film inner

theorem brings_of_film {request : Request} {film : Film}
    (hmethod : request.method = .post ∨ request.method = .put) (hfilm : request.film = .ok film) :
    request.Brings film :=
  ⟨hmethod, read_eq_ok_iff.mp (film_eq_ok_iff.mp hfilm).2⟩

end Request

variable {settings : Settings} {catalog next : Catalog} {request : Request} {plan : Plan}

theorem leads_films (hasks : request.Asks plan) {outcome : Outcome}
    (h : plan.Leads catalog outcome next) {entry : Entry} (hentry : entry ∈ next.entries) :
    (∃ old ∈ catalog.entries, old.film = entry.film) ∨ request.Brings entry.film := by
  cases h with
  | settled | refused | counted | listed | found => exact .inl ⟨entry, hentry, rfl⟩
  | cleared => cases hentry
  | created hstep =>
    cases hstep
    rcases List.mem_append.mp hentry with hold | hnew
    · exact .inl ⟨entry, hold, rfl⟩
    · cases List.mem_singleton.mp hnew
      cases hasks with
      | create _ hmethod hfilm => exact .inr (Request.brings_of_film (.inl hmethod) hfilm)
  | replaced hstep =>
    cases hstep with
    | kept hown => exact .inl ⟨entry, hentry, rfl⟩
    | replaced hfound hfresh =>
      obtain ⟨old, hold, rfl⟩ := List.mem_map.mp hentry
      split
      · cases hasks with
        | replace _ hmethod hfilm => exact .inr (Request.brings_of_film (.inr hmethod) hfilm)
      · exact .inl ⟨old, hold, rfl⟩
  | deleted hstep =>
    cases hstep
    exact .inl ⟨entry, (List.mem_filter.mp hentry).1, rfl⟩

theorem run_films {requests : List Request} {entry : Entry}
    (hentry : entry ∈ (run settings catalog requests).2.entries) :
    (∃ old ∈ catalog.entries, old.film = entry.film) ∨
      ∃ request ∈ requests, request.Brings entry.film := by
  induction requests generalizing catalog with
  | nil => exact .inl ⟨entry, hentry, rfl⟩
  | cons request requests ih =>
    rcases ih hentry with ⟨old, hold, hfilm⟩ | ⟨later, hlater, hbrings⟩
    · rw [← hfilm]
      rcases leads_films request.asks_plan (request.plan.leads_perform catalog) hold with
        hkept | hbrings
      · exact .inl hkept
      · exact .inr ⟨request, List.mem_cons_self, hbrings⟩
    · exact .inr ⟨later, List.mem_cons_of_mem _ hlater, hbrings⟩

/-- A film is read from an object with the six fields or from a list of the six texts, whatever the
encoding, and all that is ever stored was read so from the body of a creation or a replacement. -/
theorem films_are_written (body : Bytes) (film : Film) (encoding : Encoding) (settings : Settings)
    (requests : List Request) :
    (readPlain body = .ok film ↔ FilmObject film body ∨ FilmList film body) ∧
      (readPlain body = .ok film → (OpensObject body ↔ ¬ FilmList film body)) ∧
      (read encoding body = .ok film ↔
        ∃ inner, Carries encoding body inner ∧ (FilmObject film inner ∨ FilmList film inner)) ∧
      ∀ entry ∈ (catalogAfter settings requests).entries,
        ∃ request ∈ requests, request.Brings entry.film := by
  refine ⟨readPlain_eq_ok_iff, ?_, read_eq_ok_iff, ?_⟩
  · intro hread
    constructor
    · intro hopens
      exact hopens.not_list film
    · intro hlist
      exact opensObject_of_object ((readPlain_eq_ok_iff.mp hread).resolve_right hlist)
  · intro entry hentry
    rcases run_films hentry with ⟨old, hold, -⟩ | hbrings
    · cases hold
    · exact hbrings

/-- A list of six texts, which is no object. -/
def sampleList : Bytes := Utf8.encode "[\"a\",\"b\",\"c\",\"d\",\"e\",\"f\"]"

def sampleListFilm : Film :=
  { title := "a", originalTitle := "b", productionYear := "c", length := "d", director := "e"
    actors := "f" }

def sampleListCreation : Request :=
  { method := .post, target := Utf8.encode "/films", body := sampleList }

theorem list_is_stored :
    ¬ OpensObject sampleList ∧ readPlain sampleList = .ok sampleListFilm ∧
      (respond {} (freshCatalog {}) sampleListCreation).1.status = .created ∧
        (respond {} (freshCatalog {}) sampleListCreation).2.entries = [⟨⟨0⟩, sampleListFilm⟩] := by
  have hplan : sampleListCreation.plan = .create sampleListFilm := by decide +kernel
  obtain ⟨next, hperform, hentries⟩ := perform_create_fresh {} sampleListFilm (by decide)
  refine ⟨?_, readPlain_of_toOption (by decide +kernel), ?_, ?_⟩
  · rw [opensObject_iff]
    decide +kernel
  · rw [respond_eq, hplan, hperform]
    rfl
  · rw [respond_eq, hplan, hperform]
    exact hentries

end Service

end FilmCatalog
