import FilmCatalog.Proofs.Forms

/-!
# What forms replace

A film is read from the very bytes that were submitted. Only in a form, bytes that are no text are
replaced first, and the film that is stored shows the marks.
-/

namespace FilmCatalog

/-! ## Bytes that are no text -/

theorem Utf8.mark_mem_lossy {bytes : Bytes} (h : ¬ IsText bytes) : '\uFFFD' ∈ (lossy bytes).toList := by
  have hbroken : .broken ∈ pieces bytes := by
    by_contra hnone
    refine h ⟨String.ofList ((pieces bytes).map Piece.shown), ?_⟩
    unfold encode
    rw [String.toList_ofList]
    refine eq_of_all_whole (List.all_eq_true.mpr fun piece hpiece => ?_)
    cases piece with
    | whole c => rfl
    | broken => exact absurd hpiece hnone
  unfold lossy
  rw [String.toList_ofList]
  exact List.mem_map_of_mem hbroken

namespace Submission

open Form

variable {encoding : Encoding} {body exact : Bytes} {film : Film}

theorem isText_of_read (hread : readPlain exact = .ok film) : Utf8.IsText exact := by
  obtain ⟨written, rfl, -⟩ := text_of_written (readPlain_eq_ok_iff.mp hread)
  exact ⟨written, rfl⟩

/-! ## What was submitted -/

/-- The bytes that a body was meant to carry. The pair of a form is split off and its escapes are
undone, and nothing is replaced. -/
inductive Sends : Encoding → Bytes → Bytes → Prop
  | plain {body : Bytes} : Sends .plain body body
  | form {body value exact : Bytes} (hfirst : FirstValue "data" body value)
      (hexact : StandsFor value exact) : Sends .form body exact
  | marked {exact : Bytes} : Sends .marked (Utf8.encode "data=" ++ exact) exact

theorem Sends.unique {other : Bytes} (h : Sends encoding body exact)
    (hother : Sends encoding body other) : exact = other := by
  cases h with
  | plain =>
    cases hother
    rfl
  | form hfirst hexact =>
    cases hother with
    | form hsecond hother =>
      obtain ⟨later, hvalues⟩ := rawValues_eq_cons_iff.mpr hfirst
      obtain ⟨more, hagain⟩ := rawValues_eq_cons_iff.mpr hsecond
      obtain ⟨rfl, -⟩ := List.cons.inj (hvalues.symm.trans hagain)
      rw [← standsFor_iff.mp hexact, ← standsFor_iff.mp hother]
  | marked =>
    generalize hbody : Utf8.encode "data=" ++ exact = body at hother
    cases hother with
    | marked => exact List.append_cancel_left hbody

/-- The bytes are no text, and the text with marks in their place holds the film. -/
structure Replaced (exact : Bytes) (film : Film) : Prop where
  noText : ¬ Utf8.IsText exact
  shown : readPlain (Utf8.encode (Utf8.lossy exact)) = .ok film

theorem Replaced.not_read {other : Film} (h : Replaced exact film) : readPlain exact ≠ .ok other :=
  fun hread => h.noText (isText_of_read hread)

/-- The mark is no Ascii character, so it stands in a text of the film. -/
theorem Replaced.has_mark (h : Replaced exact film) : film.Has '\uFFFD' := by
  obtain ⟨written, hwritten, hchars⟩ := text_of_written (readPlain_eq_ok_iff.mp h.shown)
  have hmark := Utf8.mark_mem_lossy h.noText
  rw [Utf8.encode_inj hwritten] at hmark
  exact (hchars _ hmark).resolve_left (by decide)

/-- Where nothing is replaced, a body is read as what it sends, and so are its faults. -/
theorem read_of_sends (h : Sends encoding body exact) (hkept : encoding ≠ .form ∨ Utf8.IsText exact) :
    read encoding body = readPlain exact := by
  cases h with
  | plain => rfl
  | form hfirst hexact =>
    obtain ⟨written, rfl⟩ := hkept.resolve_left (by simp)
    rw [read, readForm_eq hfirst hexact, Utf8.lossy_encode]
  | marked => exact readMarked_mark exact

theorem exists_sends (hread : read encoding body = .ok film) : ∃ exact, Sends encoding body exact := by
  obtain ⟨inner, hcarries, -⟩ := read_eq_ok_iff.mp hread
  cases hcarries with
  | plain => exact ⟨body, .plain⟩
  | form hvalues =>
    obtain ⟨exact, hexact⟩ := exists_standsFor _
    exact ⟨exact, .form (rawValues_eq_cons_iff.mp ⟨_, hvalues⟩) hexact⟩
  | marked => exact ⟨inner, .marked⟩

theorem read_eq_ok_iff_sends :
    read encoding body = .ok film ↔
      ∃ exact, Sends encoding body exact ∧
        (readPlain exact = .ok film ∨ encoding = .form ∧ Replaced exact film) := by
  constructor
  · intro hread
    obtain ⟨exact, hsends⟩ := exists_sends hread
    refine ⟨exact, hsends, ?_⟩
    by_cases hkept : encoding ≠ .form ∨ Utf8.IsText exact
    · rw [← read_of_sends hsends hkept]
      exact .inl hread
    · obtain ⟨hform, hnoText⟩ := not_or.mp hkept
      cases hsends with
      | form hfirst hexact =>
        refine .inr ⟨rfl, hnoText, ?_⟩
        rw [← readForm_eq hfirst hexact]
        exact hread
      | plain | marked => exact absurd (by decide) hform
  · rintro ⟨exact, hsends, hread | ⟨rfl, hreplaced⟩⟩
    · rw [read_of_sends hsends (.inr (isText_of_read hread)), hread]
    · cases hsends with
      | form hfirst hexact => exact (readForm_eq hfirst hexact).trans hreplaced.shown

end Submission

/-! ## What is stored -/

namespace Service

open Submission Form

/-- What a request with a film sends, and how the film was read from it. -/
def Request.SendsFilm (request : Request) (film : Film) : Prop :=
  (request.method = .post ∨ request.method = .put) ∧
    ∃ exact, Sends (Encoding.detect request.contentType? request.body) request.body exact ∧
      (readPlain exact = .ok film ∨
        Encoding.detect request.contentType? request.body = .form ∧ Replaced exact film)

theorem Request.Brings.sendsFilm {request : Request} {film : Film} (h : request.Brings film) :
    request.SendsFilm film :=
  ⟨h.1, read_eq_ok_iff_sends.mp (read_eq_ok_iff.mpr h.2)⟩

/-- A film is read from the very bytes that a body sends, and stored so. The one exception are forms
whose bytes are no text: those bytes hold no film, but with marks in them they may be read and stored. -/
theorem films_are_exact_or_replaced (encoding : Encoding) (body : Bytes) (film : Film)
    (settings : Settings) (requests : List Request) :
    (read encoding body = .ok film ↔
        ∃ exact, Sends encoding body exact ∧
          (readPlain exact = .ok film ∨ encoding = .form ∧ Replaced exact film)) ∧
      (∀ exact, Sends encoding body exact →
        (∀ other, Sends encoding body other → other = exact) ∧
          (encoding ≠ .form ∨ Utf8.IsText exact → read encoding body = readPlain exact)) ∧
      (∀ exact, Replaced exact film →
        (∀ other, readPlain exact ≠ .ok other) ∧ film.Has '\uFFFD') ∧
      ∀ entry ∈ (catalogAfter settings requests).entries,
        ∃ request ∈ requests, request.SendsFilm entry.film := by
  refine ⟨read_eq_ok_iff_sends, ?_, ?_, ?_⟩
  · intro exact hsends
    exact ⟨fun other hother => hother.unique hsends, read_of_sends hsends⟩
  · intro exact hreplaced
    exact ⟨fun other => hreplaced.not_read, hreplaced.has_mark⟩
  · intro entry hentry
    rcases run_films hentry with ⟨old, hold, -⟩ | ⟨request, hrequest, hbrings⟩
    · cases hold
    · exact ⟨request, hrequest, hbrings.sendsFilm⟩

/-- The title is a byte that no text has. -/
def brokenObject : Bytes := titled [0xFF]

def brokenForm : Bytes := Utf8.encode "data=" ++ brokenObject

def brokenCreation : Request :=
  { method := .post
    target := Utf8.encode "/films"
    headers := [("content-type", Utf8.encode "application/x-www-form-urlencoded")]
    body := brokenForm }

theorem broken_text_is_stored :
    Sends .form brokenForm brokenObject ∧ (∀ film, readPlain brokenObject ≠ .ok film) ∧
      readForm brokenForm = .ok { title := "\uFFFD" } ∧
      (respond {} (freshCatalog {}) brokenCreation).1.status = .created ∧
        (respond {} (freshCatalog {}) brokenCreation).2.entries =
          [⟨⟨0⟩, { title := "\uFFFD" }⟩] := by
  have hfirst : FirstValue "data" brokenForm brokenObject := by
    refine ⟨[], Utf8.encode "data" ++ 0x3D :: brokenObject, [], _, by decide +kernel,
      by decide +kernel, .pair (by decide +kernel), by decide +kernel, nofun⟩
  have hexact : StandsFor brokenObject brokenObject := standsFor_iff.mpr (by decide +kernel)
  have hfault : (readPlain brokenObject).toOption = none := by decide +kernel
  have hplan : brokenCreation.plan = .create { title := "\uFFFD" } := by decide +kernel
  obtain ⟨htold, hentries⟩ := respond_create_fresh {} hplan (by decide)
  refine ⟨.form hfirst hexact, ?_, ?_, ?_, hentries⟩
  · intro film hread
    rw [hread] at hfault
    cases hfault
  · rw [readForm_eq hfirst hexact]
    exact readPlain_of_toOption (by decide +kernel)
  · rw [htold]
    rfl

end Service

end FilmCatalog
