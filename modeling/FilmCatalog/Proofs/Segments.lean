import FilmCatalog.Proofs.Characters
import FilmCatalog.Proofs.Numbering
import FilmCatalog.Proofs.StatusModes

/-!
# Segments that name films

To look at a film or to remove it succeeds where the segment unescapes to the text of a stored number.
Any other text is told back as one that names no film, and bytes that are no text are not looked at any
further.
-/

namespace FilmCatalog

namespace Catalog

variable {catalog : Catalog} {id : FilmId}

theorem delete_of_find? {film : Film} (h : catalog.find? id = some film) :
    ∃ next, catalog.delete id = .ok next ∧ next.entries = catalog.entries.filter (·.id != id) :=
  ⟨_, delete_eq_ok_iff.mpr ⟨film, h, rfl⟩, rfl⟩

end Catalog

namespace Service

variable {settings : Settings} {catalog : Catalog} {request : Request} {segment : Bytes} {text : String}

/-- Looks at the film of the segment, or removes it. -/
structure Request.PointsAt (request : Request) (segment : Bytes) : Prop where
  method : request.method = .get ∨ request.method = .delete
  path : request.AtFilm segment

/-! ## What the segment says -/

theorem segmentText?_eq_some_iff :
    segmentText? segment = some text ↔ Percent.unescape segment = Utf8.encode text :=
  Utf8.decode?_eq_some_iff

theorem segmentText?_eq_none_iff :
    segmentText? segment = none ↔ ¬ Utf8.IsText (Percent.unescape segment) := by
  unfold Utf8.IsText
  simp only [Option.eq_none_iff_forall_ne_some, Ne, segmentText?_eq_some_iff, not_exists]

namespace Request

theorem PointsAt.plan (h : request.PointsAt segment) :
    ∃ plan, request.plan = planAt segment fun text => planFor text plan := by
  have hroute := route?_eq_film_iff.mpr h.path
  rcases h.method with hget | hdelete
  · refine ⟨.read, ?_⟩
    rw [plan_on hroute (by simp [hget])]
    simp only [planOn, hget]
  · exact ⟨.delete, plan_removal hdelete hroute⟩

theorem PointsAt.not_head (h : request.PointsAt segment) : request.method ≠ .head := by
  rcases h.method with hmethod | hmethod <;> simp [hmethod]

end Request

/-! ## What is told -/

theorem respond_unreadable (settings : Settings) (catalog : Catalog) (h : request.PointsAt segment)
    (htext : segmentText? segment = none) :
    (respond settings catalog request).1.status.code = 400 ∧
      (respond settings catalog request).1.body = "Invalid URL: Invalid UTF-8 in `id`" ∧
      (∀ refusal, ¬ Tells (respond settings catalog request).1 refusal) ∧
      (respond settings catalog request).2 = catalog := by
  obtain ⟨plan, hplan⟩ := h.plan
  rw [respond_eq, hplan, Request.planAt, htext]
  refine ⟨congrArg Status.code (statusIn_unmarked rfl _), if_neg h.not_head, ?_, rfl⟩
  exact fun refusal htells => sentence_not_json _ _ htells.contentType

theorem respond_no_number (settings : Settings) (catalog : Catalog) (h : request.PointsAt segment)
    (htext : segmentText? segment = some text) (hnumber : FilmId.ofText? text = none) :
    Carries (respond settings catalog request).1 404 "NOT_FOUND" ("Film with id " ++ text ++ " not found") ∧
      (respond settings catalog request).2 = catalog := by
  obtain ⟨plan, hplan⟩ := h.plan
  rw [respond_eq, hplan, Request.planAt_text htext, Request.planFor, FilmId.parse, hnumber]
  exact ⟨carries_notFound settings h.not_head text, rfl⟩

theorem respond_stored (settings : Settings) {id : FilmId} {film : Film} (h : request.PointsAt segment)
    (htext : segmentText? segment = some id.text) (hfound : catalog.find? id = some film) :
    (respond settings catalog request).1.status.code = 200 ∧
      (request.method = .get → (respond settings catalog request).2 = catalog) ∧
      (request.method = .delete →
        (respond settings catalog request).2.entries = catalog.entries.filter (·.id != id)) := by
  have hnames : request.Names id := ⟨segment, Request.route?_eq_film_iff.mpr h.path, htext⟩
  rcases h.method with hget | hdelete
  · have hlook : catalog.get id = .ok film := by rw [Catalog.get, hfound]
    rw [respond_eq, Request.plan_get hget hnames, Plan.perform, hlook]
    exact ⟨congrArg Status.code (statusIn_unmarked rfl _), fun _ => rfl, by simp [hget]⟩
  · obtain ⟨next, hmade, hentries⟩ := Catalog.delete_of_find? hfound
    rw [respond_eq, Request.plan_delete hdelete hnames, Plan.perform, hmade]
    exact ⟨congrArg Status.code (statusIn_unmarked rfl _), by simp [hdelete], fun _ => hentries⟩

theorem respond_absent (settings : Settings) (h : request.PointsAt segment)
    (htext : Percent.unescape segment = Utf8.encode text)
    (habsent : ∀ entry ∈ catalog.entries, text ≠ entry.id.text) :
    Carries (respond settings catalog request).1 404 "NOT_FOUND" ("Film with id " ++ text ++ " not found") ∧
      (respond settings catalog request).2 = catalog := by
  have htext := segmentText?_eq_some_iff.mpr htext
  cases hnumber : FilmId.ofText? text with
  | none => exact respond_no_number settings catalog h htext hnumber
  | some id =>
    obtain rfl := FilmId.ofText?_eq_some_iff.mp hnumber
    have hmissing : catalog.find? id = none := by
      rw [Catalog.find?_eq_none_iff]
      rintro entry hmem rfl
      exact habsent entry hmem rfl
    refine respond_missing settings hmissing ⟨⟨segment, Request.route?_eq_film_iff.mpr h.path, htext⟩, ?_⟩
    exact h.method.imp_right .inl

theorem respond_present (settings : Settings) (h : request.PointsAt segment) {entry : Entry}
    (hmem : entry ∈ catalog.entries) (htext : Percent.unescape segment = Utf8.encode entry.id.text) :
    (respond settings catalog request).1.status.code = 200 ∧
      (request.method = .get → (respond settings catalog request).2 = catalog) ∧
      (request.method = .delete →
        (respond settings catalog request).2.entries = catalog.entries.filter (·.id != entry.id)) := by
  cases hfound : catalog.find? entry.id with
  | none => exact absurd rfl (Catalog.find?_eq_none_iff.mp hfound entry hmem)
  | some film => exact respond_stored settings h (segmentText?_eq_some_iff.mpr htext) hfound

/-- Whoever points at a film with a segment is told of success exactly if a stored film has the number that
the segment spells. Nothing is changed by any other segment. -/
theorem segments_name_films (settings : Settings) (requests : List Request)
    (h : request.PointsAt segment) :
    let catalog := catalogAfter settings requests
    let response := (respond settings catalog request).1
    let next := (respond settings catalog request).2
    (response.status.code = 200 ↔
        ∃ entry ∈ catalog.entries, Percent.unescape segment = Utf8.encode entry.id.text) ∧
      (∀ text, Percent.unescape segment = Utf8.encode text →
        (∀ entry ∈ catalog.entries, text ≠ entry.id.text) →
          Carries response 404 "NOT_FOUND" ("Film with id " ++ text ++ " not found") ∧ next = catalog) ∧
      (¬ Utf8.IsText (Percent.unescape segment) →
        response.status.code = 400 ∧ response.body = "Invalid URL: Invalid UTF-8 in `id`" ∧
          (∀ refusal, ¬ Tells response refusal) ∧ next = catalog) ∧
      (request.method = .get → next = catalog) ∧
      (request.method = .delete →
        next.entries = catalog.entries.filter fun entry =>
          Percent.unescape segment != Utf8.encode entry.id.text) := by
  intro catalog response next
  by_cases hstored : ∃ entry ∈ catalog.entries, Percent.unescape segment = Utf8.encode entry.id.text
  · obtain ⟨entry, hmem, hentry⟩ := hstored
    obtain ⟨hok, hget, hdelete⟩ := respond_present settings h hmem hentry
    refine ⟨iff_of_true hok ⟨entry, hmem, hentry⟩, ?_, ?_, hget, fun hmethod => ?_⟩
    · intro text htext habsent
      exact absurd (Utf8.encode_inj (htext.symm.trans hentry)) (habsent entry hmem)
    · exact fun hnone => absurd ⟨_, hentry⟩ hnone
    · refine (hdelete hmethod).trans (List.filter_congr fun other _ => ?_)
      rw [hentry, bne_comm, Bool.eq_iff_iff, bne_iff_ne, bne_iff_ne]
      exact not_congr ⟨fun hid => hid ▸ rfl, fun hsame => FilmId.text_inj (Utf8.encode_inj hsame)⟩
  · have hkept : (catalog.entries.filter fun entry =>
        Percent.unescape segment != Utf8.encode entry.id.text) = catalog.entries := by
      rw [List.filter_eq_self]
      exact fun entry hmem => bne_iff_ne.mpr fun hsame => hstored ⟨entry, hmem, hsame⟩
    by_cases hreadable : Utf8.IsText (Percent.unescape segment)
    · obtain ⟨text, htext⟩ := hreadable
      have habsent : ∀ entry ∈ catalog.entries, text ≠ entry.id.text :=
        fun entry hmem hsame => hstored ⟨entry, hmem, hsame ▸ htext⟩
      obtain ⟨hcarries, hnext⟩ : Carries response 404 _ _ ∧ next = catalog :=
        respond_absent settings h htext habsent
      refine ⟨iff_of_false (by simp [hcarries.status]) hstored, ?_, ?_, fun _ => hnext, ?_⟩
      · intro other hother _
        obtain rfl := Utf8.encode_inj (htext.symm.trans hother)
        exact ⟨hcarries, hnext⟩
      · exact fun hnone => absurd ⟨text, htext⟩ hnone
      · rw [hnext, hkept]
        exact fun _ => rfl
    · obtain ⟨hstatus, hbody, hjson, hnext⟩ := respond_unreadable settings catalog h
        (segmentText?_eq_none_iff.mpr hreadable)
      have hnext : next = catalog := hnext
      refine ⟨iff_of_false (by simp [response, hstatus]) hstored, ?_, ?_, fun _ => hnext, ?_⟩
      · exact fun text htext => absurd ⟨text, htext⟩ hreadable
      · exact fun _ => ⟨hstatus, hbody, hjson, hnext⟩
      · rw [hnext, hkept]
        exact fun _ => rfl

def sampleLook : Request := { target := Utf8.encode "/films/%30" }

def sampleSigned : Request := { method := .delete, target := Utf8.encode "/films/%2B0" }

theorem segments_name_films_sample :
    sampleLook.PointsAt (Utf8.encode "%30") ∧ sampleSigned.PointsAt (Utf8.encode "%2B0") ∧
      (respond sampleSettings (catalogAfter sampleSettings [sampleCreation]) sampleLook).1.status.code = 200 ∧
      Carries (respond sampleSettings (catalogAfter sampleSettings [sampleCreation]) sampleSigned).1
        404 "NOT_FOUND" "Film with id +0 not found" := by
  have hmem : (⟨⟨0⟩, sampleFilm⟩ : Entry) ∈ (catalogAfter sampleSettings [sampleCreation]).entries :=
    sampleCreation_stored.2
  have hothers : ∀ entry ∈ (catalogAfter sampleSettings [sampleCreation]).entries,
      "+0" ≠ entry.id.text := by
    intro entry hentry
    obtain rfl : entry = ⟨⟨0⟩, sampleFilm⟩ := List.mem_singleton.mp (entries_sampleCreation ▸ hentry)
    decide
  have hlook : sampleLook.PointsAt (Utf8.encode "%30") :=
    ⟨.inl rfl, Request.route?_eq_film_iff.mp (by decide)⟩
  have hsigned : sampleSigned.PointsAt (Utf8.encode "%2B0") :=
    ⟨.inr rfl, Request.route?_eq_film_iff.mp (by decide)⟩
  have hzero : Percent.unescape (Utf8.encode "%30") = Utf8.encode (FilmId.text ⟨0⟩) := by decide
  have hplus : Percent.unescape (Utf8.encode "%2B0") = Utf8.encode "+0" := by decide
  obtain ⟨hok, -⟩ := segments_name_films sampleSettings [sampleCreation] hlook
  obtain ⟨-, htold, -⟩ := segments_name_films sampleSettings [sampleCreation] hsigned
  have hfound := hok.mpr ⟨_, hmem, hzero⟩
  have hmissing := htold "+0" hplus hothers
  exact ⟨hlook, hsigned, hfound, hmissing.1⟩

/-- No film is stored, and yet it is not told that there is no such film. -/
theorem unreadable_segment_is_a_bad_request :
    let request : Request := { target := Utf8.encode "/films/%FF" }
    request.PointsAt (Utf8.encode "%FF") ∧
      ∀ mode,
        let catalog := catalogAfter (sampleSettings.inMode mode) []
        catalog.entries = [] ∧
          (respond (sampleSettings.inMode mode) catalog request).1.status.code = 400 ∧
          ∀ name, ¬ Tells (respond (sampleSettings.inMode mode) catalog request).1 (.notFound name) := by
  intro request
  have hpoints : request.PointsAt (Utf8.encode "%FF") :=
    ⟨.inl rfl, Request.route?_eq_film_iff.mp (by decide)⟩
  refine ⟨hpoints, fun mode => ?_⟩
  intro catalog
  obtain ⟨hstatus, -, hjson, -⟩ :=
    respond_unreadable (sampleSettings.inMode mode) catalog hpoints (by decide)
  exact ⟨rfl, hstatus, fun name => hjson (.notFound name)⟩

end Service

end FilmCatalog
