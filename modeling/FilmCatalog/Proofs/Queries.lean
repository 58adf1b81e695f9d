import FilmCatalog.Proofs.Cuts
import FilmCatalog.Proofs.Forms
import FilmCatalog.Proofs.Listings
import FilmCatalog.Proofs.Numbering

/-!
# Listings and their queries

A query is a form, and what it says of the view is read leniently. The one thing that makes a listing fail is
to ask for a view twice.
-/

namespace FilmCatalog

/-! ## Values of a form -/

namespace Form

variable {name : String} {form : Bytes} {parts values : List Bytes}

theorem yields_iff : Yields name parts values ↔ parts.filterMap (valueOf? name) = values := by
  constructor
  · intro h
    induction h with
    | nil => rfl
    | value hpart hname _ ih =>
      rw [List.filterMap_cons, valueOf?_eq_some_iff.mpr ⟨_, hpart, hname⟩, ih]
    | other hother _ ih => rw [List.filterMap_cons, valueOf?_eq_none_iff.mpr hother, ih]
  · rintro rfl
    induction parts with
    | nil => exact .nil
    | cons part parts ih =>
      rw [List.filterMap_cons]
      cases hvalue : valueOf? name part with
      | none => exact .other (valueOf?_eq_none_iff.mp hvalue) ih
      | some value =>
        obtain ⟨spelt, hpart, hname⟩ := valueOf?_eq_some_iff.mp hvalue
        exact .value hpart hname ih

/-- A form has its values under a name, and no others. -/
theorem values_iff : Values name form values ↔ rawValues name form = values := by
  rw [rawValues_eq]
  constructor
  · rintro ⟨parts, hne, rfl, hparts, hyields⟩
    rw [List.splitOn_intercalate _ hparts hne]
    exact yields_iff.mp hyields
  · intro h
    exact ⟨form.splitOn 0x26, List.splitOn_ne_nil _ _, (List.intercalate_splitOn _).symm,
      fun part => not_mem_of_mem_splitOn, yields_iff.mpr h⟩

end Form

/-! ## Compact views -/

namespace View

/-- The word `compact` in letters of any case, with blanks around it. -/
def MeansCompact (text : String) : Prop :=
  ∃ before word after : List Char, (∀ c ∈ before, Blank.isBlank c) ∧ (∀ c ∈ after, Blank.isBlank c) ∧
    word.map Char.toLower = "compact".toList ∧ text.toList = before ++ word ++ after

theorem ofValue_eq_compact_iff {text : String} : ofValue (some text) = .compact ↔ MeansCompact text := by
  have hletters : Ascii.sameLetters (Blank.trim text) "compact" ↔ MeansCompact text :=
    Blank.sameLetters_trim_iff (by decide) (by decide)
  rw [← hletters]
  unfold ofValue
  dsimp only
  split
  · exact iff_of_true rfl ‹_›
  · exact iff_of_false nofun ‹_›

end View

/-! ## Films in the order of their creation -/

namespace Catalog

variable {catalog next : Catalog} {command : Command} {answer : Answer}

/-- A command adds its film at the end, and moves no other one. -/
theorem Step.ids_sublist (h : Step catalog command answer next) :
    (next.entries.map (·.id)).Sublist
      ((catalog.entries ++ (Event.created? (command, answer)).toList).map (·.id)) := by
  have hfront : catalog.entries.Sublist (catalog.entries ++ (Event.created? (command, answer)).toList) :=
    List.sublist_append_left _ _
  cases h with
  | created hfresh hfree => exact .refl _
  | @replaced id film _ hfound hfresh =>
    have hids : (catalog.entries.map fun entry =>
        if entry.id = id then { entry with film } else entry).map (·.id) = catalog.entries.map (·.id) := by
      rw [List.map_map]
      refine List.map_congr_left fun entry _ => ?_
      dsimp only [Function.comp_apply]
      split <;> rfl
    exact hids ▸ hfront.map _
  | deleted hfound => exact (List.filter_sublist.trans hfront).map _
  | cleared | reset => exact List.nil_sublist _
  | refused | got | kept | listed | counted | tested | bounded => exact hfront.map _

theorem ids_reached_sublist (capacity : Nat) (commands : List Command) :
    ((reached capacity commands).entries.map (·.id)).Sublist
      ((additions (history capacity commands)).map (·.id)) := by
  induction commands using List.reverseRecOn with
  | nil => exact .slnil
  | append_singleton commands command ih =>
    have hstep := (step_perform (reached capacity commands) command).ids_sublist
    rw [reached_snoc, history_snoc, additions_snoc, List.map_append]
    rw [List.map_append] at hstep
    exact hstep.trans (ih.append_right _)

end Catalog

/-! ## Listings -/

namespace Service

variable {settings : Settings} {catalog : Catalog} {request : Request} {query : Bytes} {view : Option View}

/-- The view that a query wants, and none if it cannot be told. -/
inductive Wants (query : Bytes) : Option View → Prop
  | nothing (hvalues : Form.Values "view" query []) : Wants query (some .full)
  | compact {value : Bytes} (hvalues : Form.Values "view" query [value])
      (hcompact : View.MeansCompact (Form.text value)) : Wants query (some .compact)
  | other {value : Bytes} (hvalues : Form.Values "view" query [value])
      (hother : ¬ View.MeansCompact (Form.text value)) : Wants query (some .full)
  | twice {first second : Bytes} {later : List Bytes}
      (hvalues : Form.Values "view" query (first :: second :: later)) : Wants query none

theorem wants_view? (query : Bytes) : Wants query (view? query) := by
  unfold view?
  cases hvalues : Form.rawValues "view" query with
  | nil => exact .nothing (Form.values_iff.mpr hvalues)
  | cons value later =>
    cases later with
    | nil =>
      have hone := Form.values_iff.mpr hvalues
      dsimp only
      cases hview : View.ofValue (some (Form.text value)) with
      | compact => exact .compact hone (View.ofValue_eq_compact_iff.mp hview)
      | full =>
        refine .other hone fun hcompact => ?_
        rw [View.ofValue_eq_compact_iff.mpr hcompact] at hview
        cases hview
    | cons => exact .twice (Form.values_iff.mpr hvalues)

theorem wants_iff : Wants query view ↔ view? query = view := by
  constructor
  · intro h
    unfold view?
    cases h with
    | nothing hvalues =>
      rw [Form.values_iff.mp hvalues]
      rfl
    | compact hvalues hcompact =>
      rw [Form.values_iff.mp hvalues]
      exact congrArg some (View.ofValue_eq_compact_iff.mpr hcompact)
    | @other value hvalues hother =>
      rw [Form.values_iff.mp hvalues]
      cases hview : View.ofValue (some (Form.text value)) with
      | compact => exact absurd (View.ofValue_eq_compact_iff.mp hview) hother
      | full => simp only [hview]
    | twice hvalues => rw [Form.values_iff.mp hvalues]
  · rintro rfl
    exact wants_view? query

theorem plan_twice (hmethod : request.method = .get) (hpath : request.AtFilms)
    (htwice : view? (Target.ofBytes request.target).query = none) :
    request.plan = .settled .viewTwice := by
  rw [Request.plan_on (Request.route?_eq_films_iff.mpr hpath) (by simp [hmethod])]
  simp only [Request.planOn, hmethod, htwice]

theorem respond_twice (settings : Settings) (catalog : Catalog) (hmethod : request.method = .get)
    (hpath : request.AtFilms) (htwice : view? (Target.ofBytes request.target).query = none) :
    (respond settings catalog request).1.status.code = 400 ∧
      (respond settings catalog request).1.body =
        "Failed to deserialize query string: duplicate field `view`" ∧
      (respond settings catalog request).2 = catalog := by
  rw [respond_eq, plan_twice hmethod hpath htwice]
  exact ⟨congrArg Status.code (statusIn_unmarked rfl _), if_neg (by simp [hmethod]), rfl⟩

/-- Whatever the query says, all films are listed in the order of their creation, in full or with their titles and
addresses alone, unless the query names a view twice. Then nothing is listed, and the request counts as a bad
one. -/
theorem listings_answer_queries (settings : Settings) (requests : List Request)
    (hmethod : request.method = .get) (hpath : request.AtFilms) :
    let query := (Target.ofBytes request.target).query
    let catalog := catalogAfter settings requests
    let response := (respond settings catalog request).1
    let under := address settings request
    let listing (item : Entry → Datum) : Datum :=
      .object
        [("items", .list (catalog.entries.map item)), ("count", .number catalog.entries.length 0),
          ("href", .text (under.base ++ "/films"))]
    (∃ view, Wants query view) ∧
      (∀ view, Wants query (some view) →
        Answers settings catalog request
          (listingText (catalog.entries.map fun entry => view.item entry.film (under.item entry.id))
            catalog.entries.length under.collection)) ∧
      (Wants query (some .full) →
        Datum.read (Utf8.encode response.body) = some (listing fun entry =>
          .object
            [("title", .text entry.film.title), ("originalTitle", .text entry.film.originalTitle),
              ("productionYear", .text entry.film.productionYear), ("length", .text entry.film.length),
              ("director", .text entry.film.director), ("actors", .text entry.film.actors),
              ("href", .text (under.base ++ filmPath entry.id))])) ∧
      (Wants query (some .compact) →
        Datum.read (Utf8.encode response.body) = some (listing fun entry =>
          .object
            [("title", .text entry.film.title), ("href", .text (under.base ++ filmPath entry.id))])) ∧
      (Wants query none →
        response.status.code = 400 ∧
          response.body = "Failed to deserialize query string: duplicate field `view`") ∧
      (respond settings catalog request).2 = catalog ∧
      (catalog.entries.map (·.id)).Sublist ((added settings requests).map (·.id)) ∧
      ∀ id film, catalog.find? id = some film → ⟨id, film⟩ ∈ catalog.entries := by
  intro query catalog response under listing
  have hlists {view : View} (hwants : Wants query (some view)) : Lists settings under view request :=
    ⟨hmethod, hpath, wants_iff.mp hwants, rfl⟩
  refine ⟨⟨_, wants_view? query⟩, fun view hwants => answers_list (hlists hwants),
    fun hwants => read_list (hlists hwants), fun hwants => read_list (hlists hwants), ?_, ?_, ?_,
    fun _ _ => Catalog.mem_of_find?⟩
  · intro htwice
    obtain ⟨hstatus, hbody, -⟩ := respond_twice settings catalog hmethod hpath (wants_iff.mp htwice)
    exact ⟨hstatus, hbody⟩
  · cases hview : view? (Target.ofBytes request.target).query with
    | some view =>
      rw [respond_eq, (hlists (wants_iff.mpr hview)).plan]
      rfl
    | none => exact (respond_twice settings catalog hmethod hpath hview).2.2
  · unfold catalog added
    rw [catalogAfter_eq]
    exact Catalog.ids_reached_sublist _ _

theorem listings_answer_queries_sample :
    let catalog := catalogAfter sampleSettings [sampleCreation]
    let compact : Request := { target := Utf8.encode "/films?a%ZZ&&view=+c%4FMPACT%20" }
    let full : Request := { target := Utf8.encode "/films?View=compact&view" }
    compact.AtFilms ∧ full.AtFilms ∧
      Answers sampleSettings catalog compact
        (listingText [View.compact.item sampleFilm "http://films.test/films/0"] 1
          "http://films.test/films") ∧
      Datum.read (Utf8.encode (respond sampleSettings catalog full).1.body) =
        some (.object
          [("items", .list
              [.object
                [("title", .text "a"), ("originalTitle", .text ""), ("productionYear", .text ""),
                  ("length", .text ""), ("director", .text ""), ("actors", .text ""),
                  ("href", .text "http://films.test/films/0")]]),
            ("count", .number 1 0), ("href", .text "http://films.test/films")]) := by
  intro catalog compact full
  have hentries : catalog.entries = [⟨⟨0⟩, sampleFilm⟩] := entries_sampleCreation
  have hcompact : compact.AtFilms := Request.route?_eq_films_iff.mp (by decide)
  have hfull : full.AtFilms := Request.route?_eq_films_iff.mp (by decide)
  obtain ⟨-, hsmall, -⟩ :=
    listings_answer_queries sampleSettings [sampleCreation] (rfl : compact.method = .get) hcompact
  obtain ⟨-, -, hlarge, -⟩ :=
    listings_answer_queries sampleSettings [sampleCreation] (rfl : full.method = .get) hfull
  have hsmall := hsmall .compact (wants_iff.mpr (by decide))
  have hlarge := hlarge (wants_iff.mpr (by decide))
  rw [hentries] at hsmall hlarge
  exact ⟨hcompact, hfull, hsmall, hlarge⟩

/-- No film is stored and the views are the same, and yet the listing fails. -/
theorem view_twice_is_a_bad_request :
    let request : Request := { target := Utf8.encode "/films?view=full&view=full" }
    request.AtFilms ∧
      (respond sampleSettings (catalogAfter sampleSettings []) request).1.status.code = 400 := by
  intro request
  have hpath : request.AtFilms := Request.route?_eq_films_iff.mp (by decide)
  obtain ⟨hstatus, -⟩ := respond_twice sampleSettings (catalogAfter sampleSettings []) rfl hpath (by decide)
  exact ⟨hpath, hstatus⟩

end Service

end FilmCatalog
