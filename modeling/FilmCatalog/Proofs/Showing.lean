import FilmCatalog.Proofs.Telling

/-!
# What a written film shows

A creation and a replacement answer with their own copy of the film, and a look at the film answers
with the stored one. Both show the same body until the film is replaced or removed.
-/

namespace FilmCatalog.Service

open Catalog (Consistent)

variable {settings : Settings} {catalog next : Catalog} {request : Request} {plan : Plan}

/-! ## Writes that succeed -/

theorem statusIn_created {address : Address} {outcome : Outcome} {mode : StatusMode}
    (h : (outcome.reply address).statusIn mode = .created) :
    ∃ entry, outcome = .created entry ∧ isHeaderText (address.item entry.id) := by
  cases outcome with
  | created entry =>
    refine ⟨entry, rfl, ?_⟩
    by_contra htext
    rw [Outcome.reply, createdReply, if_neg htext] at h
    cases mode <;> cases h
  | refused refusal => exact absurd h (statusIn_refusal refusal mode).2
  | _ => cases mode <;> cases h

theorem body_created (settings : Settings) (hmethod : request.method = .post) {under : Address}
    {entry : Entry} (htext : isHeaderText (under.item entry.id)) :
    (finish settings request (createdReply under entry)).body =
      (View.full.item entry.film (under.item entry.id)).write := by
  unfold finish createdReply
  rw [if_pos htext, hmethod]
  rfl

theorem location_created (settings : Settings) (request : Request) {under : Address} {entry : Entry}
    (htext : isHeaderText (under.item entry.id)) :
    (finish settings request (createdReply under entry)).headers.filter (·.1 = "location") =
      [("location", .text (under.item entry.id))] := by
  have horigin : (originHeaders settings request).filter (·.1 = "location") = [] := by
    unfold originHeaders
    rw [List.filter_map]
    simp
  have htracking : (trackingHeaders request).filter (·.1 = "location") = [] := by
    unfold trackingHeaders
    split <;> rfl
  unfold finish createdReply
  rw [if_pos htext]
  simp only [List.filter_append, horigin, htracking, List.append_nil]
  rfl

theorem leads_created {entry : Entry} (hasks : request.Asks plan)
    (h : plan.Leads catalog (.created entry) next) :
    request.method = .post ∧ request.route? = some .films ∧ request.film = .ok entry.film ∧
      next.entries = catalog.entries ++ [entry] := by
  cases hasks with
  | create hroute hmethod hfilm =>
    cases h with
    | created hstep =>
      cases hstep
      exact ⟨hmethod, hroute, hfilm, rfl⟩
  | _ => cases h

/-- A request is told that a film was created only after the film was stored. -/
theorem respond_created (h : (respond settings catalog request).1.status = .created) :
    request.method = .post ∧ request.route? = some .films ∧
      ∃ film id,
        request.film = .ok film ∧
        (respond settings catalog request).2.entries = catalog.entries ++ [⟨id, film⟩] ∧
        (respond settings catalog request).1.headers.filter (·.1 = "location") =
          [("location", .text ((address settings request).base ++ filmPath id))] ∧
        (respond settings catalog request).1.body =
          (View.full.item film ((address settings request).base ++ filmPath id)).write := by
  obtain ⟨⟨id, film⟩, houtcome, htext⟩ : ∃ entry,
      (request.plan.perform catalog).1 = .created entry ∧
        isHeaderText ((address settings request).item entry.id) := statusIn_created h
  have hleads := request.plan.leads_perform catalog
  rw [houtcome] at hleads
  obtain ⟨hmethod, hroute, hfilm, hentries⟩ := leads_created request.asks_plan hleads
  have hreply : (respond settings catalog request).1 =
      finish settings request (createdReply (address settings request) ⟨id, film⟩) := by
    rw [respond_eq, houtcome]
    rfl
  refine ⟨hmethod, hroute, film, id, hfilm, hentries, ?_, ?_⟩
  · rw [hreply, ← item_eq]
    exact location_created settings request htext
  · rw [hreply, ← item_eq]
    exact body_created settings hmethod htext

/-- A replacement that is answered with success has put its film under the number. -/
theorem leads_put_ok {id : FilmId} (hasks : request.Asks plan) {outcome : Outcome}
    (h : plan.Leads catalog outcome next) (hc : Consistent catalog) (hmethod : request.method = .put)
    (hnames : request.Names id) {under : Address} {mode : StatusMode}
    (hok : (outcome.reply under).statusIn mode = .ok) :
    ∃ film, request.film = .ok film ∧ outcome = .shown ⟨id, film⟩ ∧ ⟨id, film⟩ ∈ next.entries := by
  cases hasks with
  | @replace target film htarget _ hfilm =>
    obtain rfl := hnames.unique htarget
    cases h with
    | refused refusal => exact absurd hok (statusIn_refusal refusal mode).1
    | replaced hstep =>
      refine ⟨film, hfilm, rfl, ?_⟩
      cases hstep with
      | kept hown => exact (hc.index_iff film id).mp hown
      | replaced hfound hfresh =>
        have hmem := hc.find?_eq_some_iff.mp hfound
        exact (Consistent.mem_replace hmem).mpr (.inl ⟨rfl, rfl⟩)
  | preflight hoptions => simp [hmethod] at hoptions
  | health _ hlooks | list _ hlooks | read _ hlooks => simp [Request.Looks, hmethod] at hlooks
  | create _ hpost => simp [hmethod] at hpost
  | clear _ hdelete | delete _ hdelete => simp [hmethod] at hdelete
  | notNumber | notFilm =>
    cases h <;> exact absurd hok (statusIn_refusal _ mode).1
  | unknownPath | wrongMethod | viewTwice | notText =>
    cases h with
    | settled => cases mode <;> cases hok
    | refused refusal => exact absurd hok (statusIn_refusal refusal mode).1

theorem respond_put_ok {id : FilmId} (hc : Consistent catalog) (hmethod : request.method = .put)
    (hnames : request.Names id) (hok : (respond settings catalog request).1.status = .ok) :
    ∃ film, request.film = .ok film ∧ ⟨id, film⟩ ∈ (respond settings catalog request).2.entries ∧
      (respond settings catalog request).1.body =
        (View.full.item film ((address settings request).base ++ filmPath id)).write := by
  have hleads := request.plan.leads_perform catalog
  obtain ⟨film, hfilm, houtcome, hmem⟩ :=
    leads_put_ok request.asks_plan hleads hc hmethod hnames hok
  refine ⟨film, hfilm, hmem, ?_⟩
  rw [respond_eq, ← item_eq]
  unfold finish
  rw [houtcome, hmethod]
  rfl

/-! ## Requests that leave a film alone -/

/-- Clears the catalog, or has replaced or removed the film. -/
def Disturbs (id : FilmId) (request : Request) (response : Response) : Prop :=
  request.method = .delete ∧ request.route? = some .films ∨
    (request.method = .put ∨ request.method = .delete) ∧ request.Names id ∧ response.status = .ok

/-- None of the requests disturbs the film. -/
def Undisturbed (settings : Settings) (catalog : Catalog) (id : FilmId) (requests : List Request) :
    Prop :=
  ∀ exchange ∈ requests.zip (run settings catalog requests).1, ¬ Disturbs id exchange.1 exchange.2

theorem leads_keeps {entry : Entry} {outcome : Outcome} (h : plan.Leads catalog outcome next)
    (hmem : entry ∈ catalog.entries) (hclear : plan ≠ .clear)
    (hreplace : ∀ film, plan = .replace entry.id film → outcome ≠ .shown ⟨entry.id, film⟩)
    (hdelete : plan = .delete entry.id → outcome ≠ .done) : entry ∈ next.entries := by
  cases h with
  | created hstep =>
    cases hstep
    exact List.mem_append_left _ hmem
  | cleared => exact absurd rfl hclear
  | @replaced id film _ hstep =>
    cases hstep with
    | kept hown => exact hmem
    | replaced hfound hfresh =>
      refine List.mem_map.mpr ⟨entry, hmem, if_neg ?_⟩
      rintro rfl
      exact hreplace film rfl rfl
  | deleted hstep =>
    cases hstep
    refine List.mem_filter.mpr ⟨hmem, ?_⟩
    rw [bne_iff_ne]
    rintro rfl
    exact hdelete rfl rfl
  | settled | refused | counted | listed | found => exact hmem

theorem respond_keeps {entry : Entry} (hmem : entry ∈ catalog.entries)
    (hcalm : ¬ Disturbs entry.id request (respond settings catalog request).1) :
    entry ∈ (respond settings catalog request).2.entries := by
  have hasks := request.asks_plan
  rw [respond_eq] at hcalm ⊢
  apply leads_keeps (request.plan.leads_perform catalog) hmem
  · intro hplan
    rw [hplan] at hasks
    cases hasks with
    | clear hroute hmethod => exact hcalm (.inl ⟨hmethod, hroute⟩)
  · intro film hplan hshown
    rw [hplan] at hasks
    cases hasks with
    | replace hnames hmethod =>
      rw [hshown] at hcalm
      exact hcalm (.inr ⟨.inl hmethod, hnames, statusIn_unmarked rfl _⟩)
  · intro hplan hdone
    rw [hplan] at hasks
    cases hasks with
    | delete hnames hmethod =>
      rw [hdone] at hcalm
      exact hcalm (.inr ⟨.inr hmethod, hnames, statusIn_unmarked rfl _⟩)

theorem run_keeps {entry : Entry} {requests : List Request} (hmem : entry ∈ catalog.entries)
    (hcalm : Undisturbed settings catalog entry.id requests) :
    entry ∈ (run settings catalog requests).2.entries := by
  induction requests generalizing catalog with
  | nil => exact hmem
  | cons request requests ih =>
    unfold Undisturbed at hcalm
    rw [run, List.zip_cons_cons, List.forall_mem_cons] at hcalm
    exact ih (respond_keeps hmem hcalm.1) hcalm.2

/-! ## Looks at a film -/

/-- Every look at a film under the address is answered with the body. -/
def Shows (settings : Settings) (catalog : Catalog) (id : FilmId) (under : Address) (body : String) :
    Prop :=
  ∀ request : Request, request.method = .get →
    (Target.ofBytes request.target).path = Utf8.encode (filmPath id) →
    address settings request = under → Answers settings catalog request body

theorem respond_look {entry : Entry} (hc : Consistent catalog) (hmem : entry ∈ catalog.entries)
    (hmethod : request.method = .get) (hnames : request.Names entry.id) :
    Answers settings catalog request
      (View.full.item entry.film ((address settings request).item entry.id)).write := by
  have hfound : catalog.find? entry.id = some entry.film := hc.find?_eq_some_iff.mpr hmem
  apply answers_json hmethod
  rw [Request.plan_get hmethod hnames, Plan.perform, Catalog.get, hfound]
  rfl

theorem shows_of_mem {entry : Entry} (hc : Consistent catalog) (hmem : entry ∈ catalog.entries)
    (under : Address) :
    Shows settings catalog entry.id under
      (View.full.item entry.film (under.base ++ filmPath entry.id)).write := by
  intro request hmethod hpath haddress
  rw [← item_eq, ← haddress]
  exact respond_look hc hmem hmethod (names_of_path hpath)

/-- What a write has answered with is the film that was sent, with its address, and every look at the film shows
the same until the film is replaced or removed. -/
theorem written_film_keeps_showing (settings : Settings) (before : List Request) (write : Request)
    (between : List Request) (hfew : filmsStored settings (before ++ write :: between) < UInt64.size) :
    let start := catalogAfter settings before
    let written := (respond settings start write).1
    let next := (respond settings start write).2
    let last := (run settings next between).2
    let under := address settings write
    let full (film : Film) (href : String) : Datum :=
      .object
        [("title", .text film.title), ("originalTitle", .text film.originalTitle),
          ("productionYear", .text film.productionYear), ("length", .text film.length),
          ("director", .text film.director), ("actors", .text film.actors), ("href", .text href)]
    (written.status.code = 201 →
      write.method = .post ∧ write.route? = some .films ∧
      ∃ film id,
        write.film = .ok film ∧ next.entries = start.entries ++ [⟨id, film⟩] ∧
        written.headers.filter (·.1 = "location") =
          [("location", .text (under.base ++ filmPath id))] ∧
        Datum.read (Utf8.encode written.body) = some (full film (under.base ++ filmPath id)) ∧
        written.body = (View.full.item film (under.base ++ filmPath id)).write ∧
        (Undisturbed settings next id between → Shows settings last id under written.body)) ∧
    ∀ id, write.method = .put → write.Names id → written.status.code = 200 →
      (∃ film, write.film = .ok film ∧ ⟨id, film⟩ ∈ next.entries ∧
        Datum.read (Utf8.encode written.body) = some (full film (under.base ++ filmPath id))) ∧
      (Undisturbed settings next id between → Shows settings last id under written.body) := by
  intro start written next last under full
  have hread (film : Film) (href : String) :
      Datum.read (Utf8.encode (View.full.item film href).write) = some (full film href) :=
    View.read_item .full film href
  have hstart : Consistent start := catalogAfter_consistent settings (few_of_append settings hfew)
  have hlast : Consistent last := by
    have hwhole := catalogAfter_consistent settings hfew
    rw [catalogAfter_append] at hwhole
    exact hwhole
  constructor
  · intro hcreated
    obtain ⟨hmethod, hroute, film, id, hfilm, hentries, hlocation, hbody⟩ :=
      respond_created (Status.code_inj hcreated)
    refine ⟨hmethod, hroute, film, id, hfilm, hentries, hlocation, ?_, hbody, fun hcalm => ?_⟩
    · rw [hbody]
      exact hread film _
    · have hmem : ⟨id, film⟩ ∈ next.entries :=
        hentries ▸ List.mem_append_right _ (List.mem_singleton.mpr rfl)
      rw [hbody]
      exact shows_of_mem hlast (run_keeps hmem hcalm) under
  · intro id hmethod hnames hok
    obtain ⟨film, hfilm, hmem, hbody⟩ :=
      respond_put_ok hstart hmethod hnames (Status.code_inj hok)
    rw [hbody]
    refine ⟨⟨film, hfilm, hmem, hread film _⟩, fun hcalm => ?_⟩
    exact shows_of_mem hlast (run_keeps hmem hcalm) under

/-! ## An example -/

def sampleSettings : Settings := { publicBase := some "http://films.test" }

def sampleFilm : Film := { title := "a" }

def sampleCreation : Request :=
  { method := .post, target := Utf8.encode "/films", body := Utf8.encode sampleFilm.json.write }

def sampleReplacement : Request :=
  { method := .put, target := Utf8.encode "/films/0", body := sampleCreation.body }

/-- A look at all films, the same creation again, and writes to other films. -/
def sampleTraffic : List Request :=
  [{ target := Utf8.encode "/films" }, sampleCreation,
    { method := .put, target := Utf8.encode "/films/7", body := sampleCreation.body },
    { method := .delete, target := Utf8.encode "/films/5" }]

set_option maxRecDepth 10000 in
theorem plan_samples : sampleCreation.plan = .create sampleFilm ∧
    sampleReplacement.plan = .replace ⟨0⟩ sampleFilm := by decide +kernel

theorem respond_sampleCreation :
    (respond sampleSettings (freshCatalog sampleSettings) sampleCreation).1.status = .created ∧
      (respond sampleSettings (freshCatalog sampleSettings) sampleCreation).2.entries =
        [⟨⟨0⟩, sampleFilm⟩] := by
  obtain ⟨htold, hentries⟩ := respond_create_fresh sampleSettings plan_samples.1 (by decide)
  rw [htold]
  exact ⟨rfl, hentries⟩

theorem entries_sampleCreation :
    (catalogAfter sampleSettings [sampleCreation]).entries = [⟨⟨0⟩, sampleFilm⟩] :=
  respond_sampleCreation.2

theorem sampleCreation_stored :
    Consistent (catalogAfter sampleSettings [sampleCreation]) ∧
      ⟨⟨0⟩, sampleFilm⟩ ∈ (catalogAfter sampleSettings [sampleCreation]).entries :=
  ⟨catalogAfter_consistent _ (Nat.lt_of_le_of_lt (filmsStored_le _ _) (by decide)),
    entries_sampleCreation ▸ List.mem_singleton.mpr rfl⟩

theorem respond_sampleReplacement :
    (respond sampleSettings (catalogAfter sampleSettings [sampleCreation]) sampleReplacement).1.status =
      .ok := by
  obtain ⟨hc, hmem⟩ := sampleCreation_stored
  have hmade := Catalog.update_eq_ok_iff.mpr
    ⟨_, hc.find?_eq_some_iff.mpr hmem, .inl ⟨(hc.index_iff _ _).mpr hmem, rfl⟩⟩
  rw [respond_eq, plan_samples.2, Plan.perform, hmade]
  rfl

theorem undisturbed_sampleTraffic (catalog : Catalog) :
    Undisturbed sampleSettings catalog ⟨0⟩ sampleTraffic := by
  have hother {request : Request} (id : FilmId) (hid : id ≠ ⟨0⟩)
      (hpath : (Target.ofBytes request.target).path = Utf8.encode (filmPath id)) :
      ¬ request.Names ⟨0⟩ := fun hnames => hid ((names_of_path hpath).unique hnames)
  intro exchange hexchange hdisturbs
  have hrequest := (List.of_mem_zip hexchange).1
  unfold Disturbs at hdisturbs
  simp only [sampleTraffic, List.mem_cons, List.not_mem_nil, or_false] at hrequest
  rcases hrequest with hrequest | hrequest | hrequest | hrequest <;> rw [hrequest] at hdisturbs
  · simp at hdisturbs
  · simp [sampleCreation] at hdisturbs
  · rcases hdisturbs with ⟨hmethod, -⟩ | ⟨-, hnames, -⟩
    · cases hmethod
    · exact hother ⟨7⟩ (by decide) (by decide) hnames
  · rcases hdisturbs with ⟨-, hroute⟩ | ⟨-, hnames, -⟩
    · exact absurd hroute (by decide)
    · exact hother ⟨5⟩ (by decide) (by decide) hnames

theorem written_film_keeps_showing_sample :
    let created := (respond sampleSettings (freshCatalog sampleSettings) sampleCreation).1
    let replaced := (respond sampleSettings (catalogAfter sampleSettings [sampleCreation])
      sampleReplacement).1
    filmsStored sampleSettings (sampleCreation :: sampleTraffic) < UInt64.size ∧
      filmsStored sampleSettings (sampleCreation :: sampleReplacement :: sampleTraffic) < UInt64.size ∧
      Datum.read (Utf8.encode created.body) =
        some (.object
          [("title", .text "a"), ("originalTitle", .text ""), ("productionYear", .text ""),
            ("length", .text ""), ("director", .text ""), ("actors", .text ""),
            ("href", .text "http://films.test/films/0")]) ∧
      Shows sampleSettings (catalogAfter sampleSettings (sampleCreation :: sampleTraffic)) ⟨0⟩
        { base := "http://films.test" } created.body ∧
      Shows sampleSettings
        (catalogAfter sampleSettings (sampleCreation :: sampleReplacement :: sampleTraffic)) ⟨0⟩
        { base := "http://films.test" } replaced.body := by
  intro created replaced
  have hfew := Nat.lt_of_le_of_lt (filmsStored_le sampleSettings (sampleCreation :: sampleTraffic))
    (by decide : _ < UInt64.size)
  have hmore := Nat.lt_of_le_of_lt
    (filmsStored_le sampleSettings (sampleCreation :: sampleReplacement :: sampleTraffic))
    (by decide : _ < UInt64.size)
  obtain ⟨hcreated, hstored⟩ := respond_sampleCreation
  obtain ⟨-, -, film, id, -, hentries, -, hread, -, hshows⟩ :=
    (written_film_keeps_showing sampleSettings [] sampleCreation sampleTraffic hfew).1
      (congrArg Status.code hcreated)
  have hentry : [⟨⟨0⟩, sampleFilm⟩] = ([] : List Entry) ++ [⟨id, film⟩] :=
    hstored.symm.trans hentries
  injection hentry with hentry
  injection hentry with hid hfilm
  subst hid hfilm
  have hnames : sampleReplacement.Names ⟨0⟩ := names_of_path (by decide)
  have hreplaced := (written_film_keeps_showing sampleSettings [sampleCreation] sampleReplacement
    sampleTraffic hmore).2 ⟨0⟩ rfl hnames (congrArg Status.code respond_sampleReplacement)
  exact ⟨hfew, hmore, hread, hshows (undisturbed_sampleTraffic _),
    hreplaced.2 (undisturbed_sampleTraffic _)⟩

end FilmCatalog.Service
