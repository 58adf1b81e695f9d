import FilmCatalog.Proofs.Creations

/-!
# Requests that are sent twice

To send a request once more changes nothing more. The second response is the first one over again, but
for a film that was stored and for one that was removed: then it is a refusal.
-/

namespace FilmCatalog

/-! ## Changes that are made twice -/

namespace Catalog

variable {catalog next : Catalog} {id : FilmId} {film : Film}

/-- The copy is found before the room is looked at, so a catalog that has just become full tells the same. -/
theorem create_again (h : catalog.create film = .ok (id, next)) :
    next.create film = .error (.duplicate id) := by
  obtain ⟨-, -, -, rfl⟩ := create_eq_ok_iff.mp h
  unfold create
  dsimp only
  rw [Std.ExtHashMap.getElem?_insert_self]

theorem find?_replaced {entries : List Entry} {entry : Entry}
    (h : entries.find? (·.id == id) = some entry) :
    (entries.map fun entry => if entry.id = id then { entry with film } else entry).find? (·.id == id) =
      some ⟨id, film⟩ := by
  have hid : entry.id = id := by simpa using List.find?_some h
  have hsame : ((·.id == id) ∘ fun entry : Entry => if entry.id = id then { entry with film } else entry) =
      (·.id == id) := by
    funext other
    dsimp only [Function.comp]
    split <;> rfl
  rw [List.find?_map, hsame, h, Option.map_some, if_pos hid, hid]

theorem update_again (h : catalog.update id film = .ok next) : next.update id film = .ok next := by
  obtain ⟨previous, hfound, ⟨-, rfl⟩ | ⟨hfresh, rfl⟩⟩ := update_eq_ok_iff.mp h
  · exact h
  · obtain ⟨entry, hentry, -⟩ := Option.map_eq_some_iff.mp hfound
    refine update_eq_ok_iff.mpr ⟨film, ?_, .inl ⟨Std.ExtHashMap.getElem?_insert_self, rfl⟩⟩
    unfold find?
    rw [find?_replaced hentry]
    rfl

theorem delete_again (h : catalog.delete id = .ok next) : next.delete id = .error (.noSuchFilm id) := by
  obtain ⟨removed, -, rfl⟩ := delete_eq_ok_iff.mp h
  have hgone : (catalog.entries.filter (·.id != id)).find? (·.id == id) = none := by
    simp [List.find?_eq_none]
  unfold delete find?
  rw [hgone]
  rfl

end Catalog

namespace Service

variable {settings : Settings} {catalog next : Catalog} {request : Request} {plan : Plan} {outcome : Outcome}

/-! ## Plans that are carried out twice -/

/-- What comes of a plan the second time. -/
def Plan.again : Plan → Outcome → Outcome
  | .create _, .created entry => .refused (.duplicate entry.id)
  | .delete id, .done => .refused (.noSuchFilm id)
  | _, outcome => outcome

theorem Plan.perform_again (plan : Plan) (catalog : Catalog) :
    plan.perform (plan.perform catalog).2 =
      (plan.again (plan.perform catalog).1, (plan.perform catalog).2) := by
  have hleads := plan.leads_perform catalog
  rcases hfirst : plan.perform catalog with ⟨outcome, next⟩
  rw [hfirst] at hleads
  dsimp only at hleads ⊢
  cases hleads with
  | settled | counted | listed | found => exact hfirst
  | refused refusal => cases plan <;> exact hfirst
  | cleared => rfl
  | created hstep =>
    cases hstep with
    | created hfresh hfree =>
      have hmade := Catalog.create_eq_ok_iff.mpr ⟨hfresh, hfree, rfl, rfl⟩
      rw [Plan.perform, Catalog.create_again hmade]
      rfl
  | replaced hstep =>
    cases hstep with
    | kept hown => exact hfirst
    | replaced hfound hfresh =>
      have hmade := Catalog.update_eq_ok_iff.mpr ⟨_, hfound, .inr ⟨hfresh, rfl⟩⟩
      rw [Plan.perform, Catalog.update_again hmade]
      rfl
  | deleted hstep =>
    cases hstep with
    | deleted hfound =>
      have hmade := Catalog.delete_eq_ok_iff.mpr ⟨_, hfound, rfl⟩
      rw [Plan.perform, Catalog.delete_again hmade]
      rfl

theorem Plan.again_eq_self (hcreate : ∀ entry, outcome ≠ .created entry)
    (hdelete : ∀ id, plan = .delete id → outcome ≠ .done) : plan.again outcome = outcome := by
  unfold Plan.again
  split
  · exact absurd rfl (hcreate _)
  · exact absurd rfl (hdelete _ rfl)
  · rfl

theorem respond_again (settings : Settings) (catalog : Catalog) (request : Request) :
    respond settings (respond settings catalog request).2 request =
      (finish settings request
        ((request.plan.again (request.plan.perform catalog).1).reply (address settings request)),
        (respond settings catalog request).2) := by
  rw [respond_eq, respond_eq, Plan.perform_again]

/-! ## Gains and losses -/

theorem gains_iff_told {entry : Entry} (hasks : request.Asks plan)
    (h : plan.Leads catalog outcome next) : Gains catalog next entry ↔ outcome = .created entry := by
  cases h with
  | settled outcome =>
    refine iff_of_false (not_gains_self catalog entry) ?_
    rintro rfl
    cases hasks
  | refused | counted | listed | found => simp [not_gains_self]
  | created hstep | replaced hstep | deleted hstep =>
    rw [gains_iff_created hstep]
    simp [Catalog.Event.created?]
  | cleared =>
    rw [gains_iff_created .cleared]
    simp [Catalog.Event.created?]

theorem again_created {entry : Entry} (hasks : request.Asks plan)
    (h : plan.Leads catalog (.created entry) next) :
    plan.again (.created entry) = .refused (.duplicate entry.id) := by
  cases hasks with
  | create => rfl
  | _ => cases h

/-- At the path of a film a removal succeeds only under a number. -/
theorem removal_done {segment : Bytes} (hmethod : request.method = .delete)
    (hpath : request.AtFilm segment) (hok : (respond settings catalog request).1.status = .ok) :
    ∃ id, request.Names id ∧ request.plan = .delete id ∧
      (request.plan.perform catalog).1 = .done := by
  have hroute := Request.route?_eq_film_iff.mpr hpath
  have hplan := Request.plan_removal hmethod hroute
  rw [respond_eq] at hok
  cases htext : segmentText? segment with
  | none =>
    rw [hplan, Request.planAt, htext] at hok
    have hbad := hok.symm.trans (statusIn_unmarked rfl settings.statusMode)
    cases hbad
  | some text =>
    rw [Request.planAt_text htext] at hplan
    cases hid : FilmId.ofText? text with
    | none =>
      rw [hplan, Request.planFor, FilmId.parse, hid] at hok
      exact absurd hok (statusIn_refusal (.notFound text) _).1
    | some id =>
      obtain rfl := FilmId.ofText?_eq_some_iff.mp hid
      rw [Request.planFor_text] at hplan
      refine ⟨id, ⟨segment, hroute, htext⟩, hplan, ?_⟩
      rw [hplan, Plan.perform] at hok ⊢
      cases hmade : catalog.delete id with
      | error refusal =>
        rw [hmade] at hok
        exact absurd hok (statusIn_refusal refusal _).1
      | ok made => rfl

theorem asks_delete {id : FilmId} (hasks : request.Asks (.delete id)) :
    request.method = .delete ∧ ∃ segment, request.AtFilm segment := by
  cases hasks with
  | delete hnames hmethod =>
    obtain ⟨segment, hroute, -⟩ := hnames
    exact ⟨hmethod, segment, Request.route?_eq_film_iff.mp hroute⟩

/-- In legacy mode a copy is told with the status of a missing film. -/
theorem carries_duplicate (settings : Settings) (hmethod : request.method ≠ .head) (id : FilmId) :
    Carries (finish settings request (Refusal.duplicate id).reply)
      (match settings.statusMode with | .legacy => 404 | .strict => 409) "DUPLICATE"
      ("Film already exists with id " ++ id.text) := by
  have hcarries := carries_finish settings hmethod (.duplicate id)
  cases hmode : settings.statusMode <;> rw [hmode] at hcarries <;> exact hcarries

/-- In every catalog a request that is sent twice does no more than once. The second response differs from the
first one only where a film was stored or a film was removed by its number, and then it refuses: it tells of a
copy of the stored film, or of no film with the number. -/
theorem retries_are_harmless (settings : Settings) (catalog : Catalog) (request : Request) :
    let first := respond settings catalog request
    let second := respond settings first.2 request
    second.2 = first.2 ∧
      (∀ entry, Gains catalog first.2 entry →
        request.method = .post ∧ request.AtFilms ∧
          Carries second.1 (match settings.statusMode with | .legacy => 404 | .strict => 409) "DUPLICATE"
            ("Film already exists with id " ++ entry.id.text)) ∧
      (∀ segment, request.method = .delete → request.AtFilm segment → first.1.status.code = 200 →
        ∃ id, request.Names id ∧
          Carries second.1 404 "NOT_FOUND" ("Film with id " ++ id.text ++ " not found")) ∧
      ((∀ entry, ¬ Gains catalog first.2 entry) →
        ¬ (request.method = .delete ∧ (∃ segment, request.AtFilm segment) ∧
          first.1.status.code = 200) →
        second.1 = first.1) := by
  intro first second
  have hsecond : second = _ := respond_again settings catalog request
  have hasks := request.asks_plan
  have hleads := request.plan.leads_perform catalog
  refine ⟨by rw [hsecond], ?_, ?_, ?_⟩
  · intro entry hgains
    have houtcome := (gains_iff_told hasks hleads).mp hgains
    rw [houtcome] at hleads hsecond
    obtain ⟨hmethod, hroute, -, -⟩ := leads_created hasks hleads
    rw [again_created hasks hleads] at hsecond
    refine ⟨hmethod, Request.route?_eq_films_iff.mp hroute, ?_⟩
    rw [hsecond]
    exact carries_duplicate settings (by simp [hmethod]) entry.id
  · intro segment hmethod hpath hok
    obtain ⟨id, hnames, hplan, hdone⟩ := removal_done hmethod hpath (Status.code_inj hok)
    rw [hdone, hplan] at hsecond
    refine ⟨id, hnames, ?_⟩
    rw [hsecond]
    exact carries_notFound settings (by simp [hmethod]) id.text
  · intro hkept hstays
    rw [hsecond]
    refine congrArg (fun outcome : Outcome => finish settings request (outcome.reply _)) ?_
    apply Plan.again_eq_self
    · intro entry houtcome
      exact hkept entry ((gains_iff_told hasks hleads).mpr houtcome)
    · intro id hplan hdone
      rw [hplan] at hasks
      obtain ⟨hmethod, hpath⟩ := asks_delete hasks
      refine hstays ⟨hmethod, hpath, ?_⟩
      show (respond settings catalog request).1.status.code = 200
      rw [respond_eq, hdone]
      exact congrArg Status.code (statusIn_unmarked rfl _)

end Service

end FilmCatalog
