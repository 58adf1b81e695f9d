import FilmCatalog.FilmId.Lemmas
import FilmCatalog.Proofs.Runs
import FilmCatalog.Service

/-!
# Requests as commands

A request asks the catalog one thing at most. So the catalog of a service is the catalog of the
commands in its requests, and the settings have no part in it but the capacity.
-/

namespace FilmCatalog.Service

open Catalog (Command Answer Step step_perform)

/-! ## What a request can ask for -/

namespace Request

def route? (request : Request) : Option Route := Route.ofPath? (Target.ofBytes request.target).path

/-- The path ends in a segment that spells the number of a film. -/
def Names (request : Request) (id : FilmId) : Prop :=
  ∃ segment, request.route? = some (.film segment) ∧ segmentText? segment = some id.text

/-- Only looks at what is stored. -/
def Looks (request : Request) : Prop := request.method = .get ∨ request.method = .head

/-- All plans that a request can have, and when it has them. -/
inductive Asks (request : Request) : Plan → Prop
  | preflight (hmethod : request.method = .options) :
    Asks request (.settled (.preflight request.route?))
  | unknownPath (hroute : request.route? = none) : Asks request (.settled .unknownPath)
  | wrongMethod {route : Route} (hroute : request.route? = some route) :
    Asks request (.settled (.wrongMethod route))
  | viewTwice (hroute : request.route? = some .films) : Asks request (.settled .viewTwice)
  | notText {segment : Bytes} (hroute : request.route? = some (.film segment))
      (htext : segmentText? segment = none) : Asks request (.settled .segmentNotText)
  | notNumber {segment : Bytes} {text : String} (hroute : request.route? = some (.film segment))
      (htext : segmentText? segment = some text) (hnumber : FilmId.ofText? text = none) :
    Asks request (.settled (.refused (.notFound text)))
  | notFilm {refusal : Refusal} (hmethod : request.method = .post ∨ request.method = .put)
      (hfilm : request.film = .error refusal) : Asks request (.settled (.refused refusal))
  | health (hroute : request.route? = some .health) (hlooks : request.Looks) :
    Asks request .health
  | list (hroute : request.route? = some .films) (hlooks : request.Looks) (view : View) :
    Asks request (.list view)
  | create {film : Film} (hroute : request.route? = some .films) (hmethod : request.method = .post)
      (hfilm : request.film = .ok film) : Asks request (.create film)
  | clear (hroute : request.route? = some .films) (hmethod : request.method = .delete) :
    Asks request .clear
  | read {id : FilmId} (hnames : request.Names id) (hlooks : request.Looks) :
    Asks request (.read id)
  | replace {id : FilmId} {film : Film} (hnames : request.Names id) (hmethod : request.method = .put)
      (hfilm : request.film = .ok film) : Asks request (.replace id film)
  | delete {id : FilmId} (hnames : request.Names id) (hmethod : request.method = .delete) :
    Asks request (.delete id)

variable {request : Request} {segment : Bytes}

theorem asks_planWith (hmethod : request.method = .post ∨ request.method = .put)
    {plan : Film → Plan} (h : ∀ film, request.film = .ok film → Asks request (plan film)) :
    Asks request (request.planWith plan) := by
  unfold planWith
  cases hfilm : request.film with
  | ok film => exact h film hfilm
  | error refusal => exact .notFilm hmethod hfilm

theorem asks_planAt (hroute : request.route? = some (.film segment)) {plan : String → Plan}
    (h : ∀ text, segmentText? segment = some text → Asks request (plan text)) :
    Asks request (planAt segment plan) := by
  unfold planAt
  cases htext : segmentText? segment with
  | some text => exact h text htext
  | none => exact .notText hroute htext

theorem asks_planFor (hroute : request.route? = some (.film segment)) {text : String}
    (htext : segmentText? segment = some text) {plan : FilmId → Plan}
    (h : ∀ id, request.Names id → Asks request (plan id)) : Asks request (planFor text plan) := by
  unfold planFor FilmId.parse
  cases hid : FilmId.ofText? text with
  | some id =>
    rw [FilmId.ofText?_eq_some_iff] at hid
    exact h id ⟨segment, hroute, hid ▸ htext⟩
  | none => exact .notNumber hroute htext hid

theorem asks_view {query : Bytes} (hroute : request.route? = some .films) (hlooks : request.Looks) :
    Asks request (match view? query with
      | some view => .list view
      | none => .settled .viewTwice) := by
  cases view? query with
  | some view => exact .list hroute hlooks view
  | none => exact .viewTwice hroute

theorem asks_read (hroute : request.route? = some (.film segment)) (hlooks : request.Looks) :
    Asks request (planAt segment fun text => planFor text .read) := by
  refine asks_planAt hroute fun text htext => ?_
  exact asks_planFor hroute htext fun id hnames => .read hnames hlooks

theorem asks_planOn (query : Bytes) {route : Route} (hroute : request.route? = some route) :
    Asks request (request.planOn query route) := by
  unfold planOn
  split
  · exact .health hroute (.inl ‹_›)
  · exact .health hroute (.inr ‹_›)
  · exact asks_view hroute (.inl ‹_›)
  · exact asks_view hroute (.inr ‹_›)
  · rename_i hmethod
    exact asks_planWith (.inl hmethod) fun _ hfilm => .create hroute hmethod hfilm
  · rename_i hmethod
    exact .clear hroute hmethod
  · exact asks_read hroute (.inl ‹_›)
  · exact asks_read hroute (.inr ‹_›)
  · rename_i hmethod
    refine asks_planAt hroute fun text htext => asks_planWith (.inr hmethod) fun film hfilm => ?_
    exact asks_planFor hroute htext fun id hnames => .replace hnames hmethod hfilm
  · rename_i hmethod
    refine asks_planAt hroute fun text htext => ?_
    exact asks_planFor hroute htext fun id hnames => .delete hnames hmethod
  · exact .wrongMethod hroute

theorem plan_eq (request : Request) :
    request.plan =
      if request.method = .options then .settled (.preflight request.route?)
      else
        match request.route? with
        | none => .settled .unknownPath
        | some route => request.planOn (Target.ofBytes request.target).query route := rfl

theorem plan_on {route : Route} (hroute : request.route? = some route)
    (hmethod : request.method ≠ .options) :
    request.plan = request.planOn (Target.ofBytes request.target).query route := by
  rw [plan_eq, if_neg hmethod, hroute]

theorem asks_plan (request : Request) : Asks request request.plan := by
  rw [plan_eq]
  split
  · exact .preflight ‹_›
  · cases hroute : request.route? with
    | none => exact .unknownPath hroute
    | some route => exact asks_planOn _ hroute

theorem Names.unique {a b : FilmId} (ha : request.Names a) (hb : request.Names b) : a = b := by
  obtain ⟨segment, hroute, htext⟩ := ha
  obtain ⟨other, hother, hspelt⟩ := hb
  rw [hroute] at hother
  injection hother with hother
  injection hother with hother
  rw [← hother, htext] at hspelt
  exact FilmId.text_inj (Option.some.inj hspelt)

theorem planAt_text {text : String} (htext : segmentText? segment = some text) (plan : String → Plan) :
    planAt segment plan = plan text := by
  unfold planAt
  rw [htext]

theorem planFor_text (id : FilmId) (plan : FilmId → Plan) : planFor id.text plan = plan id := by
  unfold planFor FilmId.parse
  rw [FilmId.ofText?_eq_some_iff.mpr rfl]

theorem plan_get {id : FilmId} (hmethod : request.method = .get) (hnames : request.Names id) :
    request.plan = .read id := by
  obtain ⟨segment, hroute, htext⟩ := hnames
  rw [plan_on hroute (by simp [hmethod])]
  simp only [planOn, hmethod]
  rw [planAt_text htext, planFor_text]

theorem plan_removal (hmethod : request.method = .delete)
    (hroute : request.route? = some (.film segment)) :
    request.plan = planAt segment fun text => planFor text .delete := by
  rw [plan_on hroute (by simp [hmethod])]
  simp only [planOn, hmethod]

theorem plan_delete {id : FilmId} (hmethod : request.method = .delete) (hnames : request.Names id) :
    request.plan = .delete id := by
  obtain ⟨segment, hroute, htext⟩ := hnames
  rw [plan_removal hmethod hroute, planAt_text htext, planFor_text]

theorem plan_put {id : FilmId} {film : Film} (hmethod : request.method = .put)
    (hnames : request.Names id) (hfilm : request.film = .ok film) :
    request.plan = .replace id film := by
  obtain ⟨segment, hroute, htext⟩ := hnames
  rw [plan_on hroute (by simp [hmethod])]
  simp only [planOn, hmethod, planWith, hfilm]
  rw [planAt_text htext, planFor_text]

end Request

/-! ## The path of a film -/

/-- What stands behind the base in the address of a film. -/
def filmPath (id : FilmId) : String := "/films/" ++ Decimal.text id.number.toNat

theorem item_eq (address : Address) (id : FilmId) : address.item id = address.base ++ filmPath id := by
  have hfolder : "/films" ++ "/" = "/films/" := rfl
  unfold Address.item Address.collectionPath filmPath FilmId.text
  rw [← hfolder]
  simp only [String.append_assoc]

theorem segmentText?_encode_text (id : FilmId) :
    segmentText? (Utf8.encode id.text) = some id.text := by
  have hpercent : 0x25 ∉ Utf8.encode id.text := fun hmem =>
    absurd (FilmId.isDigit_of_mem_encode_text hmem) (by decide)
  unfold segmentText?
  rw [Percent.unescape_eq_self hpercent, Utf8.decode?_encode]

theorem ofPath?_filmsFolder {segment : Bytes} (hne : segment ≠ []) (hslash : 0x2F ∉ segment) :
    Route.ofPath? (Route.filmsFolder ++ segment) = some (.film segment) := by
  have hfolder : Route.filmsFolder = [47, 102, 105, 108, 109, 115, 47] := by decide
  have hhealth : Utf8.encode "/health" = [47, 104, 101, 97, 108, 116, 104] := by decide
  have hfilms : Utf8.encode Address.collectionPath = [47, 102, 105, 108, 109, 115] := by decide
  unfold Route.ofPath?
  rw [hhealth, hfilms, hfolder]
  simp [hne, hslash]

theorem names_of_path {request : Request} {id : FilmId}
    (hpath : (Target.ofBytes request.target).path = Utf8.encode (filmPath id)) :
    request.Names id := by
  have hslash : 0x2F ∉ Utf8.encode id.text := fun hmem =>
    absurd (FilmId.isDigit_of_mem_encode_text hmem) (by decide)
  refine ⟨Utf8.encode id.text, ?_, segmentText?_encode_text id⟩
  unfold filmPath at hpath
  unfold Request.route?
  rw [hpath, Utf8.encode_append]
  exact ofPath?_filmsFolder id.encode_text_ne_nil hslash

/-! ## What a plan asks of the catalog -/

namespace Plan

/-- The command of a plan. A settled one has none. -/
def command? : Plan → Option Command
  | .settled _ => none
  | .health => some .size
  | .list _ => some .list
  | .create film => some (.create film)
  | .clear => some .clear
  | .read id => some (.get id)
  | .replace id film => some (.update id film)
  | .delete id => some (.delete id)

/-- What comes of a plan when the catalog has answered. -/
def outcome : Plan → Answer → Outcome
  | .settled outcome, _ => outcome
  | _, .refused refusal => .refused refusal
  | .health, .size count => .healthy count
  | .list view, .listing entries => .listed view entries
  | .create film, .created id => .created { id, film }
  | .read id, .film film => .shown { id, film }
  | .replace id film, .done => .shown { id, film }
  | _, _ => .done

theorem perform_eq (plan : Plan) (catalog : Catalog) :
    plan.perform catalog =
      match plan.command? with
      | some command =>
        (plan.outcome (catalog.perform command).1, (catalog.perform command).2)
      | none => (plan.outcome .done, catalog) := by
  cases plan with
  | create film =>
    simp only [perform, command?, Catalog.perform_create]
    cases catalog.create film <;> rfl
  | read id =>
    simp only [perform, command?, Catalog.perform_get]
    cases catalog.get id <;> rfl
  | replace id film =>
    simp only [perform, command?, Catalog.perform_update]
    cases catalog.update id film <;> rfl
  | delete id =>
    simp only [perform, command?, Catalog.perform_delete]
    cases catalog.delete id <;> rfl
  | settled | health | list | clear => rfl

/-- All that a plan can lead to: its outcome, and the catalog that it leaves. -/
inductive Leads (catalog : Catalog) : Plan → Outcome → Catalog → Prop
  | settled (outcome : Outcome) : Leads catalog (.settled outcome) outcome catalog
  | refused {plan : Plan} (refusal : Refusal) : Leads catalog plan (.refused refusal) catalog
  | counted : Leads catalog .health (.healthy catalog.size) catalog
  | listed (view : View) : Leads catalog (.list view) (.listed view catalog.entries) catalog
  | created {film : Film} {id : FilmId} {next : Catalog}
      (hstep : Step catalog (.create film) (.created id) next) :
    Leads catalog (.create film) (.created { id, film }) next
  | cleared : Leads catalog .clear .done catalog.clear
  | found {id : FilmId} {film : Film} (hfound : catalog.find? id = some film) :
    Leads catalog (.read id) (.shown { id, film }) catalog
  | replaced {id : FilmId} {film : Film} {next : Catalog}
      (hstep : Step catalog (.update id film) .done next) :
    Leads catalog (.replace id film) (.shown { id, film }) next
  | deleted {id : FilmId} {next : Catalog} (hstep : Step catalog (.delete id) .done next) :
    Leads catalog (.delete id) .done next

theorem leads_of_step {plan : Plan} {catalog next : Catalog} {command : Command} {answer : Answer}
    (hcommand : plan.command? = some command) (hstep : Step catalog command answer next) :
    Leads catalog plan (plan.outcome answer) next := by
  cases plan with
  | settled outcome => cases hcommand
  | health =>
    cases hcommand
    cases hstep with
    | refused refusal => exact .refused refusal
    | counted => exact .counted
  | list view =>
    cases hcommand
    cases hstep with
    | refused refusal => exact .refused refusal
    | listed => exact .listed view
  | create film =>
    cases hcommand
    cases hstep with
    | refused refusal => exact .refused refusal
    | created hfresh hfree => exact .created (.created hfresh hfree)
  | clear =>
    cases hcommand
    cases hstep with
    | refused refusal => exact .refused refusal
    | cleared => exact .cleared
  | read id =>
    cases hcommand
    cases hstep with
    | refused refusal => exact .refused refusal
    | got hfound => exact .found hfound
  | replace id film =>
    cases hcommand
    cases hstep with
    | refused refusal => exact .refused refusal
    | kept hown => exact .replaced (.kept hown)
    | replaced hfound hfresh => exact .replaced (.replaced hfound hfresh)
  | delete id =>
    cases hcommand
    cases hstep with
    | refused refusal => exact .refused refusal
    | deleted hfound => exact .deleted (.deleted hfound)

theorem leads_perform (plan : Plan) (catalog : Catalog) :
    Leads catalog plan (plan.perform catalog).1 (plan.perform catalog).2 := by
  rw [plan.perform_eq]
  cases hcommand : plan.command? with
  | some command => exact leads_of_step hcommand (step_perform catalog command)
  | none =>
    cases plan with
    | settled outcome => exact .settled outcome
    | _ => cases hcommand

end Plan

/-! ## Runs -/

/-- The commands in some requests. -/
def asked (requests : List Request) : List Command := requests.filterMap (·.plan.command?)

/-- The catalog of a service after some requests. -/
def catalogAfter (settings : Settings) (requests : List Request) : Catalog :=
  (run settings (freshCatalog settings) requests).2

/-- How many films some requests store. -/
def filmsStored (settings : Settings) (requests : List Request) : Nat :=
  Catalog.creations (Catalog.answers settings.capacity (asked requests))

variable (settings : Settings) {catalog : Catalog}

theorem perform_create_fresh (film : Film) (hroom : 0 < settings.capacity) :
    ∃ next, (Plan.create film).perform (freshCatalog settings) = (.created ⟨⟨0⟩, film⟩, next) ∧
      next.entries = [⟨⟨0⟩, film⟩] := by
  obtain ⟨next, hmade, hentries⟩ : ∃ next,
      (freshCatalog settings).create film = .ok (⟨0⟩, next) ∧ next.entries = [⟨⟨0⟩, film⟩] := by
    refine ⟨_, Catalog.create_eq_ok_iff.mpr ⟨?_, hroom, rfl, rfl⟩, rfl⟩
    simp [freshCatalog, Catalog.empty]
  refine ⟨next, ?_, hentries⟩
  rw [Plan.perform, hmade]
  rfl

theorem run_cons (request : Request) (requests : List Request) :
    run settings catalog (request :: requests) =
      ((respond settings catalog request).1 ::
          (run settings (respond settings catalog request).2 requests).1,
        (run settings (respond settings catalog request).2 requests).2) := rfl

theorem run_append (before after : List Request) :
    run settings catalog (before ++ after) =
      ((run settings catalog before).1 ++ (run settings (run settings catalog before).2 after).1,
        (run settings (run settings catalog before).2 after).2) := by
  induction before generalizing catalog with
  | nil => rfl
  | cons request before ih =>
    rw [List.cons_append, run, run]
    simp only [ih, List.cons_append]

theorem respond_eq (catalog : Catalog) (request : Request) :
    respond settings catalog request =
      (finish settings request ((request.plan.perform catalog).1.reply (address settings request)),
        (request.plan.perform catalog).2) := rfl

/-- The first creation that a service with room is asked for. -/
theorem respond_create_fresh {request : Request} {film : Film} (hplan : request.plan = .create film)
    (hroom : 0 < settings.capacity) :
    (respond settings (freshCatalog settings) request).1 =
        finish settings request
          ((Outcome.created ⟨⟨0⟩, film⟩).reply (address settings request)) ∧
      (respond settings (freshCatalog settings) request).2.entries = [⟨⟨0⟩, film⟩] := by
  obtain ⟨next, hperform, hentries⟩ := perform_create_fresh settings film hroom
  rw [respond_eq, hplan, hperform]
  exact ⟨rfl, hentries⟩

theorem respond_catalog (request : Request) :
    (respond settings catalog request).2 = (catalog.run request.plan.command?.toList).2 := by
  rw [respond_eq, Plan.perform_eq]
  cases request.plan.command? <;> rfl

theorem asked_cons (request : Request) (requests : List Request) :
    asked (request :: requests) = request.plan.command?.toList ++ asked requests := by
  unfold asked
  rw [List.filterMap_cons]
  cases request.plan.command? <;> rfl

theorem run_catalog (requests : List Request) :
    (run settings catalog requests).2 = (catalog.run (asked requests)).2 := by
  induction requests generalizing catalog with
  | nil => rfl
  | cons request requests ih =>
    rw [asked_cons, Catalog.run_append, ← respond_catalog settings, ← ih]
    rfl

theorem catalogAfter_eq (requests : List Request) :
    catalogAfter settings requests = Catalog.reached settings.capacity (asked requests) :=
  run_catalog settings requests

theorem asked_append (before after : List Request) :
    asked (before ++ after) = asked before ++ asked after :=
  List.filterMap_append

theorem few_of_append {before after : List Request}
    (hfew : filmsStored settings (before ++ after) < UInt64.size) :
    filmsStored settings before < UInt64.size := by
  unfold filmsStored at *
  rw [asked_append] at hfew
  exact Catalog.few_of_append settings.capacity hfew

theorem filmsStored_le (requests : List Request) :
    filmsStored settings requests ≤ requests.length :=
  Nat.le_trans (Catalog.creations_answers_le settings.capacity (asked requests))
    (List.length_filterMap_le _ _)

theorem catalogAfter_consistent {requests : List Request}
    (hfew : filmsStored settings requests < UInt64.size) :
    Catalog.Consistent (catalogAfter settings requests) := by
  rw [catalogAfter_eq]
  exact Catalog.reached_consistent settings.capacity (asked requests) hfew

theorem catalogAfter_capacity {requests : List Request}
    (hfew : filmsStored settings requests < UInt64.size) :
    (catalogAfter settings requests).capacity = settings.capacity := by
  rw [catalogAfter_eq]
  exact (Catalog.reached_keeps settings.capacity (asked requests) hfew).2.1

theorem catalogAfter_append (before after : List Request) :
    catalogAfter settings (before ++ after) =
      (run settings (catalogAfter settings before) after).2 := by
  unfold catalogAfter
  rw [run_append]

end FilmCatalog.Service
