import FilmCatalog.Proofs.Telling

/-!
# One operation for each request

Method, path, content type and body choose what a request asks of the catalog. Query, other headers
and settings only have a part in what is told of it.
-/

namespace FilmCatalog

/-! ## Operations -/

namespace Catalog

/-- Commands that may leave another catalog behind. -/
def Command.Changes : Command → Prop
  | .create _ | .update _ _ | .delete _ | .clear | .reset => True
  | .get _ | .list | .size | .isEmpty | .capacity => False

theorem perform_of_not_changes (catalog : Catalog) {command : Command} (h : ¬ command.Changes) :
    (catalog.perform command).2 = catalog := by
  cases command with
  | create | update | delete | clear | reset => exact absurd trivial h
  | get id =>
    rw [perform_get]
    cases catalog.get id <;> rfl
  | list | size | isEmpty | capacity => rfl

/-- The answer to one command or none, and the catalog after it. -/
def performAny (catalog : Catalog) : Option Command → Option Answer × Catalog
  | some command => (some (catalog.perform command).1, (catalog.perform command).2)
  | none => (none, catalog)

end Catalog

namespace Service

open Catalog (Command Answer)

/-- The film in a body, under the first value of its content type. -/
def filmIn? (contentType : Option Bytes) (body : Bytes) : Option Film :=
  (Submission.receive (contentType.bind plainText?) body).toOption

/-- The number that a segment spells. -/
def idIn? (segment : Bytes) : Option FilmId := (segmentText? segment).bind FilmId.ofText?

/-- What is asked for at a known place, where the body may hold a film. A listing is asked for even
where the query is bad and nothing of the listing is told. -/
def Route.operation? (route : Route) (method : Method) (film : Option Film) : Option Command :=
  match route, method with
  | .health, .get | .health, .head => some .size
  | .films, .get | .films, .head => some .list
  | .films, .post => film.map .create
  | .films, .delete => some .clear
  | .film segment, .get | .film segment, .head => (idIn? segment).map .get
  | .film segment, .put => (idIn? segment).bind fun id => film.map (.update id)
  | .film segment, .delete => (idIn? segment).map .delete
  | _, _ => none

/-- What is asked of the catalog. -/
def operation? (method : Method) (path : Bytes) (contentType : Option Bytes) (body : Bytes) :
    Option Command :=
  (Route.ofPath? path).bind (·.operation? method (filmIn? contentType body))

namespace Request

/-- The path as it was sent. -/
def path (request : Request) : Bytes := (Target.ofBytes request.target).path

def AtFilms (request : Request) : Prop := request.path = Utf8.encode "/films"

def AtFilm (request : Request) (segment : Bytes) : Prop :=
  segment ≠ [] ∧ 0x2F ∉ segment ∧ request.path = Utf8.encode "/films/" ++ segment

def operation? (request : Request) : Option Command :=
  Service.operation? request.method request.path (request.header? "content-type") request.body

/-- The changes that requests order, and when they order them. -/
inductive Orders (request : Request) : Command → Prop
  | create {film : Film} (hmethod : request.method = .post) (hpath : request.AtFilms)
      (hfilm : request.Submits film) : Orders request (.create film)
  | clear (hmethod : request.method = .delete) (hpath : request.AtFilms) : Orders request .clear
  | update {segment : Bytes} {id : FilmId} {film : Film} (hmethod : request.method = .put)
      (hpath : request.AtFilm segment) (htext : segmentText? segment = some id.text)
      (hfilm : request.Submits film) : Orders request (.update id film)
  | delete {segment : Bytes} {id : FilmId} (hmethod : request.method = .delete)
      (hpath : request.AtFilm segment) (htext : segmentText? segment = some id.text) :
    Orders request (.delete id)

/-! ## Checks -/

/-- What is looked at before a change. -/
inductive Check
  | segment | bodySize | body | number
  deriving DecidableEq, Repr

/-- The checks before a change, in their order. -/
def checks (request : Request) : List Check :=
  match request.route?, request.method with
  | some .films, .post => [.bodySize, .body]
  | some (.film _), .put => [.segment, .bodySize, .body, .number]
  | some (.film _), .delete => [.segment, .number]
  | _, _ => []

/-- A check fails, and this is its outcome. -/
inductive Fails (request : Request) : Check → Outcome → Prop
  | segment {segment : Bytes} (hpath : request.AtFilm segment)
      (htext : segmentText? segment = none) : Fails request .segment .segmentNotText
  | bodySize (hsize : 2097152 < request.body.length) :
    Fails request .bodySize
      (.refused (.malformed "Failed to buffer the request body: length limit exceeded"))
  | body {fault : Submission.Fault}
      (hread : Submission.read (Encoding.detect request.contentType? request.body) request.body =
        .error fault) :
    Fails request .body (.refused (.malformed fault.message))
  | number {segment : Bytes} {text : String} (hpath : request.AtFilm segment)
      (htext : segmentText? segment = some text) (hnumber : ∀ id : FilmId, text ≠ id.text) :
    Fails request .number (.refused (.notFound text))

/-- The first of some checks that fails, and its outcome. -/
inductive FirstFails (request : Request) : List Check → Outcome → Prop
  | here {check : Check} {checks : List Check} {outcome : Outcome}
      (hfails : request.Fails check outcome) : FirstFails request (check :: checks) outcome
  | later {check : Check} {checks : List Check} {outcome : Outcome}
      (hpasses : ∀ outcome, ¬ request.Fails check outcome)
      (hlater : FirstFails request checks outcome) : FirstFails request (check :: checks) outcome

variable {request : Request} {segment : Bytes}

theorem FirstFails.fails {checks : List Check} {outcome : Outcome}
    (h : request.FirstFails checks outcome) : ∃ check, request.Fails check outcome := by
  induction h with
  | here hfails => exact ⟨_, hfails⟩
  | later _ _ ih => exact ih

/-! ## Paths -/

theorem route?_eq_films_iff : request.route? = some .films ↔ request.AtFilms := by
  have hne : Utf8.encode "/films" ≠ Utf8.encode "/health" := by decide
  unfold route? Route.ofPath? AtFilms path Address.collectionPath
  dsimp only
  constructor
  · intro h
    split_ifs at h with hhealth hfilms
    · cases h
    · exact hfilms
    · cases h
  · intro h
    rw [h, if_neg hne, if_pos rfl]

theorem route?_eq_film_iff : request.route? = some (.film segment) ↔ request.AtFilm segment := by
  have hfolder : Route.filmsFolder = Utf8.encode "/films/" := by decide
  constructor
  · intro h
    unfold route? Route.ofPath? at h
    dsimp only at h
    split_ifs at h with hhealth hfilms hfront hsegment
    · cases h
    · cases h
    · cases h
      obtain ⟨rest, hrest⟩ := List.isPrefixOf_iff_prefix.mp hfront
      rw [← hrest, List.drop_left] at hsegment ⊢
      exact ⟨hsegment.1, hsegment.2, by rw [path, ← hrest, hfolder]⟩
  · rintro ⟨hne, hslash, hpath⟩
    unfold path at hpath
    rw [route?, hpath, ← hfolder]
    exact ofPath?_filmsFolder hne hslash

/-! ## What is asked for -/

theorem filmIn?_eq_some_iff {film : Film} :
    filmIn? (request.header? "content-type") request.body = some film ↔ request.Submits film := by
  rw [← film_eq_ok_iff]
  unfold filmIn? Request.film contentType?
  cases Submission.receive ((request.header? "content-type").bind plainText?) request.body <;>
    simp [Except.toOption, Except.mapError]

theorem idIn?_eq_some_iff {id : FilmId} :
    idIn? segment = some id ↔ segmentText? segment = some id.text := by
  unfold idIn?
  simp only [Option.bind_eq_some_iff, FilmId.ofText?_eq_some_iff, exists_eq_right]

theorem operation?_eq (request : Request) :
    request.operation? =
      request.route?.bind
        (·.operation? request.method (filmIn? (request.header? "content-type") request.body)) := rfl

theorem command?_planWith (plan : Film → Plan) :
    (request.planWith plan).command? =
      (filmIn? (request.header? "content-type") request.body).bind fun film =>
        (plan film).command? := by
  unfold planWith Request.film filmIn? contentType?
  cases Submission.receive ((request.header? "content-type").bind plainText?) request.body <;> rfl

theorem command?_planFor (text : String) (plan : FilmId → Plan) :
    (planFor text plan).command? = (FilmId.ofText? text).bind fun id => (plan id).command? := by
  unfold planFor FilmId.parse
  cases FilmId.ofText? text <;> rfl

theorem command?_planAt (plan : String → Plan) :
    (planAt segment plan).command? =
      (segmentText? segment).bind fun text => (plan text).command? := by
  unfold planAt
  cases segmentText? segment <;> rfl

theorem command?_planOn (query : Bytes) (route : Route) :
    (request.planOn query route).command? =
        route.operation? request.method (filmIn? (request.header? "content-type") request.body) ∨
      request.planOn query route = .settled .viewTwice ∧
        route.operation? request.method (filmIn? (request.header? "content-type") request.body) =
          some .list := by
  unfold planOn Route.operation?
  cases route with
  | health => cases request.method <;> exact .inl rfl
  | films =>
    cases request.method with
    | get | head =>
      dsimp only
      cases view? query with
      | some view => exact .inl rfl
      | none => exact .inr ⟨rfl, rfl⟩
    | post =>
      left
      dsimp only
      rw [command?_planWith, Option.map_eq_bind]
      rfl
    | put | delete | options | other => exact .inl rfl
  | film segment =>
    left
    cases request.method with
    | get | head | delete =>
      dsimp only
      rw [command?_planAt, idIn?, Option.map_eq_bind, Option.bind_assoc]
      simp only [command?_planFor]
      rfl
    | put =>
      dsimp only
      rw [command?_planAt, idIn?, Option.bind_assoc]
      simp only [command?_planWith, command?_planFor, Option.map_eq_bind]
      refine congrArg _ (funext fun text => ?_)
      exact Option.bind_comm _ _
    | post | options | other => rfl

/-- A plan asks for the operation, but for a listing under a bad query. -/
theorem command?_plan (request : Request) :
    request.plan.command? = request.operation? ∨
      request.plan = .settled .viewTwice ∧ request.operation? = some .list := by
  rw [plan_eq, operation?_eq]
  cases request.route? with
  | none =>
    left
    split <;> rfl
  | some route =>
    split
    · rename_i hmethod
      rw [hmethod]
      cases route <;> exact .inl rfl
    · exact command?_planOn _ route

/-! ## Orders -/

theorem operation?_of_orders {command : Command} (h : request.Orders command) :
    request.operation? = some command := by
  rw [operation?_eq]
  cases h with
  | create hmethod hpath hfilm =>
    rw [route?_eq_films_iff.mpr hpath, hmethod, filmIn?_eq_some_iff.mpr hfilm]
    rfl
  | clear hmethod hpath =>
    rw [route?_eq_films_iff.mpr hpath, hmethod]
    rfl
  | update hmethod hpath htext hfilm =>
    rw [route?_eq_film_iff.mpr hpath, hmethod, filmIn?_eq_some_iff.mpr hfilm, Option.bind_some]
    unfold Route.operation?
    dsimp only
    rw [idIn?_eq_some_iff.mpr htext]
    rfl
  | delete hmethod hpath htext =>
    rw [route?_eq_film_iff.mpr hpath, hmethod, Option.bind_some]
    unfold Route.operation?
    dsimp only
    rw [idIn?_eq_some_iff.mpr htext]
    rfl

theorem orders_iff {command : Command} :
    request.Orders command ↔ request.operation? = some command ∧ command.Changes := by
  constructor
  · intro h
    refine ⟨operation?_of_orders h, ?_⟩
    cases h <;> trivial
  · rintro ⟨hoperation, hchanges⟩
    obtain ⟨route, hroute, h⟩ := Option.bind_eq_some_iff.mp (operation?_eq request ▸ hoperation)
    unfold Route.operation? at h
    split at h
    · cases h
      cases hchanges
    · cases h
      cases hchanges
    · cases h
      cases hchanges
    · cases h
      cases hchanges
    · rename_i hmethod
      obtain ⟨film, hfilm, rfl⟩ := Option.map_eq_some_iff.mp h
      exact .create hmethod (route?_eq_films_iff.mp hroute) (filmIn?_eq_some_iff.mp hfilm)
    · rename_i hmethod
      cases h
      exact .clear hmethod (route?_eq_films_iff.mp hroute)
    · obtain ⟨id, hid, rfl⟩ := Option.map_eq_some_iff.mp h
      cases hchanges
    · obtain ⟨id, hid, rfl⟩ := Option.map_eq_some_iff.mp h
      cases hchanges
    · rename_i hmethod
      obtain ⟨id, hid, hupdate⟩ := Option.bind_eq_some_iff.mp h
      obtain ⟨film, hfilm, rfl⟩ := Option.map_eq_some_iff.mp hupdate
      exact .update hmethod (route?_eq_film_iff.mp hroute) (idIn?_eq_some_iff.mp hid)
        (filmIn?_eq_some_iff.mp hfilm)
    · rename_i hmethod
      obtain ⟨id, hid, rfl⟩ := Option.map_eq_some_iff.mp h
      exact .delete hmethod (route?_eq_film_iff.mp hroute) (idIn?_eq_some_iff.mp hid)
    · cases h

/-! ## The first check that fails -/

theorem AtFilm.unique {other : Bytes} (h : request.AtFilm segment) (hother : request.AtFilm other) :
    segment = other :=
  List.append_cancel_left (h.2.2.symm.trans hother.2.2)

theorem text_of_passes (hpath : request.AtFilm segment)
    (hpasses : ∀ outcome, ¬ request.Fails .segment outcome) :
    ∃ text, segmentText? segment = some text := by
  cases htext : segmentText? segment with
  | none => exact absurd (.segment hpath htext) (hpasses _)
  | some text => exact ⟨text, rfl⟩

theorem submits_of_passes (hsize : ∀ outcome, ¬ request.Fails .bodySize outcome)
    (hbody : ∀ outcome, ¬ request.Fails .body outcome) : ∃ film, request.Submits film := by
  have hfits : request.body.length ≤ 2097152 := Nat.not_lt.mp fun hlarge => hsize _ (.bodySize hlarge)
  cases hread : Submission.read (Encoding.detect request.contentType? request.body)
      request.body with
  | error fault => exact absurd (.body hread) (hbody _)
  | ok film => exact ⟨film, hfits, hread⟩

theorem number_of_passes (hpath : request.AtFilm segment) {text : String}
    (htext : segmentText? segment = some text)
    (hpasses : ∀ outcome, ¬ request.Fails .number outcome) : ∃ id : FilmId, text = id.text := by
  by_contra hnone
  exact hpasses _ (.number hpath htext fun id hid => hnone ⟨id, hid⟩)

theorem firstFails_segment (hpath : request.AtFilm segment) {checks : List Check}
    {outcome : Outcome} (h : request.FirstFails (.segment :: checks) outcome) :
    segmentText? segment = none ∧ outcome = .segmentNotText ∨
      ∃ text, segmentText? segment = some text ∧ request.FirstFails checks outcome := by
  cases h with
  | here hfails =>
    cases hfails with
    | segment hother htext =>
      rw [hpath.unique hother]
      exact .inl ⟨htext, rfl⟩
  | later hpasses hlater =>
    obtain ⟨text, htext⟩ := text_of_passes hpath hpasses
    exact .inr ⟨text, htext, hlater⟩

theorem film_of_fails_body (hsize : request.body.length ≤ 2097152) {outcome : Outcome}
    (h : request.Fails .body outcome) :
    ∃ refusal, request.film = .error refusal ∧ outcome = .refused refusal := by
  cases h with
  | body hread =>
    unfold Request.film Submission.receive Submission.sizeLimit
    rw [if_pos hsize, hread]
    exact ⟨_, rfl, rfl⟩

theorem film_of_fails_bodySize {outcome : Outcome} (h : request.Fails .bodySize outcome) :
    ∃ refusal, request.film = .error refusal ∧ outcome = .refused refusal := by
  cases h with
  | bodySize hsize =>
    unfold Request.film Submission.receive Submission.sizeLimit
    rw [if_neg (Nat.not_le.mpr hsize)]
    exact ⟨_, rfl, rfl⟩

theorem firstFails_body {checks : List Check} {outcome : Outcome}
    (h : request.FirstFails (.bodySize :: .body :: checks) outcome) :
    (∃ refusal, request.film = .error refusal ∧ outcome = .refused refusal) ∨
      ∃ film, request.film = .ok film ∧ request.FirstFails checks outcome := by
  cases h with
  | here hfails => exact .inl (film_of_fails_bodySize hfails)
  | later hsize hlater =>
    cases hlater with
    | here hfails =>
      left
      refine film_of_fails_body (Nat.not_lt.mp fun hlarge => ?_) hfails
      exact hsize _ (.bodySize hlarge)
    | later hbody hlater =>
      obtain ⟨film, hfilm⟩ := submits_of_passes hsize hbody
      exact .inr ⟨film, film_eq_ok_iff.mpr hfilm, hlater⟩

theorem firstFails_number (hpath : request.AtFilm segment) {text : String}
    (htext : segmentText? segment = some text) {outcome : Outcome}
    (h : request.FirstFails [.number] outcome) :
    FilmId.ofText? text = none ∧ outcome = .refused (.notFound text) := by
  cases h with
  | here hfails =>
    cases hfails with
    | number hother hspelt hnumber =>
      rw [← hpath.unique hother, htext] at hspelt
      cases hspelt
      refine ⟨Option.eq_none_iff_forall_ne_some.mpr fun id hid => ?_, rfl⟩
      exact hnumber id (FilmId.ofText?_eq_some_iff.mp hid)
  | later hpasses hlater => cases hlater

theorem plan_of_firstFails {outcome : Outcome} (h : request.FirstFails request.checks outcome) :
    request.plan = .settled outcome := by
  unfold checks at h
  split at h
  · rename_i hroute hmethod
    rw [plan_on hroute (by simp [hmethod])]
    simp only [planOn, hmethod, planWith]
    obtain ⟨refusal, hfilm, rfl⟩ | ⟨film, hfilm, hlater⟩ := firstFails_body h
    · rw [hfilm]
    · cases hlater
  · rename_i segment hroute hmethod
    rw [plan_on hroute (by simp [hmethod])]
    simp only [planOn, hmethod, planAt, planWith, planFor, FilmId.parse]
    have hpath := route?_eq_film_iff.mp hroute
    obtain ⟨htext, rfl⟩ | ⟨text, htext, hlater⟩ := firstFails_segment hpath h
    · rw [htext]
    · obtain ⟨refusal, hfilm, rfl⟩ | ⟨film, hfilm, hlast⟩ := firstFails_body hlater
      · rw [htext, hfilm]
      · obtain ⟨hnumber, rfl⟩ := firstFails_number hpath htext hlast
        rw [htext, hfilm]
        dsimp only
        rw [hnumber]
  · rename_i segment hroute hmethod
    rw [plan_on hroute (by simp [hmethod])]
    simp only [planOn, hmethod, planAt, planFor, FilmId.parse]
    have hpath := route?_eq_film_iff.mp hroute
    obtain ⟨htext, rfl⟩ | ⟨text, htext, hlater⟩ := firstFails_segment hpath h
    · rw [htext]
    · obtain ⟨hnumber, rfl⟩ := firstFails_number hpath htext hlater
      rw [htext]
      dsimp only
      rw [hnumber]
  · cases h

theorem orders_of_passes (hsome : request.checks ≠ [])
    (hpasses : ∀ check ∈ request.checks, ∀ outcome, ¬ request.Fails check outcome) :
    ∃ command, request.Orders command := by
  unfold checks at hsome hpasses
  split at hpasses
  · rename_i hroute hmethod
    obtain ⟨film, hfilm⟩ := submits_of_passes (hpasses .bodySize (by simp)) (hpasses .body (by simp))
    exact ⟨_, .create hmethod (route?_eq_films_iff.mp hroute) hfilm⟩
  · rename_i segment hroute hmethod
    have hpath := route?_eq_film_iff.mp hroute
    obtain ⟨text, htext⟩ := text_of_passes hpath (hpasses .segment (by simp))
    obtain ⟨film, hfilm⟩ := submits_of_passes (hpasses .bodySize (by simp)) (hpasses .body (by simp))
    obtain ⟨id, rfl⟩ := number_of_passes hpath htext (hpasses .number (by simp))
    exact ⟨_, .update hmethod hpath htext hfilm⟩
  · rename_i segment hroute hmethod
    have hpath := route?_eq_film_iff.mp hroute
    obtain ⟨text, htext⟩ := text_of_passes hpath (hpasses .segment (by simp))
    obtain ⟨id, rfl⟩ := number_of_passes hpath htext (hpasses .number (by simp))
    exact ⟨_, .delete hmethod hpath htext⟩
  · simp_all

end Request

/-! ## Requests that are alike -/

/-- Requests that have all in common that chooses their operation. -/
structure Alike (a b : Request) : Prop where
  method : a.method = b.method
  path : a.path = b.path
  contentType : a.header? "content-type" = b.header? "content-type"
  body : a.body = b.body

theorem Alike.operation?_eq {a b : Request} (h : Alike a b) : a.operation? = b.operation? := by
  unfold Request.operation?
  rw [h.method, h.path, h.contentType, h.body]

/-! ## Answers -/

variable (settings : Settings) {catalog : Catalog} {request : Request}

/-- The response, once the catalog has answered. -/
def told (request : Request) (answer : Option Answer) : Response :=
  finish settings request
    ((request.plan.outcome (answer.getD .done)).reply (address settings request))

theorem respond_operation (catalog : Catalog) (request : Request) :
    respond settings catalog request =
      (told settings request (catalog.performAny request.operation?).1,
        (catalog.performAny request.operation?).2) := by
  rw [respond_eq]
  rcases request.command?_plan with hcommand | ⟨hplan, hlist⟩
  · rw [← hcommand, Plan.perform_eq]
    unfold told
    cases request.plan.command? <;> rfl
  · unfold told
    rw [hplan, hlist]
    rfl

theorem respond_of_no_order (h : ∀ command, ¬ request.Orders command) :
    (respond settings catalog request).2 = catalog := by
  rw [respond_operation]
  cases hoperation : request.operation? with
  | none => rfl
  | some command =>
    refine catalog.perform_of_not_changes fun hchanges => h command ?_
    exact Request.orders_iff.mpr ⟨hoperation, hchanges⟩

theorem respond_of_firstFails {outcome : Outcome}
    (h : request.FirstFails request.checks outcome) :
    respond settings catalog request =
      (finish settings request (outcome.reply (address settings request)), catalog) := by
  rw [respond_eq, Request.plan_of_firstFails h]
  rfl

/-- What clients are told of a check that failed. A body that holds no film is malformed, and in legacy mode not
found. -/
inductive Reports (mode : StatusMode) (response : Response) : Outcome → Prop
  | segment (hstatus : response.status.code = 400)
      (hbody : response.body = "Invalid URL: Invalid UTF-8 in `id`") :
    Reports mode response .segmentNotText
  | body {detail : String}
      (htold : Carries response (if mode = .legacy then 404 else 400) "MALFORMED" detail) :
    Reports mode response (.refused (.malformed detail))
  | number {text : String}
      (htold : Carries response 404 "NOT_FOUND" ("Film with id " ++ text ++ " not found")) :
    Reports mode response (.refused (.notFound text))

theorem carries_malformed (hmethod : request.method ≠ .head) (detail : String) :
    Carries (finish settings request (Refusal.malformed detail).reply)
      (if settings.statusMode = .legacy then 404 else 400) "MALFORMED" detail := by
  have hcarries := carries_finish settings hmethod (.malformed detail)
  cases hmode : settings.statusMode <;> rw [hmode] at hcarries <;> exact hcarries

theorem not_head_of_checks (h : request.checks ≠ []) : request.method ≠ .head := by
  intro hhead
  unfold Request.checks at h
  rw [hhead] at h
  split at h <;> simp_all

theorem reports_of_firstFails {outcome : Outcome} (h : request.FirstFails request.checks outcome) :
    Reports settings.statusMode (respond settings catalog request).1 outcome := by
  have hhead : request.method ≠ .head := by
    apply not_head_of_checks
    intro hnone
    rw [hnone] at h
    cases h
  obtain ⟨check, hfails⟩ := h.fails
  rw [respond_of_firstFails settings h]
  cases hfails with
  | segment => exact .segment (congrArg Status.code (statusIn_unmarked rfl _)) (if_neg hhead)
  | bodySize | body => exact .body (carries_malformed settings hhead _)
  | number => exact .number (carries_notFound settings hhead _)

theorem run_alike (other : Settings) {requests requests' : List Request}
    (h : List.Forall₂ Alike requests requests') :
    (run settings catalog requests).2 = (run other catalog requests').2 := by
  induction h generalizing catalog with
  | nil => rfl
  | @cons a b requests requests' halike hrest ih =>
    have hnext : (respond settings catalog a).2 = (respond other catalog b).2 := by
      rw [respond_operation, respond_operation, halike.operation?_eq]
    calc (run settings catalog (a :: requests)).2
      _ = (run settings (respond settings catalog a).2 requests).2 := rfl
      _ = (run other (respond other catalog b).2 requests').2 := by rw [hnext, ih]
      _ = (run other catalog (b :: requests')).2 := rfl

/-- A request leads to one operation at most, which its method, path, content type and body choose. Where a check
fails nothing is changed, and the first one is told. -/
theorem requests_choose_operations (settings : Settings) (request : Request) :
    (∃ told : Option Answer → Response, ∀ catalog,
        respond settings catalog request =
          let operation :=
            operation? request.method request.path (request.header? "content-type") request.body
          (told (catalog.performAny operation).1, (catalog.performAny operation).2)) ∧
      (∀ command, request.Orders command ↔
        operation? request.method request.path (request.header? "content-type") request.body =
          some command ∧ command.Changes) ∧
      (∀ catalog, (∀ command, ¬ request.Orders command) →
        (respond settings catalog request).2 = catalog) ∧
      (request.checks ≠ [] →
        (∀ check ∈ request.checks, ∀ outcome, ¬ request.Fails check outcome) →
          ∃ command, request.Orders command) ∧
      (∀ catalog outcome, request.FirstFails request.checks outcome →
        respond settings catalog request =
            (finish settings request (outcome.reply (address settings request)), catalog) ∧
          Reports settings.statusMode (respond settings catalog request).1 outcome) ∧
      ∀ other requests requests', other.capacity = settings.capacity →
        List.Forall₂ Alike requests requests' →
          ∀ n, catalogAfter settings (requests.take n) = catalogAfter other (requests'.take n) := by
  refine ⟨⟨told settings request, fun catalog => respond_operation settings catalog request⟩,
    fun command => Request.orders_iff, fun catalog => respond_of_no_order settings,
    Request.orders_of_passes, fun catalog outcome hfails => ?_, ?_⟩
  · exact ⟨respond_of_firstFails settings hfails, reports_of_firstFails settings hfails⟩
  intro other requests requests' hcapacity halike n
  unfold catalogAfter freshCatalog
  rw [hcapacity]
  exact run_alike settings other (List.forall₂_take n halike)

/-- The body is told first, though no film can have the number either. -/
example : ({ method := .put, target := Utf8.encode "/films/007" } : Request).plan =
    .settled (.refused (.malformed "EOF while parsing a value at line 1 column 0")) := by
  decide +kernel

end Service

end FilmCatalog
