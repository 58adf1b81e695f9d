import FilmCatalog.Service.Message
import FilmCatalog.Service.Target
import FilmCatalog.Submission
import FilmCatalog.View

/-!
# What a request asks for

A request is turned into a plan before the catalog is looked at. A plan is either settled already, or
it asks the catalog one thing. Method, target, content type and body decide, and the settings of the
service do not.
-/

namespace FilmCatalog.Service

/-! ## Outcomes -/

/-- What comes of a request. How it is told depends on addresses and settings. -/
inductive Outcome
  | unknownPath
  | wrongMethod (route : Route)
  | preflight (route : Option Route)
  | segmentNotText
  | viewTwice
  | refused (refusal : Refusal)
  | healthy (films : Nat)
  | listed (view : View) (entries : List Entry)
  | created (entry : Entry)
  | shown (entry : Entry)
  | done
  deriving DecidableEq

/-! ## Plans -/

inductive Plan
  | settled (outcome : Outcome)
  | health
  | list (view : View)
  | create (film : Film)
  | clear
  | read (id : FilmId)
  | replace (id : FilmId) (film : Film)
  | delete (id : FilmId)
  deriving DecidableEq

/-- The view that a query asks for. It may be asked for once at most. -/
def view? (query : Bytes) : Option View :=
  match Form.rawValues "view" query with
  | [] => some (View.ofValue none)
  | [value] => some (View.ofValue (some (Form.text value)))
  | _ => none

def segmentText? (segment : Bytes) : Option String :=
  Utf8.decode? (Percent.unescape segment)

namespace Request

def contentType? (request : Request) : Option String :=
  (request.header? "content-type").bind plainText?

def film (request : Request) : Except Refusal Film :=
  (Submission.receive request.contentType? request.body).mapError fun fault =>
    .malformed fault.message

def planFor (text : String) (plan : FilmId → Plan) : Plan :=
  match FilmId.parse text with
  | .ok id => plan id
  | .error refusal => .settled (.refused refusal)

def planWith (request : Request) (plan : Film → Plan) : Plan :=
  match request.film with
  | .ok film => plan film
  | .error refusal => .settled (.refused refusal)

def planAt (segment : Bytes) (plan : String → Plan) : Plan :=
  match segmentText? segment with
  | some text => plan text
  | none => .settled .segmentNotText

/-- The plan on a known route. A replacement looks at the segment, then at the body, and then at the
number that the segment spells. -/
def planOn (request : Request) (query : Bytes) (route : Route) : Plan :=
  match route, request.method with
  | .health, .get | .health, .head => .health
  | .films, .get | .films, .head =>
    match view? query with
    | some view => .list view
    | none => .settled .viewTwice
  | .films, .post => request.planWith .create
  | .films, .delete => .clear
  | .film segment, .get | .film segment, .head => planAt segment fun text => planFor text .read
  | .film segment, .put =>
    planAt segment fun text => request.planWith fun film => planFor text (.replace · film)
  | .film segment, .delete => planAt segment fun text => planFor text .delete
  | route, _ => .settled (.wrongMethod route)

/-- The plan for a request. Questions about options are settled on every path. -/
def plan (request : Request) : Plan :=
  let target := Target.ofBytes request.target
  let route := Route.ofPath? target.path
  if request.method = .options then .settled (.preflight route)
  else
    match route with
    | none => .settled .unknownPath
    | some route => request.planOn target.query route

end Request

/-! ## Carrying a plan out -/

/-- The outcome of a change, with the catalog after it. A refusal leaves the catalog as it was. -/
def settle (catalog : Catalog) (change : Except Refusal (Outcome × Catalog)) : Outcome × Catalog :=
  match change with
  | .ok changed => changed
  | .error refusal => (.refused refusal, catalog)

def Plan.perform (catalog : Catalog) : Plan → Outcome × Catalog
  | .settled outcome => (outcome, catalog)
  | .health => (.healthy catalog.size, catalog)
  | .list view => (.listed view catalog.entries, catalog)
  | .create film =>
    settle catalog ((catalog.create film).map fun (id, next) => (.created { id, film }, next))
  | .clear => (.done, catalog.clear)
  | .read id => settle catalog ((catalog.get id).map fun film => (.shown { id, film }, catalog))
  | .replace id film =>
    settle catalog ((catalog.update id film).map fun next => (.shown { id, film }, next))
  | .delete id => settle catalog ((catalog.delete id).map fun next => (.done, next))

end FilmCatalog.Service
