import FilmCatalog.Service.Reply
import FilmCatalog.Settings

/-!
# The service

The service answers one request after the other, each with the catalog that the one before left
behind. Its settings choose the addresses that are told, the origins that are granted and the status
of some refusals, and nothing that is stored.
-/

namespace FilmCatalog.Service

/-! ## Start -/

/-- Checks that every origin can be sent in a header, and that none stands for all of them. -/
def checkOrigins (origins : List String) : Except StartFault Unit :=
  match origins.find? (!isHeaderText ·) with
  | some origin => .error (.badOrigin origin)
  | none => if "*" ∈ origins then .error .anyOrigin else .ok ()

def start (env : Environment) : Except StartFault Settings := do
  let settings ← Settings.ofEnvironment env
  checkOrigins settings.origins
  return settings

/-! ## Around every answer -/

/-- The addresses for a request. They begin with the configured base, or else with its host. -/
def address (settings : Settings) (request : Request) : Address :=
  match settings.publicBase with
  | some base => { base }
  | none =>
    match (request.header? "host").bind plainText? with
    | some host => { base := "http://" ++ host }
    | none => { base := "" }

/-- The origin of a request, when it is granted. It has to be configured byte for byte. -/
def grantedOrigin? (settings : Settings) (request : Request) : Option Bytes :=
  (request.header? "origin").filter fun origin => settings.origins.any (Utf8.encode · == origin)

def originHeaders (settings : Settings) (request : Request) : List (String × HeaderValue) :=
  (grantedOrigin? settings request).toList.map fun origin =>
    ("access-control-allow-origin", .bytes origin)

/-- The headers of every answer but one about options: what scripts may see, and the identifier of the
request, which is made up if it brings none. -/
def trackingHeaders (request : Request) : List (String × HeaderValue) :=
  if request.method = .options then []
  else
    [("access-control-expose-headers", .text "location"),
      ("x-request-id", ((request.header? "x-request-id").map .bytes).getD .generated)]

def Reply.statusIn (reply : Reply) : StatusMode → Status
  | .legacy => if reply.legacyNotFound then .notFound else reply.status
  | .strict => reply.status

/-- The response that is sent for a reply. Only the head is sent where only the head was asked for. -/
def finish (settings : Settings) (request : Request) (reply : Reply) : Response :=
  { status := reply.statusIn settings.statusMode
    headers :=
      reply.headers.map (fun header => (header.1, .text header.2)) ++
        originHeaders settings request ++ trackingHeaders request
    body := if request.method = .head then "" else reply.body }

/-! ## Answers -/

def respond (settings : Settings) (catalog : Catalog) (request : Request) : Response × Catalog :=
  let (outcome, next) := request.plan.perform catalog
  (finish settings request (outcome.reply (address settings request)), next)

def run (settings : Settings) (catalog : Catalog) : List Request → List Response × Catalog
  | [] => ([], catalog)
  | request :: requests =>
    let (response, next) := respond settings catalog request
    let (responses, last) := run settings next requests
    (response :: responses, last)

def freshCatalog (settings : Settings) : Catalog := .empty settings.capacity

end FilmCatalog.Service
