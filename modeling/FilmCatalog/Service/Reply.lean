import FilmCatalog.Service.Plan

/-!
# Telling an outcome

An outcome becomes a status, headers and a body. Addresses in it begin with the base of the request.
-/

namespace FilmCatalog

namespace Service

/-! ## Replies -/

/-- A response before the settings are applied to it. The mark says that a legacy client is told that
nothing was found. -/
structure Reply where
  status : Status
  headers : List (String × String) := []
  body : String := ""
  legacyNotFound : Bool := false
  deriving DecidableEq, Repr

namespace Reply

def json (status : Status) (value : Json) : Reply :=
  { status, headers := [("content-type", "application/json")], body := value.write }

/-- A reply that is a sentence. -/
def sentence (status : Status) (body : String) : Reply :=
  { status, headers := [("content-type", "text/plain; charset=utf-8")], body }

end Reply

end Service

/-! ## Refusals -/

namespace Refusal

open Service

def status : Refusal → Status
  | .notFound _ => .notFound
  | .duplicate _ => .conflict
  | .malformed _ => .badRequest
  | .full _ => .noStorage

def code : Refusal → String
  | .notFound _ => "NOT_FOUND"
  | .duplicate _ => "DUPLICATE"
  | .malformed _ => "MALFORMED"
  | .full _ => "CAPACITY_EXCEEDED"

def notice : Refusal → String
  | .notFound name => "Film with id " ++ name ++ " not found"
  | .duplicate existing => "Film already exists with id " ++ existing.text
  | .malformed detail => detail
  | .full capacity => (Refusal.full capacity).message

/-- Whether a submission was turned down that legacy clients take for a missing film. -/
def isLegacyNotFound : Refusal → Bool
  | .duplicate _ | .malformed _ => true
  | .notFound _ | .full _ => false

def json (refusal : Refusal) : Json :=
  .object [("code", .text refusal.code), ("error", .text refusal.notice)]

def reply (refusal : Refusal) : Reply :=
  { Reply.json refusal.status refusal.json with legacyNotFound := refusal.isLegacyNotFound }

end Refusal

/-! ## Outcomes -/

namespace Service

def version : String := "0.1.0"

def healthJson (films : Nat) : Json :=
  .object [("status", .text "ok"), ("version", .text version), ("films", .count films)]

/-- The answer to a question about options, which is the same on every path but for the methods of a
known one. -/
def preflightReply (route : Option Route) : Reply :=
  { status := .ok
    headers :=
      [("access-control-allow-headers", "content-type"),
        ("access-control-allow-methods", "GET,POST,PUT,DELETE"),
        ("access-control-max-age", "3600")] ++
      (route.map fun route => ("allow", route.allowed)).toList }

/-- The answer to a creation. An address that no header can hold cannot be told, although the film is
stored. -/
def createdReply (address : Address) (entry : Entry) : Reply :=
  let href := address.item entry.id
  if isHeaderText href then
    let reply := Reply.json .created (View.full.item entry.film href)
    { reply with headers := reply.headers ++ [("location", href)] }
  else .sentence .serverError "failed to parse header value"

def Outcome.reply (address : Address) : Outcome → Reply
  | .unknownPath => { status := .notFound }
  | .wrongMethod route => { status := .wrongMethod, headers := [("allow", route.allowed)] }
  | .preflight route => preflightReply route
  | .segmentNotText => .sentence .badRequest "Invalid URL: Invalid UTF-8 in `id`"
  | .viewTwice =>
    .sentence .badRequest "Failed to deserialize query string: duplicate field `view`"
  | .refused refusal => refusal.reply
  | .healthy films => .json .ok (healthJson films)
  | .listed view entries => .json .ok (view.listing address entries)
  | .created entry => createdReply address entry
  | .shown entry => .json .ok (View.full.item entry.film (address.item entry.id))
  | .done => { status := .ok }

end Service

end FilmCatalog
