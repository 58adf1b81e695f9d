import FilmCatalog.FilmId
import FilmCatalog.Text.Utf8

/-!
# Targets and routes

The target of a request is a path, a query and a fragment, possibly behind a scheme and a host. The
path alone chooses the route, and it is compared as it was sent.
-/

namespace FilmCatalog.Service

/-! ## Parts of a target -/

structure Target where
  path : Bytes
  query : Bytes
  deriving DecidableEq, Repr

namespace Target

/-- A target from behind its scheme and host, if it has them. A missing path is the root. -/
def withoutHost (target : Bytes) : Bytes :=
  match target with
  | 0x2F :: _ => target
  | _ =>
    match target.dropWhile (· != 0x3A) with
    | 0x3A :: 0x2F :: 0x2F :: rest =>
      match rest.dropWhile fun b => b != 0x2F && b != 0x3F with
      | 0x2F :: rest => 0x2F :: rest
      | rest => 0x2F :: rest
    | _ => target

/-- The path goes to the first `?`, and the query from behind it. Fragments are not sent on. -/
def ofBytes (target : Bytes) : Target :=
  let target := withoutHost (target.takeWhile (· != 0x23))
  { path := target.takeWhile (· != 0x3F)
    query := (target.dropWhile (· != 0x3F)).drop 1 }

end Target

/-! ## Routes -/

/-- The places that the service answers for. A film is named by one segment, still escaped. -/
inductive Route
  | health
  | films
  | film (segment : Bytes)
  deriving DecidableEq, Repr

namespace Route

def filmsFolder : Bytes := Utf8.encode (Address.collectionPath ++ "/")

/-- The route of a path. Nothing may be added to a known path, not even a slash. -/
def ofPath? (path : Bytes) : Option Route :=
  if path = Utf8.encode "/health" then some .health
  else if path = Utf8.encode Address.collectionPath then some .films
  else if filmsFolder.isPrefixOf path then
    let segment := path.drop filmsFolder.length
    if segment ≠ [] ∧ 0x2F ∉ segment then some (.film segment) else none
  else none

def allowed : Route → String
  | .health => "GET,HEAD"
  | .films => "GET,HEAD,POST,DELETE"
  | .film _ => "GET,HEAD,PUT,DELETE"

end Route

end FilmCatalog.Service
