import FilmCatalog.Catalog
import FilmCatalog.FilmId
import FilmCatalog.Json
import FilmCatalog.Text.Letters

/-!
# Views of films

A film is shown in full, with its six fields and its address, or compactly, with its title and its
address. A listing shows all films in one view.
-/

namespace FilmCatalog

inductive View
  | full | compact
  deriving DecidableEq, Repr

/-- The members of a film, in the order of its fields. -/
def Film.members (film : Film) : List (String × Json) :=
  Field.all.map fun field => (field.name, .text (film.get field))

def Film.json (film : Film) : Json := .object film.members

namespace View

/-- The view that a query value asks for. Blanks around it and letter case do not matter, and any
other value asks for the full view. -/
def ofValue (value : Option String) : View :=
  match value with
  | some value => if Ascii.sameLetters (Blank.trim value) "compact" then .compact else .full
  | none => .full

def hrefMember (address : String) : String × Json := ("href", .text address)

/-- A film with its address. -/
def item (view : View) (film : Film) (address : String) : Json :=
  match view with
  | .full => .object (film.members ++ [hrefMember address])
  | .compact => .object [(Field.title.name, .text film.title), hrefMember address]

def listing (view : View) (address : Address) (entries : List Entry) : Json :=
  .object
    [("items", .list (entries.map fun entry => view.item entry.film (address.item entry.id))),
      ("count", .count entries.length),
      hrefMember address.collection]

end View

end FilmCatalog
