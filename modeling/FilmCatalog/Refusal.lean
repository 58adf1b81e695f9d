import FilmCatalog.FilmId

/-!
# Refusals

The ways in which the catalog turns down what it is asked to do.
-/

namespace FilmCatalog

inductive Refusal
  /-- No film has this name. The name may be any text, and need not be a number. -/
  | notFound (name : String)
  /-- An equal film is stored already. -/
  | duplicate (existing : FilmId)
  /-- What was submitted is not a film. -/
  | malformed (detail : String)
  /-- The catalog holds as many films as it may. -/
  | full (capacity : Nat)
  deriving DecidableEq, Repr

namespace Refusal

/-- No film is stored under this number. -/
def noSuchFilm (id : FilmId) : Refusal := .notFound id.text

def message : Refusal → String
  | .notFound name => "Film not found: " ++ name
  | .duplicate existing => "Duplicate film: identical to film " ++ existing.text
  | .malformed detail => "Malformed film: " ++ detail
  | .full capacity => "Film store is full (" ++ Decimal.text capacity ++ " films)"

end Refusal

/-- The film number that a text spells, or a refusal that quotes the text. -/
def FilmId.parse (text : String) : Except Refusal FilmId :=
  match FilmId.ofText? text with
  | some id => .ok id
  | none => .error (.notFound text)

end FilmCatalog
