/-!
# Films

A film is six texts, kept exactly as they were submitted. The fields have names and an order, and
both show wherever a film is written or read.
-/

namespace FilmCatalog

/-! ## Fields -/

/-- The six fields of a film. -/
inductive Field
  | title | originalTitle | productionYear | length | director | actors
  deriving DecidableEq, Repr

namespace Field

/-- Every field once, in the order in which films are written. -/
def all : List Field :=
  [.title, .originalTitle, .productionYear, .length, .director, .actors]

/-- The name of a field in a written film. -/
def name : Field → String
  | .title => "title"
  | .originalTitle => "originalTitle"
  | .productionYear => "productionYear"
  | .length => "length"
  | .director => "director"
  | .actors => "actors"

/-- The field that carries a name, if one does. -/
def ofName? (text : String) : Option Field :=
  all.find? fun field => field.name == text

theorem mem_all (field : Field) : field ∈ all := by cases field <;> decide

theorem nodup_all : all.Nodup := by decide

theorem name_inj {a b : Field} (h : a.name = b.name) : a = b := by
  cases a <;> cases b <;> revert h <;> decide

theorem ofName?_eq_some_iff {text : String} {field : Field} :
    ofName? text = some field ↔ text = field.name := by
  constructor
  · intro h
    have hfound := List.find?_some h
    exact (eq_of_beq hfound).symm
  · rintro rfl
    cases field <;> decide

end Field

/-! ## Records -/

/-- A film. Two films are the same when all six texts are. -/
structure Film where
  title : String := ""
  originalTitle : String := ""
  productionYear : String := ""
  length : String := ""
  director : String := ""
  actors : String := ""
  deriving DecidableEq, Hashable, Repr

namespace Film

/-- The text of one field. -/
def get (film : Film) : Field → String
  | .title => film.title
  | .originalTitle => film.originalTitle
  | .productionYear => film.productionYear
  | .length => film.length
  | .director => film.director
  | .actors => film.actors

/-- The film with one field replaced. -/
def set (film : Film) (field : Field) (text : String) : Film :=
  match field with
  | .title => { film with title := text }
  | .originalTitle => { film with originalTitle := text }
  | .productionYear => { film with productionYear := text }
  | .length => { film with length := text }
  | .director => { film with director := text }
  | .actors => { film with actors := text }

theorem get_set (film : Film) (field other : Field) (text : String) :
    (film.set field text).get other = if other = field then text else film.get other := by
  cases field <;> cases other <;> rfl

theorem ext_get {a b : Film} (h : ∀ field, a.get field = b.get field) : a = b := by
  have htitle := h .title
  have horiginalTitle := h .originalTitle
  have hproductionYear := h .productionYear
  have hlength := h .length
  have hdirector := h .director
  have hactors := h .actors
  cases a
  cases b
  simp_all [get]

end Film

end FilmCatalog
