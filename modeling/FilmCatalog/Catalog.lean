import FilmCatalog.Refusal
import FilmCatalog.Film
import Std.Data.ExtHashMap

/-!
# The catalog

The catalog keeps its films in the order in which they were created, and an index from each film to
its number. The index alone says whether an equal film is stored. Numbers are handed out one after
the other and never again, whatever is removed.
-/

namespace FilmCatalog

/-- A film under its number. -/
structure Entry where
  id : FilmId
  film : Film
  deriving DecidableEq, Repr

/-- The stored films in the order of their creation, the number of each film, and the number that the
next film gets. -/
structure Catalog where
  capacity : Nat
  entries : List Entry := []
  index : Std.ExtHashMap Film FilmId := ∅
  nextNumber : UInt64 := 0

namespace Catalog

/-- How many films a catalog may hold unless it is told otherwise. -/
def defaultCapacity : Nat := 1000

def empty (capacity : Nat) : Catalog := { capacity }

/-! ## Looking -/

def size (catalog : Catalog) : Nat := catalog.entries.length

def find? (catalog : Catalog) (id : FilmId) : Option Film :=
  (catalog.entries.find? (·.id == id)).map (·.film)

/-- The film under a number, or a refusal that names it. -/
def get (catalog : Catalog) (id : FilmId) : Except Refusal Film :=
  match catalog.find? id with
  | some film => .ok film
  | none => .error (.noSuchFilm id)

/-! ## Changing -/

/-- Stores a new film under the next number. An equal film is told before a full catalog, and a
refusal uses no number up. -/
def create (catalog : Catalog) (film : Film) : Except Refusal (FilmId × Catalog) :=
  match catalog.index[film]? with
  | some existing => .error (.duplicate existing)
  | none =>
    if catalog.capacity ≤ catalog.size then .error (.full catalog.capacity)
    else
      let id : FilmId := ⟨catalog.nextNumber⟩
      .ok (id,
        { catalog with
          entries := catalog.entries ++ [{ id, film }]
          index := catalog.index.insert film id
          nextNumber := catalog.nextNumber + 1 })

/-- Puts a film in the place of the one under a number. The film that is there already may be put
there again, but no film that stands under another number. -/
def update (catalog : Catalog) (id : FilmId) (film : Film) : Except Refusal Catalog :=
  match catalog.find? id with
  | none => .error (.noSuchFilm id)
  | some previous =>
    match catalog.index[film]? with
    | some existing => if existing = id then .ok catalog else .error (.duplicate existing)
    | none =>
      .ok
        { catalog with
          entries := catalog.entries.map fun entry =>
            if entry.id = id then { entry with film } else entry
          index := (catalog.index.erase previous).insert film id }

/-- Removes the film under a number. The others keep their order. -/
def delete (catalog : Catalog) (id : FilmId) : Except Refusal Catalog :=
  match catalog.find? id with
  | none => .error (.noSuchFilm id)
  | some film =>
    .ok
      { catalog with
        entries := catalog.entries.filter (·.id != id)
        index := catalog.index.erase film }

def clear (catalog : Catalog) : Catalog :=
  { catalog with entries := [], index := ∅ }

/-! ## What a change needs and does -/

variable {catalog : Catalog}

theorem create_eq_ok_iff {film : Film} {id : FilmId} {next : Catalog} :
    catalog.create film = .ok (id, next) ↔
      catalog.index[film]? = none ∧ catalog.size < catalog.capacity ∧ id = ⟨catalog.nextNumber⟩ ∧
        next = { catalog with
          entries := catalog.entries ++ [{ id, film }]
          index := catalog.index.insert film id
          nextNumber := catalog.nextNumber + 1 } := by
  unfold create
  split
  · rename_i existing htaken
    simp [htaken]
  · rename_i hfresh
    split
    · rename_i hfull
      simp [Nat.not_lt.mpr hfull]
    · rename_i hfree
      simp only [Except.ok.injEq, Prod.mk.injEq, hfresh, Nat.not_le.mp hfree, true_and]
      constructor
      · rintro ⟨rfl, rfl⟩
        exact ⟨rfl, rfl⟩
      · rintro ⟨rfl, rfl⟩
        exact ⟨rfl, rfl⟩

theorem update_eq_ok_iff {id : FilmId} {film : Film} {next : Catalog} :
    catalog.update id film = .ok next ↔
      ∃ previous, catalog.find? id = some previous ∧
        (catalog.index[film]? = some id ∧ next = catalog ∨
          catalog.index[film]? = none ∧
            next = { catalog with
              entries := catalog.entries.map fun entry =>
                if entry.id = id then { entry with film } else entry
              index := (catalog.index.erase previous).insert film id }) := by
  unfold update
  cases hfound : catalog.find? id with
  | none => simp
  | some previous =>
    cases hstored : catalog.index[film]? with
    | none => simp [eq_comm]
    | some existing =>
      by_cases hown : existing = id
      · simp [hown, eq_comm]
      · simp [hown]

theorem delete_eq_ok_iff {id : FilmId} {next : Catalog} :
    catalog.delete id = .ok next ↔
      ∃ film, catalog.find? id = some film ∧
        next = { catalog with
          entries := catalog.entries.filter (·.id != id)
          index := catalog.index.erase film } := by
  unfold delete
  cases catalog.find? id <;> simp [eq_comm]

end Catalog

end FilmCatalog
