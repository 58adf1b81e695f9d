import FilmCatalog.Catalog

/-!
# Commands to the catalog

What the catalog can be asked, as data. A command has one answer and leaves one catalog behind, which
after a refusal is the one before.
-/

namespace FilmCatalog.Catalog

/-- What the catalog can be asked. -/
inductive Command
  | create (film : Film)
  | get (id : FilmId)
  | update (id : FilmId) (film : Film)
  | delete (id : FilmId)
  | list
  | clear
  | reset
  | size
  | isEmpty
  | capacity
  deriving DecidableEq

/-- What the catalog answers. -/
inductive Answer
  | created (id : FilmId)
  | film (film : Film)
  | done
  | listing (entries : List Entry)
  | removed (count : Nat)
  | size (count : Nat)
  | isEmpty (answer : Bool)
  | capacity (count : Nat)
  | refused (refusal : Refusal)
  deriving DecidableEq

/-- The answer and the catalog after a change that may be refused. -/
def orRefused (catalog : Catalog) (change : Except Refusal (Answer × Catalog)) : Answer × Catalog :=
  match change with
  | .ok changed => changed
  | .error refusal => (.refused refusal, catalog)

def perform (catalog : Catalog) : Command → Answer × Catalog
  | .create film => catalog.orRefused ((catalog.create film).map fun (id, next) => (.created id, next))
  | .get id => catalog.orRefused ((catalog.get id).map fun film => (.film film, catalog))
  | .update id film => catalog.orRefused ((catalog.update id film).map (.done, ·))
  | .delete id => catalog.orRefused ((catalog.delete id).map (.done, ·))
  | .list => (.listing catalog.entries, catalog)
  | .clear => (.removed catalog.size, catalog.clear)
  | .reset => (.done, catalog.clear)
  | .size => (.size catalog.size, catalog)
  | .isEmpty => (.isEmpty catalog.entries.isEmpty, catalog)
  | .capacity => (.capacity catalog.capacity, catalog)

theorem perform_create (catalog : Catalog) (film : Film) :
    catalog.perform (.create film) =
      match catalog.create film with
      | .ok (id, next) => (.created id, next)
      | .error refusal => (.refused refusal, catalog) := by
  simp only [perform, orRefused]
  cases catalog.create film <;> rfl

theorem perform_get (catalog : Catalog) (id : FilmId) :
    catalog.perform (.get id) =
      match catalog.get id with
      | .ok film => (.film film, catalog)
      | .error refusal => (.refused refusal, catalog) := by
  simp only [perform, orRefused]
  cases catalog.get id <;> rfl

theorem perform_update (catalog : Catalog) (id : FilmId) (film : Film) :
    catalog.perform (.update id film) =
      match catalog.update id film with
      | .ok next => (.done, next)
      | .error refusal => (.refused refusal, catalog) := by
  simp only [perform, orRefused]
  cases catalog.update id film <;> rfl

theorem perform_delete (catalog : Catalog) (id : FilmId) :
    catalog.perform (.delete id) =
      match catalog.delete id with
      | .ok next => (.done, next)
      | .error refusal => (.refused refusal, catalog) := by
  simp only [perform, orRefused]
  cases catalog.delete id <;> rfl

def run (catalog : Catalog) : List Command → List Answer × Catalog
  | [] => ([], catalog)
  | command :: commands =>
    let (answer, next) := catalog.perform command
    let (answers, last) := next.run commands
    (answer :: answers, last)

end FilmCatalog.Catalog
