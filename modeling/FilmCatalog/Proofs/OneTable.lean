import FilmCatalog.Proofs.Runs

/-!
# The catalog against one table

A roster is the plainest catalog: one list and a counter, and every question goes through the list.
Clients cannot tell the catalog with its index from a roster.
-/

namespace FilmCatalog

structure Roster where
  capacity : Nat
  entries : List Entry := []
  counter : Nat := 0

namespace Roster

open Catalog (Command Answer)

def empty (capacity : Nat) : Roster := { capacity }

def withId? (roster : Roster) (id : FilmId) : Option Entry := roster.entries.find? (·.id == id)

def create (roster : Roster) (film : Film) : Answer × Roster :=
  match roster.entries.find? (·.film == film) with
  | some entry => (.refused (.duplicate entry.id), roster)
  | none =>
    if roster.capacity ≤ roster.entries.length then (.refused (.full roster.capacity), roster)
    else
      let id : FilmId := ⟨UInt64.ofNat roster.counter⟩
      (.created id,
        { roster with
          entries := roster.entries ++ [{ id, film }]
          counter := roster.counter + 1 })

def update (roster : Roster) (id : FilmId) (film : Film) : Answer × Roster :=
  match roster.withId? id with
  | none => (.refused (.noSuchFilm id), roster)
  | some _ =>
    match roster.entries.find? fun entry => entry.id != id && entry.film == film with
    | some other => (.refused (.duplicate other.id), roster)
    | none =>
      let place := roster.entries.findIdx (·.id == id)
      (.done, { roster with entries := roster.entries.set place { id, film } })

def delete (roster : Roster) (id : FilmId) : Answer × Roster :=
  match roster.withId? id with
  | none => (.refused (.noSuchFilm id), roster)
  | some _ => (.done, { roster with entries := roster.entries.eraseP (·.id == id) })

def perform (roster : Roster) : Command → Answer × Roster
  | .create film => roster.create film
  | .get id =>
    match roster.withId? id with
    | some entry => (.film entry.film, roster)
    | none => (.refused (.noSuchFilm id), roster)
  | .update id film => roster.update id film
  | .delete id => roster.delete id
  | .list => (.listing roster.entries, roster)
  | .clear => (.removed roster.entries.length, { roster with entries := [] })
  | .reset => (.done, { roster with entries := [] })
  | .size => (.size roster.entries.length, roster)
  | .isEmpty => (.isEmpty (roster.entries.length == 0), roster)
  | .capacity => (.capacity roster.capacity, roster)

def run (roster : Roster) : List Command → List Answer × Roster
  | [] => ([], roster)
  | command :: commands =>
    let (answer, next) := roster.perform command
    let (answers, last) := next.run commands
    (answer :: answers, last)

end Roster

namespace Catalog

variable {catalog : Catalog}

/-- The catalog without its index. -/
def roster (catalog : Catalog) : Roster :=
  { capacity := catalog.capacity
    entries := catalog.entries
    counter := catalog.nextNumber.toNat }

/-! ## Lists in which no number comes twice -/

section Lists

variable {entries : List Entry} {id : FilmId}

theorem set_findIdx_eq_map {film : Film} (h : entries.Pairwise fun a b => a.id ≠ b.id) :
    entries.set (entries.findIdx (·.id == id)) { id, film } =
      entries.map fun entry => if entry.id = id then { entry with film } else entry := by
  induction entries with
  | nil => rfl
  | cons entry entries ih =>
    rw [List.pairwise_cons] at h
    rw [List.findIdx_cons, List.map_cons]
    by_cases hid : entry.id = id
    · subst hid
      rw [beq_self_eq_true, cond_true, List.set_cons_zero, if_pos rfl]
      congr 1
      refine ((List.map_congr_left fun other hother => ?_).trans (List.map_id _)).symm
      exact if_neg (h.1 other hother).symm
    · rw [beq_eq_false_iff_ne.mpr hid, cond_false, List.set_cons_succ, if_neg hid, ih h.2]

end Lists

/-! ## Questions to the index and to the list -/

namespace Consistent

theorem index_eq_find? (h : Consistent catalog) (film : Film) :
    catalog.index[film]? = (catalog.entries.find? (·.film == film)).map (·.id) := by
  cases hfound : catalog.entries.find? (·.film == film) with
  | some entry =>
    have hmem := List.mem_of_find?_eq_some hfound
    have hfilm : entry.film = film := by simpa using List.find?_some hfound
    rw [Option.map_some, ← hfilm]
    exact (h.index_iff entry.film entry.id).mpr hmem
  | none =>
    rw [Option.map_none, Option.eq_none_iff_forall_ne_some]
    intro id hid
    have := List.find?_eq_none.mp hfound _ ((h.index_iff film id).mp hid)
    simp at this

/-- The list holds a film under another number exactly when the index leads to another number. -/
theorem find?_other_eq (h : Consistent catalog) (id : FilmId) (film : Film) :
    (catalog.entries.find? fun entry => entry.id != id && entry.film == film).map (·.id) =
      catalog.index[film]?.filter (· != id) := by
  cases hfound : catalog.entries.find? fun entry => entry.id != id && entry.film == film with
  | some entry =>
    have hmem := List.mem_of_find?_eq_some hfound
    obtain ⟨hid, hfilm⟩ : entry.id ≠ id ∧ entry.film = film := by
      simpa using List.find?_some hfound
    rw [← hfilm, (h.index_iff entry.film entry.id).mpr hmem, Option.map_some,
      Option.filter_some_pos (by simpa using hid)]
  | none =>
    rw [Option.map_none]
    cases hstored : catalog.index[film]? with
    | none => rfl
    | some existing =>
      have := List.find?_eq_none.mp hfound _ ((h.index_iff film existing).mp hstored)
      rw [Option.filter_some_neg (by simpa using this)]

end Consistent

/-! ## One command -/

theorem create_roster (h : Consistent catalog) (film : Film)
    (hsmall : ∀ made, catalog.create film = .ok made →
      catalog.nextNumber.toNat + 1 < UInt64.size) :
    catalog.roster.create film =
      match catalog.create film with
      | .ok (id, next) => (.created id, next.roster)
      | .error refusal => (.refused refusal, catalog.roster) := by
  have hindex := h.index_eq_find? film
  unfold create at hsmall ⊢
  unfold Roster.create roster
  rw [hindex] at hsmall ⊢
  cases hfound : catalog.entries.find? (·.film == film) with
  | some entry => rfl
  | none =>
    simp only [hfound, Option.map_none] at hsmall ⊢
    by_cases hfull : catalog.capacity ≤ catalog.entries.length
    · rw [if_pos hfull, if_pos (show catalog.capacity ≤ catalog.size from hfull)]
    · have hstep := hsmall _ (if_neg (show ¬ catalog.capacity ≤ catalog.size from hfull))
      rw [if_neg hfull, if_neg (show ¬ catalog.capacity ≤ catalog.size from hfull)]
      simp only [UInt64.ofNat_toNat, toNat_succ hstep]

theorem update_roster (h : Consistent catalog) (id : FilmId) (film : Film) :
    catalog.roster.update id film =
      match catalog.update id film with
      | .ok next => (.done, next.roster)
      | .error refusal => (.refused refusal, catalog.roster) := by
  have hother := h.find?_other_eq id film
  unfold update find? Roster.update Roster.withId?
  simp only [roster]
  cases hfound : catalog.entries.find? (·.id == id) with
  | none => rfl
  | some previous =>
    simp only [Option.map_some]
    cases hstored : catalog.index[film]? with
    | none =>
      rw [hstored, Option.filter_none, Option.map_eq_none_iff] at hother
      simp only [hother, set_findIdx_eq_map h.ids_differ]
    | some existing =>
      by_cases hown : existing = id
      · subst hown
        rw [hstored, Option.filter_some_neg (by simp), Option.map_eq_none_iff] at hother
        simp only [hother, if_true, set_findIdx_eq_map h.ids_differ, h.map_replace_own hstored]
      · rw [hstored, Option.filter_some_pos (by simpa using hown), Option.map_eq_some_iff] at hother
        obtain ⟨other, hfound, rfl⟩ := hother
        simp only [hfound, if_neg hown]

theorem delete_roster (h : Consistent catalog) (id : FilmId) :
    catalog.roster.delete id =
      match catalog.delete id with
      | .ok next => (.done, next.roster)
      | .error refusal => (.refused refusal, catalog.roster) := by
  unfold delete find? Roster.delete Roster.withId?
  simp only [roster]
  cases hfound : catalog.entries.find? (·.id == id) with
  | none => rfl
  | some entry => simp only [Option.map_some, eraseP_eq_filter h.ids_differ]

/-- A roster answers a command as the catalog does, and goes on as its roster. -/
theorem perform_roster (h : Consistent catalog) (command : Command)
    (hsmall : (catalog.perform command).1.isCreated →
      catalog.nextNumber.toNat + 1 < UInt64.size) :
    catalog.roster.perform command =
      ((catalog.perform command).1, (catalog.perform command).2.roster) := by
  cases command with
  | create film =>
    rw [perform_create] at hsmall ⊢
    rw [Roster.perform, create_roster h film fun made hmade => hsmall (by rw [hmade]; rfl)]
    cases catalog.create film <;> rfl
  | get id =>
    rw [perform_get, Roster.perform]
    unfold get find? Roster.withId?
    simp only [roster]
    cases catalog.entries.find? (·.id == id) <;> rfl
  | update id film =>
    rw [perform_update, Roster.perform, update_roster h id film]
    cases catalog.update id film <;> rfl
  | delete id =>
    rw [perform_delete, Roster.perform, delete_roster h id]
    cases catalog.delete id <;> rfl
  | isEmpty =>
    rw [Roster.perform, perform]
    unfold roster
    cases catalog.entries <;> rfl
  | list | clear | reset | size | capacity => rfl

/-! ## Any number of commands -/

theorem run_roster (commands : List Command) (h : Consistent catalog)
    (hfew : catalog.nextNumber.toNat + creations (catalog.run commands).1 < UInt64.size) :
    catalog.roster.run commands =
      ((catalog.run commands).1, (catalog.run commands).2.roster) := by
  induction commands generalizing catalog with
  | nil => rfl
  | cons command commands ih =>
    obtain ⟨hsmall, hnext, hsum⟩ := run_cons_keeps h hfew
    rw [Roster.run, perform_roster h command hsmall, run_cons]
    simp only [ih hnext (hsum ▸ hfew)]

/-- Whatever a fresh catalog is asked, one table without an index answers the same. -/
theorem answers_eq_roster (capacity : Nat) (commands : List Command)
    (hfew : creations (answers capacity commands) < UInt64.size) :
    answers capacity commands = ((Roster.empty capacity).run commands).1 := by
  have hrun := run_roster commands (.empty capacity) (by simpa [answers, empty] using hfew)
  exact (congrArg Prod.fst hrun).symm

theorem answers_eq_roster_sample :
    creations (answers 2 sampleCommands) < UInt64.size ∧
      answers 2 sampleCommands = ((Roster.empty 2).run sampleCommands).1 := by
  have hfew : creations (answers 2 sampleCommands) < UInt64.size := by rw [creations_sample]; decide
  exact ⟨hfew, answers_eq_roster 2 sampleCommands hfew⟩

end Catalog

end FilmCatalog
