import FilmCatalog.Proofs.Runs

/-!
# Changes in another order

Changes to films under different numbers may be made in either order, unless one of them submits a film that the
other one puts away or brings in. All films may be removed in any order, and that comes to the same as to
clear the catalog.
-/

namespace FilmCatalog.Catalog

variable {catalog next : Catalog} {answer : Answer}

/-! ## Changes to one film -/

/-- A change to the film under a number: another film in its place, or none. -/
inductive Change
  | update (id : FilmId) (film : Film)
  | delete (id : FilmId)

namespace Change

def command : Change → Command
  | update id film => .update id film
  | delete id => .delete id

def target : Change → FilmId
  | update id _ => id
  | delete id => id

def submitted? : Change → Option Film
  | update _ film => some film
  | delete _ => none

end Change

/-- The changes go to different numbers, and neither submits the film that stands under the number of the
other one or that the other one submits. -/
structure Apart (catalog : Catalog) (first second : Change) : Prop where
  targets : first.target ≠ second.target
  first_spares : ∀ film, first.submitted? = some film → catalog.find? second.target ≠ some film
  second_spares : ∀ film, second.submitted? = some film → catalog.find? first.target ≠ some film
  films : ∀ film, first.submitted? = some film → second.submitted? ≠ some film

theorem Apart.symm {first second : Change} (h : Apart catalog first second) :
    Apart catalog second first where
  targets := h.targets.symm
  first_spares := h.second_spares
  second_spares := h.first_spares
  films film hsecond hfirst := h.films film hfirst hsecond

/-! ## What a change leaves alone -/

namespace Change

/-- An entry under another number stays as it is. -/
theorem left?_other (change : Change) {entry : Entry} (h : entry.id ≠ change.target) :
    Event.left? (change.command, answer) entry = some entry := by
  unfold Event.left? Event.removes Event.clears Event.deletes Event.replaced?
  cases change with
  | update id film =>
    have hid : id ≠ entry.id := h.symm
    cases answer <;> simp [command, hid]
  | delete id =>
    have hid : id ≠ entry.id := h.symm
    cases answer <;> simp [command, hid]

theorem not_created (change : Change) (h : Step catalog change.command answer next) :
    answer.isCreated = false := by
  cases change <;> cases h <;> rfl

theorem nextNumber_eq (change : Change) (h : Step catalog change.command answer next) :
    next.nextNumber = catalog.nextNumber := by
  rw [h.nextNumber_eq, change.not_created h]
  simp

theorem consistent (change : Change) (h : Step catalog change.command answer next)
    (hc : Consistent catalog) : Consistent next := by
  apply h.consistent hc
  intro hmade
  simp [change.not_created h] at hmade

theorem entries_eq (change : Change) (h : Step catalog change.command answer next)
    (hc : Consistent catalog) :
    next.entries = catalog.entries.filterMap (Event.left? (change.command, answer)) := by
  rw [h.entries_eq hc]
  cases change <;> simp [Event.created?, command]

/-- A film under another number is found as before. -/
theorem find?_other (change : Change) (h : Step catalog change.command answer next)
    (hc : Consistent catalog) {id : FilmId} (hid : id ≠ change.target) :
    next.find? id = catalog.find? id := by
  apply Option.ext
  intro film
  rw [(change.consistent h hc).find?_eq_some_iff, hc.find?_eq_some_iff, change.entries_eq h hc,
    List.mem_filterMap]
  constructor
  · rintro ⟨entry, hmem, hleft⟩
    have hentry : entry.id ≠ change.target := by
      rw [← Event.left?_id hleft]
      exact hid
    rw [change.left?_other hentry] at hleft
    rwa [← Option.some.inj hleft]
  · intro hmem
    exact ⟨_, hmem, change.left?_other hid⟩

/-- A film is looked up as before if it neither comes nor goes. -/
theorem index_other (change : Change) (h : Step catalog change.command answer next) {film : Film}
    (hsubmitted : change.submitted? ≠ some film) (hown : catalog.find? change.target ≠ some film) :
    next.index[film]? = catalog.index[film]? := by
  have hgone {previous : Film} (hfound : catalog.find? change.target = some previous) :
      previous ≠ film := by
    rintro rfl
    exact hown hfound
  cases change with
  | update id new =>
    have hnew : new ≠ film := fun heq => hsubmitted (congrArg some heq)
    cases h with
    | refused | kept => rfl
    | replaced hfound hfresh =>
      simp [Std.ExtHashMap.getElem?_insert, Std.ExtHashMap.getElem?_erase, hnew, hgone hfound]
  | delete id =>
    cases h with
    | refused => rfl
    | deleted hfound => simp [Std.ExtHashMap.getElem?_erase, hgone hfound]

/-- The answer depends on the film under the number and on where the submitted film stands. -/
theorem answer_eq (change : Change) (hfind : next.find? change.target = catalog.find? change.target)
    (hindex : ∀ film, change.submitted? = some film → next.index[film]? = catalog.index[film]?) :
    (next.perform change.command).1 = (catalog.perform change.command).1 := by
  cases change with
  | update id film =>
    have hstands := hindex film rfl
    simp only [command, target] at *
    rw [perform_update, perform_update]
    unfold Catalog.update
    rw [hfind, hstands]
    cases catalog.find? id with
    | none => rfl
    | some previous =>
      cases catalog.index[film]? with
      | none => rfl
      | some existing =>
        by_cases hown : existing = id
        · simp [hown]
        · simp [hown]
  | delete id =>
    simp only [command, target] at *
    rw [perform_delete, perform_delete]
    unfold Catalog.delete
    rw [hfind]
    cases catalog.find? id <;> rfl

end Change

/-! ## Two changes -/

section Two

variable {first second : Change}

/-- The second change is answered as if it came first. -/
theorem Apart.answer_eq (h : Consistent catalog) (hapart : Apart catalog first second) :
    ((catalog.perform first.command).2.perform second.command).1 =
      (catalog.perform second.command).1 := by
  have hstep := step_perform catalog first.command
  apply second.answer_eq
  · exact first.find?_other hstep h hapart.targets.symm
  · intro film hsecond
    apply first.index_other hstep
    · intro hfirst
      exact hapart.films film hfirst hsecond
    · exact hapart.second_spares film hsecond

/-- What another event leaves of an entry is left alone as well. -/
theorem Change.left?_bind_other (change : Change) {event : Event} {entry : Entry}
    (h : entry.id ≠ change.target) :
    (event.left? entry).bind (Event.left? (change.command, answer)) = event.left? entry := by
  cases hleft : event.left? entry with
  | none => rfl
  | some left =>
    rw [← Event.left?_id hleft] at h
    exact change.left?_other h

theorem left?_comm (htargets : first.target ≠ second.target) (x y : Answer) (entry : Entry) :
    (Event.left? (first.command, x) entry).bind (Event.left? (second.command, y)) =
      (Event.left? (second.command, y) entry).bind (Event.left? (first.command, x)) := by
  by_cases hid : entry.id = first.target
  · have hother : entry.id ≠ second.target := by
      rw [hid]
      exact htargets
    rw [second.left?_bind_other hother, second.left?_other hother]
    rfl
  · rw [first.left?_bind_other hid, first.left?_other hid]
    rfl

/-- The entries are the same after both changes, and the other parts of the catalog follow from them. -/
theorem Apart.perform_comm (h : Consistent catalog) (hapart : Apart catalog first second) :
    ((catalog.perform second.command).2.perform first.command).2 =
      ((catalog.perform first.command).2.perform second.command).2 := by
  have hfirst := step_perform catalog first.command
  have hsecond := step_perform catalog second.command
  have hthere := step_perform (catalog.perform first.command).2 second.command
  have hback := step_perform (catalog.perform second.command).2 first.command
  have hone := first.consistent hfirst h
  have htwo := second.consistent hsecond h
  apply (first.consistent hback htwo).eq_of_entries (second.consistent hthere hone)
  · rw [hback.capacity_eq, hsecond.capacity_eq, hthere.capacity_eq, hfirst.capacity_eq]
  · rw [first.nextNumber_eq hback, second.nextNumber_eq hsecond, second.nextNumber_eq hthere,
      first.nextNumber_eq hfirst]
  · rw [first.entries_eq hback htwo, second.entries_eq hsecond h, second.entries_eq hthere hone,
      first.entries_eq hfirst h, hapart.answer_eq h, hapart.symm.answer_eq h, List.filterMap_filterMap,
      List.filterMap_filterMap]
    apply List.filterMap_congr
    intro entry _
    exact (left?_comm hapart.targets _ _ entry).symm

/-- Two changes that are apart get the same answers in either order, namely those that each of them gets alone,
and they lead to the same catalog. -/
theorem changes_commute (capacity : Nat) (commands : List Command)
    (hfew : creations (answers capacity commands) < UInt64.size)
    (hapart : Apart (reached capacity commands) first second) :
    let catalog := reached capacity commands
    let there := catalog.run [first.command, second.command]
    let back := catalog.run [second.command, first.command]
    there.1 = [(catalog.perform first.command).1, (catalog.perform second.command).1] ∧
      back.1 = [(catalog.perform second.command).1, (catalog.perform first.command).1] ∧
      back.2 = there.2 := by
  intro catalog there back
  have h : Consistent catalog := reached_consistent capacity commands hfew
  refine ⟨?_, ?_, hapart.perform_comm h⟩
  · exact congrArg (fun answer => [(catalog.perform first.command).1, answer]) (hapart.answer_eq h)
  · exact congrArg (fun answer => [(catalog.perform second.command).1, answer])
      (hapart.symm.answer_eq h)

/-- Three films that fill their catalog. -/
def sampleShelf : List Command :=
  [.create { title := "a" }, .create { title := "b" }, .create { title := "c" }]

theorem answers_sampleShelf :
    answers 3 sampleShelf = [.created ⟨0⟩, .created ⟨1⟩, .created ⟨2⟩] := by
  simp only [answers, sampleShelf, run]
  simp [perform, orRefused, create, empty, size, Except.map]

theorem entries_sampleShelf :
    (reached 3 sampleShelf).entries =
      [⟨⟨0⟩, { title := "a" }⟩, ⟨⟨1⟩, { title := "b" }⟩, ⟨⟨2⟩, { title := "c" }⟩] := by
  simp only [reached, sampleShelf, run]
  simp [perform, orRefused, create, empty, size, Except.map]

theorem few_sampleShelf : creations (answers 3 sampleShelf) < UInt64.size := by
  rw [answers_sampleShelf]
  decide

/-- The first change is carried out, and the second one is refused for the sake of a third film. -/
theorem changes_commute_sample :
    let first : Change := .update ⟨0⟩ { title := "d" }
    let second : Change := .update ⟨1⟩ { title := "c" }
    let catalog := reached 3 sampleShelf
    creations (answers 3 sampleShelf) < UInt64.size ∧ Apart catalog first second ∧
      (catalog.run [second.command, first.command]).1 = [.refused (.duplicate ⟨2⟩), .done] ∧
      (catalog.run [second.command, first.command]).2 =
        (catalog.run [first.command, second.command]).2 := by
  intro first second catalog
  have hapart : Apart catalog first second := by
    refine ⟨by decide, ?_, ?_, ?_⟩ <;> rintro film ⟨rfl⟩
    · unfold catalog find?
      rw [entries_sampleShelf]
      decide
    · unfold catalog find?
      rw [entries_sampleShelf]
      decide
    · decide
  obtain ⟨-, hback, hsame⟩ := changes_commute 3 sampleShelf few_sampleShelf hapart
  refine ⟨few_sampleShelf, hapart, ?_, hsame⟩
  rw [hback]
  simp only [first, second, reached, sampleShelf, run, Change.command]
  simp [perform, orRefused, create, update, empty, find?, size, Except.map]

end Two

/-! ## All films, one by one -/

/-- The entry under the number is gone, and the others stand as they stood. -/
def Shrinks (id : FilmId) (entries next : List Entry) : Prop :=
  ∃ front film back, entries = front ++ ⟨id, film⟩ :: back ∧ next = front ++ back

theorem perform_delete_of_mem (h : Consistent catalog) {id : FilmId}
    (hmem : id ∈ catalog.entries.map (·.id)) :
    (catalog.perform (.delete id)).1 = .done ∧
      Shrinks id catalog.entries (catalog.perform (.delete id)).2.entries := by
  obtain ⟨⟨id, film⟩, hentry, rfl⟩ := List.mem_map.mp hmem
  have hmade := delete_eq_ok_iff.mpr ⟨film, h.find?_eq_some_iff.mpr hentry, rfl⟩
  obtain ⟨gone, front, back, -, hid, hsplit, hleft⟩ :=
    List.exists_of_eraseP (p := (·.id == id)) hentry (by simp)
  rw [eraseP_eq_filter h.ids_differ] at hleft
  rw [perform_delete, hmade]
  refine ⟨rfl, front, gone.film, back, ?_, hleft⟩
  rw [hsplit, ← beq_iff_eq.mp hid]

/-- Along the way the catalog holds the films whose turn has not come. -/
theorem run_deletes (h : Consistent catalog) {before after : List FilmId}
    (hids : (before ++ after).Perm (catalog.entries.map (·.id))) :
    (catalog.run (before.map .delete)).1 = before.map (fun _ => .done) ∧
      Consistent (catalog.run (before.map .delete)).2 ∧
      (catalog.run (before.map .delete)).2.capacity = catalog.capacity ∧
      (catalog.run (before.map .delete)).2.nextNumber = catalog.nextNumber ∧
      after.Perm ((catalog.run (before.map .delete)).2.entries.map (·.id)) := by
  induction before generalizing catalog with
  | nil => exact ⟨rfl, h, rfl, rfl, hids⟩
  | cons id before ih =>
    obtain ⟨hdone, front, film, back, hentries, hleft⟩ :=
      perform_delete_of_mem h (hids.subset List.mem_cons_self)
    have hstep := step_perform catalog (.delete id)
    have hnext : Consistent (catalog.perform (.delete id)).2 := (Change.delete id).consistent hstep h
    have hothers : (before ++ after).Perm
        ((catalog.perform (.delete id)).2.entries.map (·.id)) := by
      rw [hentries, List.map_append, List.map_cons] at hids
      rw [hleft, List.map_append]
      exact (hids.trans List.perm_middle).cons_inv
    obtain ⟨hanswers, hlast, hcapacity, hnumber, hafter⟩ := ih hnext hothers
    rw [List.map_cons, run_cons]
    refine ⟨?_, hlast, ?_, ?_, hafter⟩
    · rw [hdone, hanswers]
      rfl
    · exact hcapacity.trans hstep.capacity_eq
    · exact hnumber.trans ((Change.delete id).nextNumber_eq hstep)

/-- To delete the films one by one, in any order, takes as many deletions as there are films, and ends where
to clear the catalog ends. -/
theorem clear_eq_deletions (capacity : Nat) (commands : List Command)
    (hfew : creations (answers capacity commands) < UInt64.size) {ids : List FilmId}
    (hids : ids.Perm ((reached capacity commands).entries.map (·.id))) :
    let catalog := reached capacity commands
    let last := (catalog.run (ids.map .delete)).2
    (catalog.run (ids.map .delete)).1 = ids.map (fun _ => .done) ∧
      (∀ before id after, ids = before ++ id :: after →
        let here := (catalog.run (before.map .delete)).2
        Shrinks id here.entries (here.perform (.delete id)).2.entries) ∧
      catalog.perform .clear = (.removed ids.length, last) ∧
      last.entries = [] ∧ last.index = ∅ ∧ last.nextNumber = catalog.nextNumber ∧
      ∀ later, last.run later = (catalog.perform .clear).2.run later := by
  intro catalog last
  have h : Consistent catalog := reached_consistent capacity commands hfew
  have hall := hids
  rw [← List.append_nil ids] at hall
  obtain ⟨hanswers, hlast, hcapacity, hnumber, hnone⟩ := run_deletes h hall
  have hempty : last.entries = [] := by
    have hids := List.nil_perm.mp hnone
    exact List.map_eq_nil_iff.mp hids
  have hclear : last = catalog.clear := hlast.eq_of_entries .clear hcapacity hnumber hempty
  have hcount : catalog.size = ids.length := by
    unfold size
    rw [hids.length_eq, List.length_map]
  refine ⟨hanswers, ?_, ?_, hempty, ?_, hnumber, ?_⟩
  · intro before id after hsplit here
    rw [hsplit] at hids
    obtain ⟨-, hhere, -, -, hleft⟩ := run_deletes h hids
    exact (perform_delete_of_mem hhere (hleft.subset List.mem_cons_self)).2
  · rw [hclear, ← hcount]
    rfl
  · rw [hclear]
    rfl
  · intro later
    rw [hclear]
    rfl

theorem clear_eq_deletions_sample :
    let catalog := reached 3 sampleShelf
    let ids : List FilmId := [⟨1⟩, ⟨2⟩, ⟨0⟩]
    creations (answers 3 sampleShelf) < UInt64.size ∧ ids.Perm (catalog.entries.map (·.id)) ∧
      (catalog.run (ids.map .delete)).1 = [.done, .done, .done] ∧
      catalog.perform .clear = (.removed 3, (catalog.run (ids.map .delete)).2) := by
  intro catalog ids
  have hids : ids.Perm (catalog.entries.map (·.id)) := by
    rw [entries_sampleShelf]
    decide
  obtain ⟨hdone, -, hclear, -⟩ := clear_eq_deletions 3 sampleShelf few_sampleShelf hids
  exact ⟨few_sampleShelf, hids, hdone, hclear⟩

end FilmCatalog.Catalog
