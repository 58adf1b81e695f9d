import FilmCatalog.Catalog.Command
import FilmCatalog.Catalog.Consistent
import Mathlib.Data.List.Nodup

/-!
# Runs of the catalog

What one command can do, and what any number of commands on a fresh catalog keep.
-/

namespace FilmCatalog.Catalog

/-! ## One command -/

/-- All that a command can do: its answer, and the catalog that it leaves. -/
inductive Step (catalog : Catalog) : Command → Answer → Catalog → Prop
  | refused {command : Command} (refusal : Refusal) :
    Step catalog command (.refused refusal) catalog
  | created {film : Film} (hfresh : catalog.index[film]? = none)
      (hfree : catalog.size < catalog.capacity) :
    Step catalog (.create film) (.created ⟨catalog.nextNumber⟩)
      { catalog with
        entries := catalog.entries ++ [{ id := ⟨catalog.nextNumber⟩, film }]
        index := catalog.index.insert film ⟨catalog.nextNumber⟩
        nextNumber := catalog.nextNumber + 1 }
  | got {id : FilmId} {film : Film} (hfound : catalog.find? id = some film) :
    Step catalog (.get id) (.film film) catalog
  | kept {id : FilmId} {film : Film} (hown : catalog.index[film]? = some id) :
    Step catalog (.update id film) .done catalog
  | replaced {id : FilmId} {film previous : Film} (hfound : catalog.find? id = some previous)
      (hfresh : catalog.index[film]? = none) :
    Step catalog (.update id film) .done
      { catalog with
        entries := catalog.entries.map fun entry =>
          if entry.id = id then { entry with film } else entry
        index := (catalog.index.erase previous).insert film id }
  | deleted {id : FilmId} {film : Film} (hfound : catalog.find? id = some film) :
    Step catalog (.delete id) .done
      { catalog with
        entries := catalog.entries.filter (·.id != id)
        index := catalog.index.erase film }
  | listed : Step catalog .list (.listing catalog.entries) catalog
  | cleared : Step catalog .clear (.removed catalog.size) catalog.clear
  | reset : Step catalog .reset .done catalog.clear
  | counted : Step catalog .size (.size catalog.size) catalog
  | tested : Step catalog .isEmpty (.isEmpty catalog.entries.isEmpty) catalog
  | bounded : Step catalog .capacity (.capacity catalog.capacity) catalog

theorem step_perform (catalog : Catalog) (command : Command) :
    Step catalog command (catalog.perform command).1 (catalog.perform command).2 := by
  cases command with
  | create film =>
    rw [perform_create]
    rcases hmade : catalog.create film with refusal | ⟨id, next⟩
    · exact .refused refusal
    · obtain ⟨hfresh, hfree, rfl, rfl⟩ := create_eq_ok_iff.mp hmade
      exact .created hfresh hfree
  | get id =>
    rw [perform_get]
    unfold get
    cases hfound : catalog.find? id with
    | none => exact .refused _
    | some film => exact .got hfound
  | update id film =>
    rw [perform_update]
    rcases hmade : catalog.update id film with refusal | next
    · exact .refused refusal
    · obtain ⟨previous, hfound, ⟨hown, rfl⟩ | ⟨hfresh, rfl⟩⟩ := update_eq_ok_iff.mp hmade
      · exact .kept hown
      · exact .replaced hfound hfresh
  | delete id =>
    rw [perform_delete]
    rcases hmade : catalog.delete id with refusal | next
    · exact .refused refusal
    · obtain ⟨film, hfound, rfl⟩ := delete_eq_ok_iff.mp hmade
      exact .deleted hfound
  | list => exact .listed
  | clear => exact .cleared
  | reset => exact .reset
  | size => exact .counted
  | isEmpty => exact .tested
  | capacity => exact .bounded

def Answer.isCreated : Answer → Bool
  | .created _ => true
  | _ => false

/-- A command with its answer. -/
abbrev Event := Command × Answer

namespace Event

def created? : Event → Option Entry
  | (.create film, .created id) => some { id, film }
  | _ => none

def replaced? (id : FilmId) : Event → Option Film
  | (.update target film, .done) => if target = id then some film else none
  | _ => none

def deletes (id : FilmId) : Event → Bool
  | (.delete target, .done) => target == id
  | _ => false

def isDeletion : Event → Bool
  | (.delete _, .done) => true
  | _ => false

def clears : Event → Bool
  | (.clear, .removed _) => true
  | (.reset, .done) => true
  | _ => false

def removes (event : Event) (id : FilmId) : Bool := event.clears || event.deletes id

/-- What an event leaves of an entry. -/
def left? (event : Event) (entry : Entry) : Option Entry :=
  if event.removes entry.id then none
  else some { entry with film := (event.replaced? entry.id).getD entry.film }

theorem left?_id {event : Event} {entry left : Entry} (h : event.left? entry = some left) :
    left.id = entry.id := by
  unfold left? at h
  split at h
  · cases h
  · cases h
    rfl

theorem left?_refused (command : Command) (refusal : Refusal) :
    left? (command, .refused refusal) = some := by
  cases command <;> rfl

theorem created?_refused (command : Command) (refusal : Refusal) :
    created? (command, .refused refusal) = none := by
  cases command <;> rfl

theorem filterMap_left?_update (entries : List Entry) (id : FilmId) (film : Film) :
    entries.filterMap (left? (.update id film, .done)) =
      entries.map fun entry => if entry.id = id then { entry with film } else entry := by
  rw [← List.filterMap_eq_map']
  apply List.filterMap_congr
  intro entry _
  unfold left? removes clears deletes replaced?
  by_cases hid : entry.id = id
  · simp [hid]
  · simp [hid, Ne.symm hid]

theorem filterMap_left?_delete (entries : List Entry) (id : FilmId) :
    entries.filterMap (left? (.delete id, .done)) = entries.filter (·.id != id) := by
  rw [← List.filterMap_eq_filter]
  apply List.filterMap_congr
  intro entry _
  unfold left? removes clears deletes replaced? Option.guard
  by_cases hid : entry.id = id
  · simp [hid]
  · simp [hid, Ne.symm hid]

end Event

theorem Consistent.ids_differ {catalog : Catalog} (h : Consistent catalog) :
    catalog.entries.Pairwise fun a b => a.id ≠ b.id :=
  h.sorted.imp fun hlt heq => by rw [heq] at hlt; omega

theorem eraseP_eq_filter {entries : List Entry} {id : FilmId}
    (h : entries.Pairwise fun a b => a.id ≠ b.id) :
    entries.eraseP (·.id == id) = entries.filter (·.id != id) := by
  induction entries with
  | nil => rfl
  | cons entry entries ih =>
    rw [List.pairwise_cons] at h
    by_cases hid : entry.id = id
    · rw [List.eraseP_cons_of_pos (by simpa using hid), List.filter_cons_of_neg (by simpa using hid)]
      refine (List.filter_eq_self.mpr fun other hother => ?_).symm
      rw [bne_iff_ne, ← hid]
      exact (h.1 other hother).symm
    · rw [List.eraseP_cons_of_neg (by simpa using hid), List.filter_cons_of_pos (by simpa using hid),
        ih h.2]

/-- To put a film again where it stands already changes no entry. -/
theorem Consistent.map_replace_own {catalog : Catalog} (h : Consistent catalog) {id : FilmId}
    {film : Film} (hown : catalog.index[film]? = some id) :
    (catalog.entries.map fun entry => if entry.id = id then { entry with film } else entry) =
      catalog.entries := by
  have hmem := (h.index_iff film id).mp hown
  refine (List.map_congr_left fun entry hentry => ?_).trans (List.map_id _)
  split
  · rename_i hid
    rw [h.eq_of_id_eq hentry hmem hid]
    rfl
  · rfl

namespace Step

variable {catalog next : Catalog} {command : Command} {answer : Answer}

theorem capacity_eq (h : Step catalog command answer next) : next.capacity = catalog.capacity := by
  cases h <;> rfl

theorem nextNumber_eq (h : Step catalog command answer next) :
    next.nextNumber = catalog.nextNumber + if answer.isCreated then 1 else 0 := by
  cases h <;> simp [Answer.isCreated, clear]

theorem consistent (h : Step catalog command answer next) (hc : Consistent catalog)
    (hsmall : answer.isCreated → catalog.nextNumber.toNat + 1 < UInt64.size) : Consistent next := by
  cases h with
  | created hfresh hfree =>
    exact hc.create (hsmall rfl) (create_eq_ok_iff.mpr ⟨hfresh, hfree, rfl, rfl⟩)
  | replaced hfound hfresh =>
    exact hc.update (update_eq_ok_iff.mpr ⟨_, hfound, .inr ⟨hfresh, rfl⟩⟩)
  | deleted hfound => exact hc.delete (delete_eq_ok_iff.mpr ⟨_, hfound, rfl⟩)
  | cleared | reset => exact .clear
  | _ => exact hc

/-- An event acts on each entry by itself, and a new entry goes to the end. -/
theorem entries_eq (h : Step catalog command answer next) (hc : Consistent catalog) :
    next.entries =
      catalog.entries.filterMap (Event.left? (command, answer)) ++
        (Event.created? (command, answer)).toList := by
  cases h with
  | refused refusal =>
    rw [Event.left?_refused, Event.created?_refused]
    exact ((List.append_nil _).trans List.filterMap_some).symm
  | created hfresh hfree => exact congrArg (· ++ [_]) List.filterMap_some.symm
  | kept hown =>
    rw [Event.filterMap_left?_update, hc.map_replace_own hown]
    exact (List.append_nil _).symm
  | replaced hfound hfresh =>
    rw [Event.filterMap_left?_update]
    exact (List.append_nil _).symm
  | deleted hfound =>
    rw [Event.filterMap_left?_delete]
    exact (List.append_nil _).symm
  | cleared | reset =>
    refine (List.append_eq_nil_iff.mpr ⟨?_, rfl⟩).symm
    exact List.filterMap_eq_nil_iff.mpr fun _ _ => rfl
  | _ => exact ((List.append_nil _).trans List.filterMap_some).symm

theorem entries_of_clears (h : Step catalog command answer next)
    (hclear : Event.clears (command, answer)) : next.entries = [] := by
  cases h with
  | refused refusal => cases command <;> cases hclear
  | cleared | reset => rfl
  | _ => cases hclear

theorem length_eq (h : Step catalog command answer next) (hc : Consistent catalog)
    (hkeep : ¬ Event.clears (command, answer)) :
    next.entries.length + (if Event.isDeletion (command, answer) then 1 else 0) =
      catalog.entries.length + if answer.isCreated then 1 else 0 := by
  cases h with
  | refused refusal => cases command <;> rfl
  | created hfresh hfree => simp [Event.isDeletion, Answer.isCreated]
  | replaced hfound hfresh => simp [Event.isDeletion, Answer.isCreated]
  | @deleted id film hfound =>
    have hmem := hc.find?_eq_some_iff.mp hfound
    have hlength := List.length_eraseP_of_mem (p := (·.id == id)) hmem (by simp)
    have hpos := List.length_pos_of_mem hmem
    rw [eraseP_eq_filter hc.ids_differ] at hlength
    simp only [Event.isDeletion, Answer.isCreated, if_true]
    rw [hlength]
    simp
    omega
  | cleared | reset => exact absurd rfl hkeep
  | _ => rfl

end Step

/-! ## Any number of commands -/

def creations (answers : List Answer) : Nat := answers.countP Answer.isCreated

/-- The answers to commands on a fresh catalog. -/
def answers (capacity : Nat) (commands : List Command) : List Answer :=
  ((empty capacity).run commands).1

/-- The catalog that commands on a fresh one lead to. -/
def reached (capacity : Nat) (commands : List Command) : Catalog :=
  ((empty capacity).run commands).2

variable {catalog : Catalog}

theorem run_cons (command : Command) (commands : List Command) :
    catalog.run (command :: commands) =
      ((catalog.perform command).1 :: ((catalog.perform command).2.run commands).1,
        ((catalog.perform command).2.run commands).2) := rfl

theorem run_append (before after : List Command) :
    catalog.run (before ++ after) =
      ((catalog.run before).1 ++ ((catalog.run before).2.run after).1,
        ((catalog.run before).2.run after).2) := by
  induction before generalizing catalog with
  | nil => rfl
  | cons command before ih => simp only [List.cons_append, run_cons, ih]

theorem length_run (commands : List Command) : (catalog.run commands).1.length = commands.length := by
  induction commands generalizing catalog with
  | nil => rfl
  | cons command commands ih => rw [run_cons, List.length_cons, List.length_cons, ih]

/-- A creation takes one number, and nothing else takes any. So the next number and the creations to
come have the same sum all along a run. -/
theorem run_cons_keeps {command : Command} {commands : List Command} (h : Consistent catalog)
    (hfew : catalog.nextNumber.toNat + creations (catalog.run (command :: commands)).1 < UInt64.size) :
    ((catalog.perform command).1.isCreated → catalog.nextNumber.toNat + 1 < UInt64.size) ∧
      Consistent (catalog.perform command).2 ∧
      (catalog.perform command).2.nextNumber.toNat +
          creations ((catalog.perform command).2.run commands).1 =
        catalog.nextNumber.toNat + creations (catalog.run (command :: commands)).1 := by
  have hstep := step_perform catalog command
  rw [run_cons] at hfew ⊢
  simp only [creations, List.countP_cons] at hfew ⊢
  have hsmall : (catalog.perform command).1.isCreated →
      catalog.nextNumber.toNat + 1 < UInt64.size := by
    intro hmade
    rw [if_pos hmade] at hfew
    omega
  refine ⟨hsmall, hstep.consistent h hsmall, ?_⟩
  rw [hstep.nextNumber_eq]
  by_cases hmade : (catalog.perform command).1.isCreated
  · rw [if_pos hmade, if_pos hmade, toNat_succ (hsmall hmade)]
    omega
  · rw [if_neg hmade, if_neg hmade, UInt64.add_zero]
    rfl

theorem run_keeps (commands : List Command) (h : Consistent catalog)
    (hfew : catalog.nextNumber.toNat + creations (catalog.run commands).1 < UInt64.size) :
    Consistent (catalog.run commands).2 ∧
      (catalog.run commands).2.capacity = catalog.capacity ∧
      (catalog.run commands).2.nextNumber.toNat =
        catalog.nextNumber.toNat + creations (catalog.run commands).1 := by
  induction commands generalizing catalog with
  | nil => exact ⟨h, rfl, rfl⟩
  | cons command commands ih =>
    obtain ⟨-, hnext, hsum⟩ := run_cons_keeps h hfew
    obtain ⟨hlast, hcapacity, hnumber⟩ := ih hnext (by omega)
    rw [run_cons] at *
    exact ⟨hlast, hcapacity.trans (step_perform catalog command).capacity_eq, hnumber.trans hsum⟩

theorem creations_answers_le (capacity : Nat) (commands : List Command) :
    creations (answers capacity commands) ≤ commands.length := by
  have hlength : (answers capacity commands).length = commands.length := length_run commands
  rw [← hlength]
  exact List.countP_le_length

theorem answers_append (capacity : Nat) (before after : List Command) :
    answers capacity (before ++ after) =
      answers capacity before ++ ((reached capacity before).run after).1 := by
  unfold answers reached
  rw [run_append]

theorem few_of_append (capacity : Nat) {before after : List Command}
    (hfew : creations (answers capacity (before ++ after)) < UInt64.size) :
    creations (answers capacity before) < UInt64.size := by
  unfold creations at *
  rw [answers_append, List.countP_append] at hfew
  exact Nat.lt_of_le_of_lt (Nat.le_add_right _ _) hfew

theorem reached_keeps (capacity : Nat) (commands : List Command)
    (hfew : creations (answers capacity commands) < UInt64.size) :
    Consistent (reached capacity commands) ∧ (reached capacity commands).capacity = capacity ∧
      (reached capacity commands).nextNumber.toNat = creations (answers capacity commands) := by
  unfold reached answers at *
  simpa [empty] using run_keeps commands (.empty capacity) (by simpa [empty] using hfew)

theorem reached_consistent (capacity : Nat) (commands : List Command)
    (hfew : creations (answers capacity commands) < UInt64.size) :
    Consistent (reached capacity commands) := (reached_keeps capacity commands hfew).1

/-! ## The two tables -/

theorem Consistent.entries_nodup (h : Consistent catalog) : catalog.entries.Nodup :=
  h.sorted.imp fun hlt heq => by rw [heq] at hlt; omega

theorem Consistent.films_nodup (h : Consistent catalog) : (catalog.entries.map (·.film)).Nodup :=
  h.entries_nodup.map_on fun _ ha _ hb => h.eq_of_film_eq ha hb

theorem Consistent.pairs_distinct (h : Consistent catalog) :
    (catalog.entries.map fun entry => (entry.film, entry.id)).Pairwise
      fun a b => (a.1 == b.1) = false := by
  have hfilms := h.films_nodup
  unfold List.Nodup at hfilms
  rw [List.pairwise_map] at hfilms ⊢
  exact hfilms.imp fun hne => beq_eq_false_iff_ne.mpr hne

/-- The index holds the entries and nothing else, turned round. -/
theorem Consistent.index_eq (h : Consistent catalog) :
    catalog.index = .ofList (catalog.entries.map fun entry => (entry.film, entry.id)) := by
  apply Std.ExtHashMap.ext_getElem?
  intro film
  cases hstored : catalog.index[film]? with
  | some id =>
    have hmem := (h.index_iff film id).mp hstored
    exact (Std.ExtHashMap.getElem?_ofList_of_mem (beq_self_eq_true film) h.pairs_distinct
      (List.mem_map_of_mem hmem)).symm
  | none =>
    refine (Std.ExtHashMap.getElem?_ofList_of_contains_eq_false ?_).symm
    rw [List.map_map, List.contains_eq_mem, decide_eq_false_iff_not]
    intro hmem
    obtain ⟨entry, hentry, rfl⟩ := List.mem_map.mp hmem
    have := (h.index_iff entry.film entry.id).mpr hentry
    simp [this] at hstored

/-- The entries tell the index, so they tell the catalog but for its capacity and its next number. -/
theorem Consistent.eq_of_entries {other : Catalog} (h : Consistent catalog) (hother : Consistent other)
    (hcapacity : catalog.capacity = other.capacity) (hnumber : catalog.nextNumber = other.nextNumber)
    (hentries : catalog.entries = other.entries) : catalog = other := by
  have hindex : catalog.index = other.index := by rw [h.index_eq, hother.index_eq, hentries]
  obtain ⟨capacity, entries, index, nextNumber⟩ := catalog
  obtain ⟨capacity', entries', index', nextNumber'⟩ := other
  simp only at hcapacity hentries hindex hnumber
  rw [hcapacity, hentries, hindex, hnumber]

/-- What a catalog is like after some creations, told by both of its tables. -/
structure Sound (capacity created : Nat) (catalog : Catalog) : Prop where
  inverse : ∀ id film, catalog.find? id = some film ↔ catalog.index[film]? = some id
  same_size : catalog.index.size = catalog.entries.length
  films_differ : (catalog.entries.map (·.film)).Nodup
  ids_increase : (catalog.entries.map (·.id.number)).Pairwise (· < ·)
  ids_below : ∀ entry ∈ catalog.entries, entry.id.number < catalog.nextNumber
  fits : catalog.entries.length ≤ capacity
  counted : catalog.nextNumber.toNat = created

theorem Consistent.sound (h : Consistent catalog) :
    Sound catalog.capacity catalog.nextNumber.toNat catalog where
  inverse id film := by rw [h.find?_eq_some_iff, h.index_iff]
  same_size := by
    rw [h.index_eq, Std.ExtHashMap.size_ofList h.pairs_distinct, List.length_map]
  films_differ := h.films_nodup
  ids_increase := by
    rw [List.pairwise_map]
    exact h.sorted.imp fun hlt => UInt64.lt_iff_toNat_lt.mpr hlt
  ids_below entry hentry := UInt64.lt_iff_toNat_lt.mpr (h.below entry hentry)
  fits := h.room
  counted := rfl

/-- Both tables of a catalog tell the same films after every run, and the next number is how many
films were ever created. -/
theorem reached_sound (capacity : Nat) (commands : List Command)
    (hfew : creations (answers capacity commands) < UInt64.size) :
    Sound capacity (creations (answers capacity commands)) (reached capacity commands) := by
  unfold reached answers at *
  obtain ⟨hlast, hcapacity, hnumber⟩ :=
    run_keeps commands (.empty capacity) (by simpa [empty] using hfew)
  have hsound := hlast.sound
  rw [hcapacity, hnumber] at hsound
  simpa [empty] using hsound

/-- Commands that are carried out and refused by turns. -/
def sampleCommands : List Command :=
  [.create { title := "a" }, .create { title := "b" }, .create { title := "c" },
    .create { title := "a" }, .update ⟨0⟩ { title := "b" }, .update ⟨0⟩ { title := "a" },
    .update ⟨0⟩ { title := "c" }, .update ⟨7⟩ { title := "d" }, .delete ⟨1⟩,
    .create { title := "a" }, .clear, .create { title := "c" }, .list]

theorem answers_sample :
    answers 2 sampleCommands =
      [.created ⟨0⟩, .created ⟨1⟩, .refused (.full 2), .refused (.duplicate ⟨0⟩),
        .refused (.duplicate ⟨1⟩), .done, .done, .refused (.notFound "7"), .done, .created ⟨2⟩,
        .removed 2, .created ⟨3⟩, .listing [⟨⟨3⟩, { title := "c" }⟩]] := by
  simp only [answers, sampleCommands, run]
  simp [perform, orRefused, create, update, delete, clear, empty, find?, size, Except.map,
    Std.ExtHashMap.getElem_insert]
  rfl

theorem creations_sample : creations (answers 2 sampleCommands) = 4 := by
  rw [answers_sample]
  rfl

theorem reached_sound_sample :
    creations (answers 2 sampleCommands) = 4 ∧ Sound 2 4 (reached 2 sampleCommands) := by
  refine ⟨creations_sample, ?_⟩
  rw [← creations_sample]
  exact reached_sound 2 sampleCommands (by rw [creations_sample]; decide)

end FilmCatalog.Catalog
