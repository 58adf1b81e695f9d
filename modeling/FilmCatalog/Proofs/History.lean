import FilmCatalog.Proofs.Runs
import Mathlib.Data.List.DropRight
import Mathlib.Data.List.Induction

/-!
# What a history leaves

The listing is told by the past alone: by which films were created, and by what happened to each of
them afterwards.
-/

namespace FilmCatalog.Catalog

/-! ## Histories -/

def history (capacity : Nat) (commands : List Command) : List Event :=
  commands.zip (answers capacity commands)

/-- The entry that an event makes, if it lasts through all later ones. It shows the film that was put
in its place last. -/
def survivor? (event : Event) (later : List Event) : Option Entry :=
  match event.created? with
  | some entry =>
    if later.any (·.removes entry.id) then none
    else
      let films := later.filterMap (Event.replaced? entry.id)
      some { entry with film := films.getLast?.getD entry.film }
  | none => none

def surviving : List Event → List Entry
  | [] => []
  | event :: later => (survivor? event later).toList ++ surviving later

/-- The events since everything was last removed at once. -/
def sinceClear (past : List Event) : List Event := past.rtakeWhile (!·.clears)

def creationCount (past : List Event) : Nat := past.countP (·.2.isCreated)

def deletionCount (past : List Event) : Nat := past.countP fun event => event.isDeletion

/-- How many films are stored, by counting. -/
def liveCount (past : List Event) : Nat :=
  creationCount (sinceClear past) - deletionCount (sinceClear past)

/-! ## One more event -/

theorem survivor?_snoc (first event : Event) (later : List Event) :
    survivor? first (later ++ [event]) = (survivor? first later).bind event.left? := by
  unfold survivor?
  cases first.created? with
  | none => rfl
  | some entry =>
    simp only [List.any_append, List.any_cons, List.any_nil, Bool.or_false, List.filterMap_append]
    by_cases hgone : later.any (·.removes entry.id)
    · simp [hgone]
    · rw [Bool.not_eq_true] at hgone
      rw [hgone, Bool.false_or]
      simp only [Bool.false_eq_true, if_false, Option.bind_some]
      unfold Event.left?
      cases hnew : event.replaced? entry.id <;> simp [hnew]

theorem surviving_snoc (past : List Event) (event : Event) :
    surviving (past ++ [event]) =
      (surviving past).filterMap event.left? ++ event.created?.toList := by
  induction past with
  | nil =>
    simp only [List.nil_append, surviving, survivor?]
    cases event.created? <;> rfl
  | cons first past ih =>
    rw [List.cons_append, surviving, surviving, survivor?_snoc, ih, List.filterMap_append,
      ← List.append_assoc]
    congr 2
    cases survivor? first past with
    | none => rfl
    | some entry => cases hleft : event.left? entry <;> simp [hleft]

/-! ## Histories of runs -/

variable (capacity : Nat) (commands : List Command) (command : Command)

theorem answers_snoc :
    answers capacity (commands ++ [command]) =
      answers capacity commands ++ [((reached capacity commands).perform command).1] :=
  answers_append capacity commands [command]

theorem reached_snoc :
    reached capacity (commands ++ [command]) =
      ((reached capacity commands).perform command).2 := by
  unfold reached
  rw [run_append]
  rfl

theorem history_snoc :
    history capacity (commands ++ [command]) =
      history capacity commands ++ [(command, ((reached capacity commands).perform command).1)] := by
  unfold history
  rw [answers_snoc, List.zip_append (by unfold answers; rw [length_run])]
  rfl

theorem entries_reached (hfew : creations (answers capacity commands) < UInt64.size) :
    (reached capacity commands).entries = surviving (history capacity commands) := by
  induction commands using List.reverseRecOn with
  | nil => rfl
  | append_singleton commands command ih =>
    have hbefore := few_of_append capacity hfew
    have hcons := reached_consistent capacity commands hbefore
    rw [reached_snoc, (step_perform _ command).entries_eq hcons, ih hbefore, history_snoc,
      surviving_snoc]

theorem length_reached (hfew : creations (answers capacity commands) < UInt64.size) :
    (reached capacity commands).entries.length +
        deletionCount (sinceClear (history capacity commands)) =
      creationCount (sinceClear (history capacity commands)) := by
  induction commands using List.reverseRecOn with
  | nil => rfl
  | append_singleton commands command ih =>
    have hbefore := few_of_append capacity hfew
    have hcons := reached_consistent capacity commands hbefore
    have hstep := step_perform (reached capacity commands) command
    have hcount := ih hbefore
    rw [reached_snoc, history_snoc]
    unfold sinceClear deletionCount creationCount at *
    rw [List.rtakeWhile_concat]
    split
    · rename_i hkeep
      have hlength := hstep.length_eq hcons (by simpa using hkeep)
      simp only [List.countP_append, List.countP_singleton]
      omega
    · rename_i hclear
      rw [hstep.entries_of_clears (by simpa using hclear)]
      rfl

theorem size_reached (hfew : creations (answers capacity commands) < UInt64.size) :
    (reached capacity commands).size = liveCount (history capacity commands) := by
  have hlength := length_reached capacity commands hfew
  unfold size liveCount
  omega

theorem getElem?_answers_clear (before after : List Command)
    (hfew : creations (answers capacity before) < UInt64.size) :
    (answers capacity (before ++ .clear :: after))[before.length]? =
      some (.removed (liveCount (history capacity before))) := by
  have hlength : (answers capacity before).length = before.length := length_run before
  rw [answers_append, List.getElem?_append_right (by omega), hlength, Nat.sub_self,
    ← size_reached capacity before hfew]
  rfl

/-- What is listed, found and counted at the end of a run is told by its history. -/
theorem reached_of_history (hfew : creations (answers capacity commands) < UInt64.size) :
    let past := history capacity commands
    let catalog := reached capacity commands
    (catalog.perform .list).1 = .listing (surviving past) ∧
      ((surviving past).map (·.id)).Nodup ∧
      (∀ id film, (catalog.perform (.get id)).1 = .film film ↔ ⟨id, film⟩ ∈ surviving past) ∧
      (∀ id, id ∉ (surviving past).map (·.id) →
        (catalog.perform (.get id)).1 = .refused (.noSuchFilm id)) ∧
      deletionCount (sinceClear past) ≤ creationCount (sinceClear past) ∧
      (catalog.perform .size).1 =
        .size (creationCount (sinceClear past) - deletionCount (sinceClear past)) ∧
      ∀ before after, commands = before ++ .clear :: after →
        (answers capacity commands)[before.length]? =
          some (.removed (liveCount (history capacity before))) := by
  intro past catalog
  have hcons : Consistent catalog := reached_consistent capacity commands hfew
  have hentries : catalog.entries = surviving past := entries_reached capacity commands hfew
  have hlength := length_reached capacity commands hfew
  refine ⟨?_, ?_, ?_, ?_, ?_, ?_, ?_⟩
  · rw [← hentries]
    rfl
  · rw [← hentries]
    unfold List.Nodup
    rw [List.pairwise_map]
    exact hcons.ids_differ
  · intro id film
    rw [← hentries, ← hcons.find?_eq_some_iff, perform_get]
    unfold get
    cases catalog.find? id <;> simp
  · intro id habsent
    rw [perform_get]
    unfold get
    cases hfound : catalog.find? id with
    | none => rfl
    | some film =>
      rw [hcons.find?_eq_some_iff, hentries] at hfound
      exact absurd (List.mem_map_of_mem hfound) habsent
  · exact hlength ▸ Nat.le_add_left _ _
  · exact congrArg Answer.size (size_reached capacity commands hfew)
  · intro before after hsplit
    subst hsplit
    exact getElem?_answers_clear capacity before after (few_of_append capacity hfew)

theorem reached_of_history_sample :
    creations (answers 2 sampleCommands) < UInt64.size ∧
      ((reached 2 sampleCommands).perform .list).1 = .listing [⟨⟨3⟩, { title := "c" }⟩] ∧
      ((reached 2 sampleCommands).perform (.get ⟨3⟩)).1 = .film { title := "c" } ∧
      ((reached 2 sampleCommands).perform (.get ⟨0⟩)).1 = .refused (.notFound "0") ∧
      ((reached 2 sampleCommands).perform .size).1 = .size 1 ∧
      (answers 2 sampleCommands)[10]? = some (.removed 2) := by
  have hfew : creations (answers 2 sampleCommands) < UInt64.size := by rw [creations_sample]; decide
  have hpast : surviving (history 2 sampleCommands) = [⟨⟨3⟩, { title := "c" }⟩] ∧
      liveCount (history 2 sampleCommands) = 1 := by
    unfold history
    rw [answers_sample]
    decide
  obtain ⟨hlist, -, hget, hmissing, -, hsize, -⟩ := reached_of_history 2 sampleCommands hfew
  refine ⟨hfew, ?_, ?_, ?_, ?_, ?_⟩
  · rw [hlist, hpast.1]
  · exact (hget _ _).mpr (by rw [hpast.1]; decide)
  · exact hmissing _ (by rw [hpast.1]; decide)
  · exact hsize.trans (congrArg Answer.size hpast.2)
  · rw [answers_sample]
    rfl

end FilmCatalog.Catalog
