import FilmCatalog.Proofs.Creations
import FilmCatalog.Proofs.History

/-!
# Numbers that never come back

Films get the numbers from zero on, one after the other. A film that is removed takes its number with it:
whoever names it later is told that there is no such film, whatever has been stored since.
-/

namespace FilmCatalog

/-! ## Numbers of a catalog -/

namespace Catalog

variable {catalog next : Catalog} {command : Command} {answer : Answer} {id : FilmId}

/-- The number was given to a film once, and no film has it now. -/
structure Retired (catalog : Catalog) (id : FilmId) : Prop where
  given : id.number.toNat < catalog.nextNumber.toNat
  gone : ∀ film, ⟨id, film⟩ ∉ catalog.entries

theorem Retired.find?_eq_none (h : Retired catalog id) : catalog.find? id = none := by
  rw [find?_eq_none_iff]
  rintro entry hmem rfl
  exact h.gone entry.film hmem

theorem Step.retired (h : Step catalog command answer next)
    (hsmall : answer.isCreated → catalog.nextNumber.toNat + 1 < UInt64.size)
    (hretired : Retired catalog id) : Retired next id := by
  obtain ⟨hgiven, hgone⟩ := hretired
  cases h with
  | created hfresh hfree =>
    refine ⟨Nat.lt_trans hgiven (by simp [toNat_succ (hsmall rfl)]), fun film hmem => ?_⟩
    rcases List.mem_append.mp hmem with hold | hnew
    · exact hgone film hold
    · -- The new number was not given before.
      cases List.mem_singleton.mp hnew
      exact Nat.lt_irrefl _ hgiven
  | replaced hfound hfresh =>
    refine ⟨hgiven, fun film hmem => ?_⟩
    obtain ⟨entry, hentry, heq⟩ := List.mem_map.mp hmem
    have hid : entry.id = id := by
      split at heq <;> cases heq <;> rfl
    subst hid
    exact hgone entry.film hentry
  | deleted hfound => exact ⟨hgiven, fun film hmem => hgone film (List.mem_filter.mp hmem).1⟩
  | cleared | reset => exact ⟨hgiven, fun film => List.not_mem_nil⟩
  | refused | got | kept | listed | counted | tested | bounded => exact ⟨hgiven, hgone⟩

theorem run_retired (commands : List Command) (hc : Consistent catalog)
    (hfew : catalog.nextNumber.toNat + creations (catalog.run commands).1 < UInt64.size)
    (hretired : Retired catalog id) : Retired (catalog.run commands).2 id := by
  induction commands generalizing catalog with
  | nil => exact hretired
  | cons command commands ih =>
    obtain ⟨hsmall, hnext, hsum⟩ := run_cons_keeps hc hfew
    rw [run_cons]
    exact ih hnext (by omega) ((step_perform catalog command).retired hsmall hretired)

theorem reached_retired (capacity : Nat) {before after : List Command}
    (hfew : creations (answers capacity (before ++ after)) < UInt64.size)
    (hretired : Retired (reached capacity before) id) :
    Retired (reached capacity (before ++ after)) id := by
  obtain ⟨hc, -, hnumber⟩ := reached_keeps capacity before (few_of_append capacity hfew)
  have hlast : reached capacity (before ++ after) = ((reached capacity before).run after).2 := by
    unfold reached
    rw [run_append]
  rw [hlast]
  apply run_retired after hc _ hretired
  rw [hnumber]
  unfold creations at hfew ⊢
  rwa [← List.countP_append, ← answers_append]

theorem Step.numbers_created (h : Step catalog command answer next) :
    (Event.created? (command, answer)).toList.map (·.id.number.toNat) =
      if answer.isCreated then [catalog.nextNumber.toNat] else [] := by
  cases h with
  | refused refusal =>
    rw [Event.created?_refused]
    rfl
  | _ => rfl

/-- The entries that were added, in the order in which they were. -/
def additions (past : List Event) : List Entry := past.filterMap Event.created?

theorem additions_snoc (past : List Event) (event : Event) :
    additions (past ++ [event]) = additions past ++ event.created?.toList := by
  unfold additions
  rw [List.filterMap_append, List.filterMap_cons]
  cases event.created? <;> rfl

theorem numbers_additions (capacity : Nat) (commands : List Command)
    (hfew : creations (answers capacity commands) < UInt64.size) :
    (additions (history capacity commands)).map (·.id.number.toNat) =
      List.range (creations (answers capacity commands)) := by
  induction commands using List.reverseRecOn with
  | nil => rfl
  | append_singleton commands command ih =>
    have hbefore := few_of_append capacity hfew
    obtain ⟨-, -, hnumber⟩ := reached_keeps capacity commands hbefore
    have hstep := step_perform (reached capacity commands) command
    rw [history_snoc, additions_snoc, List.map_append, ih hbefore, hstep.numbers_created, hnumber,
      answers_snoc]
    unfold creations
    rw [List.countP_append, List.countP_singleton]
    split
    · exact List.range_succ.symm
    · exact List.append_nil _

end Catalog

/-! ## Numbers that requests use -/

namespace Service

open Catalog (Consistent Retired additions history)

variable {settings : Settings} {catalog : Catalog} {request : Request} {id : FilmId}

/-- The entries that requests add, in the order in which they add them. -/
def added (settings : Settings) (requests : List Request) : List Entry :=
  additions (history settings.capacity (asked requests))

theorem added_snoc (settings : Settings) (before : List Request) (request : Request) :
    ∃ new : Option Entry,
      (∀ entry, new = some entry ↔
        Gains (catalogAfter settings before)
          (respond settings (catalogAfter settings before) request).2 entry) ∧
      added settings (before ++ [request]) = added settings before ++ new.toList := by
  rw [respond_catalog, catalogAfter_eq]
  unfold added
  rw [asked_append, asked_cons]
  cases request.plan.command? with
  | none =>
    refine ⟨none, fun entry => ?_, ?_⟩
    · exact iff_of_false (by simp) (not_gains_self _ entry)
    · simp [asked]
  | some command =>
    have hstep := Catalog.step_perform (Catalog.reached settings.capacity (asked before)) command
    refine ⟨_, fun entry => (gains_iff_created hstep).symm, ?_⟩
    rw [← Catalog.additions_snoc, ← Catalog.history_snoc]
    rfl

theorem numbers_added (settings : Settings) {requests : List Request}
    (hfew : filmsStored settings requests < UInt64.size) :
    (added settings requests).map (·.id.number.toNat) = List.range (filmsStored settings requests) :=
  Catalog.numbers_additions settings.capacity (asked requests) hfew

theorem number_of_gains {before : List Request} {entry : Entry}
    (hfew : filmsStored settings (before ++ [request]) < UInt64.size)
    (h : Gains (catalogAfter settings before)
      (respond settings (catalogAfter settings before) request).2 entry) :
    entry.id.number.toNat = (added settings before).length := by
  obtain ⟨new, hnew, hadded⟩ := added_snoc settings before request
  have hnumbers := numbers_added settings hfew
  rw [hadded, (hnew entry).mpr h] at hnumbers
  have hlength := congrArg List.length hnumbers
  simp only [Option.toList_some, List.map_append, List.map_singleton, List.length_append,
    List.length_map, List.length_singleton, List.length_range] at hnumbers hlength
  rw [← hlength, List.range_succ] at hnumbers
  exact List.singleton_inj.mp (List.append_inj_right' hnumbers rfl)

theorem catalogAfter_retired {before after : List Request}
    (hfew : filmsStored settings (before ++ after) < UInt64.size)
    (hretired : Retired (catalogAfter settings before) id) :
    Retired (catalogAfter settings (before ++ after)) id := by
  unfold filmsStored at hfew
  rw [catalogAfter_eq] at hretired ⊢
  rw [asked_append] at hfew ⊢
  exact Catalog.reached_retired settings.capacity hfew hretired

/-- The film under the number is removed, alone or with all others. -/
inductive Removes (settings : Settings) (catalog : Catalog) (request : Request) (id : FilmId) : Prop
  | alone (hmethod : request.method = .delete) (hnames : request.Names id)
      (hok : (respond settings catalog request).1.status.code = 200) :
    Removes settings catalog request id
  | withAll (hmethod : request.method = .delete) (hpath : request.AtFilms) {film : Film}
      (hmem : ⟨id, film⟩ ∈ catalog.entries) : Removes settings catalog request id

theorem retired_of_removes (hc : Consistent catalog) (h : Removes settings catalog request id) :
    Retired (respond settings catalog request).2 id := by
  cases h with
  | alone hmethod hnames hcode =>
    have hok := Status.code_inj (b := .ok) hcode
    rw [respond_eq, Request.plan_delete hmethod hnames, Plan.perform] at hok ⊢
    cases hmade : catalog.delete id with
    | error refusal =>
      rw [hmade] at hok
      exact absurd hok (statusIn_refusal refusal _).1
    | ok next =>
      obtain ⟨film, hfound, rfl⟩ := Catalog.delete_eq_ok_iff.mp hmade
      refine ⟨hc.below _ (hc.find?_eq_some_iff.mp hfound), fun other hmem => ?_⟩
      simpa using (List.mem_filter.mp hmem).2
  | withAll hmethod hpath hmem =>
    have hclear : request.operation? = some .clear :=
      Request.operation?_of_orders (.clear hmethod hpath)
    rw [respond_operation, hclear]
    exact ⟨hc.below _ hmem, fun film => List.not_mem_nil⟩

/-- The request looks at the film under the number, or would replace or remove it. -/
def CallsFor (request : Request) (id : FilmId) : Prop :=
  request.Names id ∧
    (request.method = .get ∨ request.method = .delete ∨
      request.method = .put ∧ ∃ film, request.Submits film)

theorem perform_missing (hmissing : catalog.find? id = none) (h : CallsFor request id) :
    request.plan.perform catalog = (.refused (.noSuchFilm id), catalog) := by
  obtain ⟨hnames, hget | hdelete | ⟨hput, film, hsubmits⟩⟩ := h
  · rw [Request.plan_get hget hnames, Plan.perform, Catalog.get, hmissing]
    rfl
  · rw [Request.plan_delete hdelete hnames, Plan.perform, Catalog.delete, hmissing]
    rfl
  · rw [Request.plan_put hput hnames (Request.film_eq_ok_iff.mpr hsubmits), Plan.perform, Catalog.update,
      hmissing]
    rfl

theorem respond_missing (settings : Settings) (hmissing : catalog.find? id = none)
    (h : CallsFor request id) :
    Carries (respond settings catalog request).1 404 "NOT_FOUND" ("Film with id " ++ id.text ++ " not found") ∧
      (respond settings catalog request).2 = catalog := by
  rw [respond_eq, perform_missing hmissing h]
  refine ⟨carries_notFound settings ?_ id.text, rfl⟩
  rcases h.2 with hmethod | hmethod | ⟨hmethod, -⟩ <;> simp [hmethod]

/-- The films of a run are numbered in the order in which they are stored, and to call for a number
after its film was removed is answered with not found ever after. -/
theorem numbers_never_come_back (settings : Settings) (requests : List Request)
    (hfew : filmsStored settings requests < UInt64.size) :
    (added settings requests).map (·.id.number.toNat) = List.range (filmsStored settings requests) ∧
    ∀ before request after, requests = before ++ request :: after →
      let start := catalogAfter settings before
      let response := (respond settings start request).1
      let next := (respond settings start request).2
      let last := catalogAfter settings requests
      (∃ new : Option Entry, (∀ entry, new = some entry ↔ Gains start next entry) ∧
        added settings (before ++ [request]) = added settings before ++ new.toList) ∧
      (response.status.code = 201 →
        response.headers.filter (·.1 = "location") =
          [("location", .text ((address settings request).base ++ "/films/" ++
            Decimal.text (added settings before).length))]) ∧
      ∀ id, Removes settings start request id → ∀ later, CallsFor later id →
        Carries (respond settings last later).1 404 "NOT_FOUND" ("Film with id " ++ id.text ++ " not found") ∧
          (respond settings last later).2 = last := by
  refine ⟨numbers_added settings hfew, ?_⟩
  intro before request after hsplit start response next last
  rw [List.append_cons] at hsplit
  have hsofar : filmsStored settings (before ++ [request]) < UInt64.size :=
    few_of_append settings (hsplit ▸ hfew)
  have hnext : catalogAfter settings (before ++ [request]) = next := catalogAfter_append settings _ _
  refine ⟨added_snoc settings before request, ?_, ?_⟩
  · intro hcreated
    obtain ⟨-, -, film, id, -, hentries, hlocation, -⟩ :=
      respond_created (Status.code_inj hcreated)
    have hnumber : id.number.toNat = (added settings before).length := number_of_gains hsofar hentries
    rw [hlocation, ← hnumber, String.append_assoc]
    rfl
  · intro id hremoves later hcalls
    have hstart : Consistent start := catalogAfter_consistent settings (few_of_append settings hsofar)
    have hretired : Retired next id := retired_of_removes hstart hremoves
    have hlast : Retired last id := by
      show Retired (catalogAfter settings requests) id
      rw [← hnext] at hretired
      rw [hsplit] at hfew ⊢
      exact catalogAfter_retired hfew hretired
    exact respond_missing settings hlast.find?_eq_none hcalls

def sampleRemoval : Request := { method := .delete, target := Utf8.encode "/films/0" }

theorem plan_sampleRemoval : sampleRemoval.plan = .delete ⟨0⟩ :=
  Request.plan_delete rfl (names_of_path (by decide))

theorem removes_sample :
    Removes sampleSettings (catalogAfter sampleSettings [sampleCreation]) sampleRemoval ⟨0⟩ := by
  obtain ⟨hc, hmem⟩ := sampleCreation_stored
  have hmade := Catalog.delete_eq_ok_iff.mpr ⟨_, hc.find?_eq_some_iff.mpr hmem, rfl⟩
  refine .alone rfl (names_of_path (by decide)) ?_
  rw [respond_eq, plan_sampleRemoval, Plan.perform, hmade]
  rfl

/-- An equal film is stored again after the first one was removed. -/
def sampleReturn : List Request := [sampleCreation, sampleRemoval, sampleCreation]

theorem filmsStored_sampleReturn : filmsStored sampleSettings sampleReturn = 2 := by
  have hasked : asked sampleReturn = [.create sampleFilm, .delete ⟨0⟩, .create sampleFilm] := by
    unfold asked sampleReturn
    simp [plan_samples.1, plan_sampleRemoval, Plan.command?]
  unfold filmsStored
  rw [hasked]
  simp only [Catalog.answers, Catalog.run]
  simp [Catalog.perform, Catalog.orRefused, Catalog.create, Catalog.delete, Catalog.empty, Catalog.find?,
    Catalog.size, Except.map, sampleSettings, Catalog.defaultCapacity]
  rfl

theorem numbers_never_come_back_sample :
    filmsStored sampleSettings sampleReturn < UInt64.size ∧
      (added sampleSettings sampleReturn).map (·.id.number.toNat) = [0, 1] ∧
      Carries
        (respond sampleSettings (catalogAfter sampleSettings sampleReturn)
          { target := Utf8.encode "/films/0" }).1
        404 "NOT_FOUND" "Film with id 0 not found" := by
  have hfew : filmsStored sampleSettings sampleReturn < UInt64.size := by
    rw [filmsStored_sampleReturn]
    decide
  obtain ⟨hnumbers, hruns⟩ := numbers_never_come_back sampleSettings sampleReturn hfew
  obtain ⟨-, -, hgone⟩ := hruns [sampleCreation] sampleRemoval [sampleCreation] rfl
  have hcalls : CallsFor { target := Utf8.encode "/films/0" } ⟨0⟩ :=
    ⟨names_of_path (by decide), .inl rfl⟩
  refine ⟨hfew, ?_, (hgone ⟨0⟩ removes_sample _ hcalls).1⟩
  rw [hnumbers, filmsStored_sampleReturn]
  rfl

end Service

end FilmCatalog
