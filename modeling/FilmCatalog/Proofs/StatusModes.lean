import FilmCatalog.Proofs.Showing

/-!
# The two status modes

Two services that differ in their status mode alone store the same films and tell them the same way.
Only the status of a film that is turned down is another one.
-/

namespace FilmCatalog

/-- A film is turned down because it is a copy or because it is no film. -/
def Refusal.Rejects (refusal : Refusal) : Prop :=
  refusal.code = "DUPLICATE" ∧ refusal.status.code = 409 ∨
    refusal.code = "MALFORMED" ∧ refusal.status.code = 400

theorem Refusal.rejects_iff {refusal : Refusal} : refusal.Rejects ↔ refusal.isLegacyNotFound := by
  unfold Rejects
  cases refusal <;> simp [code, isLegacyNotFound, status, Service.Status.code]

theorem Refusal.rejects_iff_status {refusal : Refusal} :
    refusal.Rejects ↔ refusal.status = .conflict ∨ refusal.status = .badRequest := by
  unfold Rejects
  cases refusal <;> simp [code, status, Service.Status.code]

def Settings.inMode (settings : Settings) (mode : StatusMode) : Settings :=
  { settings with statusMode := mode }

namespace Service

/-- What two responses to one request have in common. -/
structure Parallel (legacy strict : Response) : Prop where
  headers : legacy.headers = strict.headers
  body : legacy.body = strict.body
  folded : ∀ refusal : Refusal, refusal.Rejects → Tells strict refusal → legacy.status.code = 404
  kept : (∀ refusal : Refusal, refusal.Rejects → ¬ Tells strict refusal) →
    legacy.status = strict.status

/-! ## Outcomes that reject a film -/

variable {settings : Settings} {catalog : Catalog} {request : Request} {outcome : Outcome}

theorem reply_unmarked (h : ∀ refusal, outcome = .refused refusal → ¬ refusal.Rejects)
    (under : Address) : (outcome.reply under).legacyNotFound = false := by
  cases outcome with
  | refused refusal =>
    have hrejects := h refusal rfl
    rw [Refusal.rejects_iff] at hrejects
    exact Bool.eq_false_iff.mpr hrejects
  | created entry =>
    rw [Outcome.reply, createdReply]
    dsimp only
    split <;> rfl
  | _ => rfl

theorem get_refused {id : FilmId} {refusal : Refusal} (h : catalog.get id = .error refusal) :
    ¬ refusal.Rejects := by
  unfold Catalog.get at h
  split at h
  · cases h
  · cases h
    rw [Refusal.rejects_iff]
    exact nofun

theorem delete_refused {id : FilmId} {refusal : Refusal} (h : catalog.delete id = .error refusal) :
    ¬ refusal.Rejects := by
  unfold Catalog.delete at h
  split at h
  · cases h
    rw [Refusal.rejects_iff]
    exact nofun
  · cases h

/-- Only what would store a film can be rejected. -/
theorem method_of_rejects {refusal : Refusal}
    (houtcome : (request.plan.perform catalog).1 = .refused refusal) (hrejects : refusal.Rejects) :
    request.method = .post ∨ request.method = .put := by
  have hasks := request.asks_plan
  revert houtcome hasks
  generalize request.plan = plan
  intro houtcome hasks
  cases hasks with
  | notFilm hmethod hfilm => exact hmethod
  | create hroute hmethod hfilm => exact .inl hmethod
  | replace hnames hmethod hfilm => exact .inr hmethod
  | notNumber =>
    cases houtcome
    rw [Refusal.rejects_iff] at hrejects
    cases hrejects
  | @read id =>
    cases hfound : catalog.get id with
    | ok film =>
      rw [Plan.perform, hfound] at houtcome
      cases houtcome
    | error refusal =>
      rw [Plan.perform, hfound] at houtcome
      cases houtcome
      exact absurd hrejects (get_refused hfound)
  | @delete id =>
    cases hfound : catalog.delete id with
    | ok next =>
      rw [Plan.perform, hfound] at houtcome
      cases houtcome
    | error refusal =>
      rw [Plan.perform, hfound] at houtcome
      cases houtcome
      exact absurd hrejects (delete_refused hfound)
  | preflight | unknownPath | wrongMethod | viewTwice | notText | health | list | clear =>
    cases houtcome

/-! ## What is told of them -/

theorem rejects_of_tells {refusal : Refusal} (hrejects : refusal.Rejects) {under : Address}
    (h : Tells (finish (settings.inMode .strict) request (outcome.reply under)) refusal) :
    ∃ told, outcome = .refused told ∧ told.Rejects := by
  have hstatus : (outcome.reply under).status = .conflict ∨
      (outcome.reply under).status = .badRequest := by
    rw [Refusal.rejects_iff] at hrejects
    cases refusal with
    | duplicate existing => exact .inl (Status.code_inj (Carries.status h))
    | malformed detail => exact .inr (Status.code_inj (Carries.status h))
    | notFound | full => cases hrejects
  cases outcome with
  | refused told => exact ⟨told, rfl, Refusal.rejects_iff_status.mpr hstatus⟩
  | segmentNotText | viewTwice => exact absurd h.contentType (sentence_not_json _ _)
  | created entry =>
    rw [Outcome.reply, createdReply] at hstatus
    dsimp only at hstatus
    split at hstatus <;> rcases hstatus with hstatus | hstatus <;> cases hstatus
  | _ => rcases hstatus with hstatus | hstatus <;> cases hstatus

theorem finish_eq_of_unmarked {reply : Reply} (hmark : reply.legacyNotFound = false) :
    finish (settings.inMode .legacy) request reply = finish (settings.inMode .strict) request reply := by
  unfold finish
  rw [statusIn_unmarked hmark, statusIn_unmarked hmark]
  rfl

theorem finish_folded {refusal : Refusal} (hrejects : refusal.Rejects) :
    (finish (settings.inMode .legacy) request refusal.reply).status = .notFound := by
  have hmark : refusal.reply.legacyNotFound = true := Refusal.rejects_iff.mp hrejects
  unfold finish Reply.statusIn Settings.inMode
  rw [hmark]
  rfl

/-- A rejected film came with a body, and not in a request for the head alone. -/
theorem not_head_of_rejects {refusal : Refusal}
    (houtcome : (request.plan.perform catalog).1 = .refused refusal) (hrejects : refusal.Rejects) :
    request.method ≠ .head := by
  rcases method_of_rejects houtcome hrejects with hmethod | hmethod <;> simp [hmethod]

/-! ## The two services -/

theorem respond_unmarked
    (h : ∀ refusal, (request.plan.perform catalog).1 = .refused refusal → ¬ refusal.Rejects) :
    (respond (settings.inMode .legacy) catalog request).1 =
      (respond (settings.inMode .strict) catalog request).1 :=
  finish_eq_of_unmarked (reply_unmarked h _)

theorem respond_rejects {refusal : Refusal}
    (houtcome : (request.plan.perform catalog).1 = .refused refusal) (hrejects : refusal.Rejects) :
    Tells (respond (settings.inMode .strict) catalog request).1 refusal ∧
      (respond (settings.inMode .legacy) catalog request).1.status.code = 404 := by
  rw [respond_eq, respond_eq, houtcome]
  exact ⟨tells_finish rfl (not_head_of_rejects houtcome hrejects) refusal,
    congrArg Status.code (finish_folded hrejects)⟩

theorem respond_parallel :
    Parallel (respond (settings.inMode .legacy) catalog request).1
      (respond (settings.inMode .strict) catalog request).1 where
  headers := rfl
  body := rfl
  folded := by
    intro refusal hrejects htells
    rw [respond_eq] at htells ⊢
    obtain ⟨told, houtcome, htold⟩ := rejects_of_tells hrejects htells
    rw [houtcome]
    exact congrArg Status.code (finish_folded htold)
  kept := by
    intro hnone
    rw [respond_unmarked]
    intro refusal houtcome hrejects
    exact hnone refusal hrejects (respond_rejects houtcome hrejects).1

theorem run_inMode (requests : List Request) (mode other : StatusMode) :
    (run (settings.inMode mode) catalog requests).2 = (run (settings.inMode other) catalog requests).2 := by
  rw [run_catalog, run_catalog]

theorem getElem?_run (settings : Settings) (requests : List Request) (n : Nat) :
    (run settings catalog requests).1[n]? =
      requests[n]?.map fun request =>
        (respond settings (run settings catalog (requests.take n)).2 request).1 := by
  induction requests generalizing catalog n with
  | nil => rfl
  | cons request requests ih =>
    cases n with
    | zero => rfl
    | succ n => exact ih n

/-- Answers under the two modes differ in nothing but the status of a rejected film: strict clients are told of it
as a copy or as malformed, and legacy clients as not found. -/
theorem modes_differ_in_rejections (settings : Settings) (requests : List Request) (n : Nat) :
    let legacy := settings.inMode .legacy
    let strict := settings.inMode .strict
    let before := catalogAfter strict (requests.take n)
    catalogAfter legacy (requests.take n) = before ∧
      ∀ request, requests[n]? = some request →
        ∃ a b, (run legacy (freshCatalog legacy) requests).1[n]? = some a ∧
          (run strict (freshCatalog strict) requests).1[n]? = some b ∧
          Parallel a b ∧
            ((∀ refusal, (request.plan.perform before).1 = .refused refusal → ¬ refusal.Rejects) →
              a = b) ∧
            ∀ refusal, (request.plan.perform before).1 = .refused refusal → refusal.Rejects →
              Tells b refusal ∧ a.status.code = 404 := by
  intro legacy strict before
  have hbefore : catalogAfter legacy (requests.take n) = before := run_inMode _ _ _
  refine ⟨hbefore, ?_⟩
  intro request hrequest
  refine ⟨(respond legacy before request).1, (respond strict before request).1, ?_, ?_,
    respond_parallel, respond_unmarked, fun refusal => respond_rejects⟩
  · rw [getElem?_run, hrequest, ← hbefore]
    rfl
  · rw [getElem?_run, hrequest]
    rfl

example :
    let request : Request := { method := .post, target := Utf8.encode "/films" }
    let status (mode : StatusMode) :=
      (respond (sampleSettings.inMode mode) (freshCatalog sampleSettings) request).1.status.code
    (status .legacy, status .strict) = (404, 400) := by
  decide +kernel

end Service

end FilmCatalog
