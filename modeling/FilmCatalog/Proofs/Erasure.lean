import FilmCatalog.Proofs.Creations

/-!
# Requests that leave no trace

A request that is turned down, or that only asks, leaves the catalog as it was. So such requests can be
left out of every run, and all others are answered as before.
-/

namespace FilmCatalog.Service

/-! ## Exchanges -/

abbrev Exchange := Request × Response

def exchanges (settings : Settings) (catalog : Catalog) (requests : List Request) : List Exchange :=
  requests.zip (run settings catalog requests).1

namespace Exchange

/-- The client is at fault, or there is no room. -/
def TurnedDown (exchange : Exchange) : Prop :=
  400 ≤ exchange.2.status.code ∧ exchange.2.status.code < 500 ∨ exchange.2.status.code = 507

def OnlyAsks (exchange : Exchange) : Prop :=
  exchange.1.method = .get ∨ exchange.1.method = .head ∨ exchange.1.method = .options

def Traceless (exchange : Exchange) : Prop := exchange.TurnedDown ∨ exchange.OnlyAsks

instance : DecidablePred Traceless := fun exchange =>
  inferInstanceAs (Decidable ((_ ∧ _ ∨ exchange.2.status.code = 507) ∨ (_ ∨ _ ∨ _)))

end Exchange

/-! ## One request -/

variable {settings : Settings} {catalog next : Catalog} {request : Request} {plan : Plan}

/-- A change is told with success, or with a server error where its address cannot be sent. -/
theorem leads_turned_down {outcome : Outcome} (h : plan.Leads catalog outcome next) {under : Address}
    (hdown : Exchange.TurnedDown (request, finish settings request (outcome.reply under))) :
    next = catalog := by
  have hok {reply : Reply} (hstatus : reply.statusIn settings.statusMode = .ok) :
      ¬ Exchange.TurnedDown (request, finish settings request reply) := by
    unfold Exchange.TurnedDown finish
    simp [hstatus, Status.code]
  cases h with
  | settled | refused | counted | listed | found => rfl
  | created hstep =>
    revert hdown
    unfold Exchange.TurnedDown finish
    dsimp only [Outcome.reply]
    rw [status_created]
    split <;> simp [Status.code]
  | cleared | replaced | deleted => exact absurd hdown (hok (statusIn_unmarked rfl _))

theorem not_orders_of_onlyAsks {response : Response} (h : Exchange.OnlyAsks (request, response))
    (command : Catalog.Command) : ¬ request.Orders command := by
  intro horders
  unfold Exchange.OnlyAsks at h
  cases horders <;> simp_all

theorem respond_traceless
    (h : Exchange.Traceless (request, (respond settings catalog request).1)) :
    (respond settings catalog request).2 = catalog := by
  rcases h with hdown | hasks
  · exact leads_turned_down (request.plan.leads_perform catalog) hdown
  · exact respond_of_no_order settings (not_orders_of_onlyAsks hasks)

/-! ## Runs -/

theorem exchanges_cons (requests : List Request) :
    exchanges settings catalog (request :: requests) =
      (request, (respond settings catalog request).1) ::
        exchanges settings (respond settings catalog request).2 requests := rfl

/-- The exchanges that may have left a trace. -/
def lasting (settings : Settings) (catalog : Catalog) (requests : List Request) : List Exchange :=
  (exchanges settings catalog requests).filter fun exchange => ¬ exchange.Traceless

theorem run_lasting (requests : List Request) :
    run settings catalog ((lasting settings catalog requests).map (·.1)) =
      ((lasting settings catalog requests).map (·.2), (run settings catalog requests).2) := by
  induction requests generalizing catalog with
  | nil => rfl
  | cons request requests ih =>
    unfold lasting at ih ⊢
    rw [exchanges_cons, run_cons]
    by_cases h : Exchange.Traceless (request, (respond settings catalog request).1)
    · rw [List.filter_cons_of_neg (by simpa using h), respond_traceless h]
      exact ih
    · rw [List.filter_cons_of_pos (by simpa using h), List.map_cons, List.map_cons, run_cons, ih]

/-- Without the requests that were turned down and those that only ask, a fresh service gives every other
request the same response and ends with the same catalog. -/
theorem traceless_requests_can_be_erased (settings : Settings) (requests : List Request) :
    let fresh := freshCatalog settings
    let kept := lasting settings fresh requests
    run settings fresh (kept.map (·.1)) = (kept.map (·.2), catalogAfter settings requests) :=
  run_lasting requests

end FilmCatalog.Service
