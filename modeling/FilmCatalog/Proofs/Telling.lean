import FilmCatalog.Proofs.Meaning
import FilmCatalog.Proofs.Requests

/-!
# What is told

Films, listings and refusals by the members that are read in an answer, and the responses that carry them. Each
of them is said here without the writer.
-/

namespace FilmCatalog

/-! ## Members -/

namespace View

def itemDatum (film : Film) (href : String) : View → Datum
  | .full =>
    .object
      [("title", .text film.title), ("originalTitle", .text film.originalTitle),
        ("productionYear", .text film.productionYear), ("length", .text film.length),
        ("director", .text film.director), ("actors", .text film.actors), ("href", .text href)]
  | .compact => .object [("title", .text film.title), ("href", .text href)]

def listingDatum (view : View) (under : Address) (entries : List Entry) : Datum :=
  .object
    [("items", .list (entries.map fun entry =>
        view.itemDatum entry.film (under.base ++ Service.filmPath entry.id))),
      ("count", .number entries.length 0), ("href", .text (under.base ++ "/films"))]

theorem datum_item (view : View) (film : Film) (href : String) :
    (view.item film href).datum = view.itemDatum film href := by
  cases view <;> rfl

theorem datum_listing (view : View) (under : Address) (entries : List Entry) :
    (view.listing under entries).datum = view.listingDatum under entries := by
  unfold listing listingDatum
  simp only [Json.datum, Json.memberData, Json.itemData_eq_map, List.map_map, Function.comp_def, datum_item,
    Service.item_eq]
  rfl

theorem read_item (view : View) (film : Film) (href : String) :
    Datum.read (Utf8.encode (view.item film href).write) = some (view.itemDatum film href) := by
  rw [← datum_item]
  exact Json.read_write _

theorem read_listing (view : View) (under : Address) (entries : List Entry) :
    Datum.read (Utf8.encode (view.listing under entries).write) =
      some (view.listingDatum under entries) := by
  rw [← datum_listing]
  exact Json.read_write _

end View

/-- The word for programs and the sentence for people. -/
def Refusal.datum (refusal : Refusal) : Datum :=
  .object (match refusal with
    | .notFound name =>
      [("code", .text "NOT_FOUND"), ("error", .text ("Film with id " ++ name ++ " not found"))]
    | .duplicate existing =>
      [("code", .text "DUPLICATE"), ("error", .text ("Film already exists with id " ++ existing.text))]
    | .malformed detail => [("code", .text "MALFORMED"), ("error", .text detail)]
    | .full capacity =>
      [("code", .text "CAPACITY_EXCEEDED"),
        ("error", .text ("Film store is full (" ++ Decimal.text capacity ++ " films)"))])

theorem Refusal.read_json (refusal : Refusal) :
    Datum.read (Utf8.encode refusal.json.write) = some refusal.datum := by
  rw [Json.read_write]
  cases refusal <;> rfl

namespace Service

/-- A refusal as it is sent. -/
def refusalText (code sentence : String) : String :=
  "\x7b\"code\":" ++ (Json.text code).write ++ ",\"error\":" ++ (Json.text sentence).write ++ "\x7d"

theorem write_refusal (refusal : Refusal) :
    refusal.json.write = refusalText refusal.code refusal.notice := by
  unfold refusalText
  apply String.toList_inj.mp
  simp only [String.toList_append, Json.toList_write]
  simp [Refusal.json, Json.chars, Json.memberChars, Json.joined, Json.quoted, Json.escape, Json.escapeChar]

/-! ## Statuses -/

theorem Status.code_inj {a b : Status} (h : a.code = b.code) : a = b := by
  cases a <;> cases b <;> revert h <;> decide

variable {settings : Settings} {catalog : Catalog} {request : Request}

theorem statusIn_unmarked {reply : Reply} (hmark : reply.legacyNotFound = false)
    (mode : StatusMode) : reply.statusIn mode = reply.status := by
  cases mode <;> simp [Reply.statusIn, hmark]

theorem statusIn_refusal (refusal : Refusal) (mode : StatusMode) :
    refusal.reply.statusIn mode ≠ .ok ∧ refusal.reply.statusIn mode ≠ .created := by
  cases refusal <;> cases mode <;> exact ⟨nofun, nofun⟩

/-! ## Responses -/

/-- The request is answered with success and this body. -/
def Answers (settings : Settings) (catalog : Catalog) (request : Request) (body : String) : Prop :=
  (respond settings catalog request).1.status.code = 200 ∧
    (respond settings catalog request).1.body = body

theorem answers_json (hmethod : request.method = .get) {value : Json}
    (hreply : (request.plan.perform catalog).1.reply (address settings request) = .json .ok value) :
    Answers settings catalog request value.write := by
  unfold Answers
  rw [respond_eq, hreply]
  exact ⟨congrArg Status.code (statusIn_unmarked rfl _), if_neg (by simp [hmethod])⟩

/-- The response is an object with a code and a sentence, and nothing else. -/
structure Carries (response : Response) (status : Nat) (code sentence : String) : Prop where
  status : response.status.code = status
  contentType : ("content-type", .text "application/json") ∈ response.headers
  body : response.body = refusalText code sentence
  read : Datum.read (Utf8.encode response.body) =
    some (.object [("code", .text code), ("error", .text sentence)])

/-- The response is what strict clients see of a refusal. -/
def Tells (response : Response) : Refusal → Prop
  | .notFound name => Carries response 404 "NOT_FOUND" ("Film with id " ++ name ++ " not found")
  | .duplicate existing =>
    Carries response 409 "DUPLICATE" ("Film already exists with id " ++ existing.text)
  | .malformed detail => Carries response 400 "MALFORMED" detail
  | .full capacity =>
    Carries response 507 "CAPACITY_EXCEEDED"
      ("Film store is full (" ++ Decimal.text capacity ++ " films)")

theorem carries_finish (settings : Settings) (hmethod : request.method ≠ .head) (refusal : Refusal) :
    Carries (finish settings request refusal.reply)
      (refusal.reply.statusIn settings.statusMode).code refusal.code refusal.notice := by
  have hbody : (finish settings request refusal.reply).body = refusal.json.write := if_neg hmethod
  refine ⟨rfl, ?_, ?_, ?_⟩
  · unfold finish
    rw [List.append_assoc]
    exact List.mem_append_left _ (List.mem_singleton.mpr rfl)
  · rw [hbody, write_refusal]
  · rw [hbody, Json.read_write]
    rfl

/-- No film has this name, whatever the mode. -/
theorem carries_notFound (settings : Settings) (hmethod : request.method ≠ .head) (name : String) :
    Carries (finish settings request (Refusal.notFound name).reply) 404 "NOT_FOUND"
      ("Film with id " ++ name ++ " not found") := by
  have hcarries := carries_finish settings hmethod (.notFound name)
  rwa [statusIn_unmarked rfl] at hcarries

theorem tells_finish (hmode : settings.statusMode = .strict) (hmethod : request.method ≠ .head)
    (refusal : Refusal) : Tells (finish settings request refusal.reply) refusal := by
  have hcarries := carries_finish settings hmethod refusal
  rw [hmode] at hcarries
  cases refusal <;> exact hcarries

theorem Tells.contentType {response : Response} {refusal : Refusal} (h : Tells response refusal) :
    ("content-type", .text "application/json") ∈ response.headers := by
  cases refusal <;> exact Carries.contentType h

theorem sentence_not_json (status : Status) (body : String) :
    ("content-type", .text "application/json") ∉
      (finish settings request (.sentence status body)).headers := by
  have hother : HeaderValue.text "application/json" ≠ .text "text/plain; charset=utf-8" := by decide
  unfold finish Reply.sentence originHeaders trackingHeaders
  intro h
  rcases List.mem_append.mp h with h | h
  · rcases List.mem_append.mp h with h | h
    · exact hother (Prod.mk.inj (List.mem_singleton.mp h)).2
    · simp at h
  · split at h
    · cases h
    · simp at h

end Service

end FilmCatalog
