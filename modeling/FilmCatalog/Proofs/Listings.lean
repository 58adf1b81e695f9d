import FilmCatalog.Proofs.Operations
import FilmCatalog.Proofs.Showing

/-!
# Listings, looks at one film, and the health of the service

Three requests tell of the stored films. A full listing joins what looks at its films would show, a compact
one leaves members out of it, and all of them count the same films.
-/

namespace FilmCatalog

/-! ## Written values -/

namespace Json

def member? (name : String) : Json → Option Json
  | .object members => (members.find? (·.1 == name)).map (·.2)
  | _ => none

/-- An object with the members of these names alone, in the order in which they are. -/
def only (names : List String) : Json → Json
  | .object members => .object (members.filter fun member => names.contains member.1)
  | value => value

theorem itemChars_eq_map (items : List Json) : itemChars items = items.map chars := by
  induction items with
  | nil => rfl
  | cons item items ih => rw [itemChars, ih, List.map_cons]

theorem toList_joined (items : List Json) :
    (",".intercalate (items.map write)).toList = joined (itemChars items) := by
  have hcomma : ",".toList = [','] := rfl
  have hitems : (items.map write).map String.toList = itemChars items := by
    rw [itemChars_eq_map, List.map_map]
    exact List.map_congr_left fun item _ => toList_write item
  rw [String.toList_intercalate, hitems, hcomma]
  rfl

end Json

/-! ## Views of one film -/

namespace View

variable (film : Film) (address : String)

theorem item_compact : compact.item film address = (full.item film address).only ["title", "href"] := rfl

theorem member?_href : (full.item film address).member? "href" = some (.text address) := rfl

end View

namespace Service

open Catalog (Consistent)

variable {settings : Settings} {catalog : Catalog} {request : Request} {under : Address} {view : View}

/-! ## Answers about all films -/

/-- A listing as it is sent. -/
def listingText (items : List Json) (count : Nat) (collection : String) : String :=
  "\x7b\"items\":[" ++ ",".intercalate (items.map Json.write) ++ "],\"count\":" ++
    Decimal.text count ++ ",\"href\":" ++ (Json.text collection).write ++ "\x7d"

def healthText (films : Nat) : String :=
  "\x7b\"status\":\"ok\",\"version\":\"0.1.0\",\"films\":" ++ Decimal.text films ++ "\x7d"

theorem write_listing (view : View) (under : Address) (entries : List Entry) :
    (view.listing under entries).write =
      listingText (entries.map fun entry => view.item entry.film (under.item entry.id)) entries.length
        under.collection := by
  unfold listingText
  apply String.toList_inj.mp
  simp only [String.toList_append, Json.toList_write, Json.toList_joined]
  simp [View.listing, View.hrefMember, Json.chars, Json.memberChars, Json.joined, Json.quoted, Json.escape,
    Json.escapeChar]

theorem write_health (films : Nat) : (healthJson films).write = healthText films := by
  unfold healthText
  apply String.toList_inj.mp
  simp only [String.toList_append, Json.toList_write]
  simp [healthJson, version, Json.chars, Json.memberChars, Json.joined, Json.quoted, Json.escape,
    Json.escapeChar]

/-! ## Requests about films -/

structure Lists (settings : Settings) (under : Address) (view : View) (request : Request) : Prop where
  method : request.method = .get
  path : request.AtFilms
  view : view? (Target.ofBytes request.target).query = some view
  base : address settings request = under

structure LooksAt (settings : Settings) (under : Address) (id : FilmId) (request : Request) : Prop where
  method : request.method = .get
  names : request.Names id
  base : address settings request = under

def AsksHealth (request : Request) : Prop :=
  request.method = .get ∧ request.path = Utf8.encode "/health"

theorem Lists.plan (h : Lists settings under view request) : request.plan = .list view := by
  rw [Request.plan_on (Request.route?_eq_films_iff.mpr h.path) (by simp [h.method])]
  simp only [Request.planOn, h.method, h.view]

theorem answers_list (h : Lists settings under view request) :
    Answers settings catalog request
      (listingText (catalog.entries.map fun entry => view.item entry.film (under.item entry.id))
        catalog.size under.collection) := by
  unfold Catalog.size
  rw [← write_listing]
  apply answers_json h.method
  rw [h.plan, h.base]
  rfl

theorem read_list (h : Lists settings under view request) :
    Datum.read (Utf8.encode (respond settings catalog request).1.body) =
      some (view.listingDatum under catalog.entries) := by
  have hplan : (request.plan.perform catalog).1 = .listed view catalog.entries := by
    rw [h.plan]
    rfl
  rw [respond_eq, hplan, h.base]
  unfold finish
  rw [h.method]
  exact View.read_listing view under catalog.entries

theorem answers_health (h : AsksHealth request) :
    Answers settings catalog request (healthText catalog.size) := by
  obtain ⟨hmethod, hpath⟩ := h
  have hroute : request.route? = some .health := by
    unfold Request.route?
    unfold Request.path at hpath
    rw [hpath]
    rfl
  have hplan : request.plan = .health := by
    rw [Request.plan_on hroute (by simp [hmethod])]
    simp only [Request.planOn, hmethod]
  rw [← write_health]
  apply answers_json hmethod
  rw [hplan]
  rfl

theorem answers_look {entry : Entry} (hc : Consistent catalog) (hmem : entry ∈ catalog.entries)
    (h : LooksAt settings under entry.id request) :
    Answers settings catalog request (View.full.item entry.film (under.item entry.id)).write := by
  rw [← h.base]
  exact respond_look hc hmem h.method h.names

/-! ## Addresses of films -/

theorem item_inj {a b : FilmId} (h : under.item a = under.item b) : a = b := by
  -- The bases are the same, so the digits are.
  unfold Address.item at h
  rw [String.append_right_inj] at h
  exact FilmId.text_inj h

theorem item_ne_collection (under : Address) (id : FilmId) : under.item id ≠ under.collection := by
  unfold Address.item Address.collection
  rw [String.append_assoc]
  simp

theorem items_nodup (hc : Consistent catalog) (under : Address) :
    (catalog.entries.map fun entry => under.item entry.id).Nodup := by
  unfold List.Nodup
  rw [List.pairwise_map]
  exact hc.ids_differ.imp fun hdiffer hsame => hdiffer (item_inj hsame)

/-! ## Agreement -/

/-- A full listing joins what looks at its films show, a compact one keeps the title and the address of each
item, and the number of films is the same wherever it is told. -/
theorem listings_looks_and_health_agree (settings : Settings) (requests : List Request) (under : Address)
    (hfew : filmsStored settings requests < UInt64.size) :
    let catalog := catalogAfter settings requests
    let items := catalog.entries.map fun entry => View.full.item entry.film (under.item entry.id)
    let hrefs := catalog.entries.map fun entry => under.base ++ filmPath entry.id
    let collection := under.base ++ "/films"
    items.length = catalog.size ∧ items.length ≤ settings.capacity ∧
      (∀ request, Lists settings under .full request →
        Answers settings catalog request (listingText items items.length collection)) ∧
      (∀ request, Lists settings under .compact request →
        Answers settings catalog request
          (listingText (items.map (·.only ["title", "href"])) items.length collection)) ∧
      (∀ request, AsksHealth request →
        Answers settings catalog request (healthText items.length)) ∧
      (∀ (i : Nat) (entry : Entry), catalog.entries[i]? = some entry →
        ∃ item, items[i]? = some item ∧
          ∀ request, LooksAt settings under entry.id request →
            Answers settings catalog request item.write) ∧
      items.map (·.member? "href") = hrefs.map (some ∘ Json.text) ∧ hrefs.Nodup ∧ collection ∉ hrefs := by
  intro catalog items hrefs collection
  have hc : Consistent catalog := catalogAfter_consistent settings hfew
  have hsize : items.length = catalog.size := List.length_map _
  have hroom : catalog.size ≤ settings.capacity := by
    rw [← catalogAfter_capacity settings hfew]
    exact hc.room
  have hcollection : collection = under.collection := rfl
  have hhrefs : hrefs = catalog.entries.map fun entry => under.item entry.id := by
    simp only [hrefs, item_eq]
  rw [hsize, hhrefs, hcollection]
  refine ⟨rfl, hroom, fun request hlists => answers_list hlists, ?_,
    fun request hasks => answers_health hasks, ?_, ?_, items_nodup hc under, ?_⟩
  · intro request hlists
    have hitems : items.map (·.only ["title", "href"]) =
        catalog.entries.map fun entry => View.compact.item entry.film (under.item entry.id) := by
      simp only [items, List.map_map, Function.comp_def, View.item_compact]
    rw [hitems]
    exact answers_list hlists
  · intro i entry hentry
    refine ⟨View.full.item entry.film (under.item entry.id), ?_, fun request hlooks => ?_⟩
    · simp only [items, List.getElem?_map, hentry, Option.map_some]
    · exact answers_look hc (List.mem_of_getElem? hentry) hlooks
  · simp only [items, List.map_map, Function.comp_def, View.member?_href]
  · intro hmem
    obtain ⟨entry, -, hsame⟩ := List.mem_map.mp hmem
    exact item_ne_collection under entry.id hsame

theorem listings_looks_and_health_agree_sample :
    filmsStored sampleSettings [sampleCreation] < UInt64.size ∧
      Answers sampleSettings (catalogAfter sampleSettings [sampleCreation])
        { target := Utf8.encode "/films?view=Compact" }
        ("\x7b\"items\":[\x7b\"title\":\"a\",\"href\":\"http://films.test/films/0\"\x7d]," ++
          "\"count\":1,\"href\":\"http://films.test/films\"\x7d") ∧
      Answers sampleSettings (catalogAfter sampleSettings [sampleCreation])
        { target := Utf8.encode "/health" }
        "\x7b\"status\":\"ok\",\"version\":\"0.1.0\",\"films\":1\x7d" := by
  have hfew := Nat.lt_of_le_of_lt (filmsStored_le sampleSettings [sampleCreation])
    (by decide : _ < UInt64.size)
  have hentries : (catalogAfter sampleSettings [sampleCreation]).entries = [⟨⟨0⟩, sampleFilm⟩] :=
    respond_sampleCreation.2
  obtain ⟨-, -, -, hcompact, hhealth, -⟩ :=
    listings_looks_and_health_agree sampleSettings [sampleCreation] { base := "http://films.test" } hfew
  dsimp only at hcompact hhealth
  rw [hentries] at hcompact hhealth
  have hfilms : Request.AtFilms { target := Utf8.encode "/films?view=Compact" } :=
    Request.route?_eq_films_iff.mp (by decide)
  exact ⟨hfew, hcompact _ ⟨rfl, hfilms, by decide, rfl⟩, hhealth _ ⟨rfl, rfl⟩⟩

end Service

end FilmCatalog
