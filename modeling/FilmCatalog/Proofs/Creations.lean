import FilmCatalog.Proofs.Environments
import FilmCatalog.Proofs.Operations
import FilmCatalog.Proofs.Showing

/-!
# What is told of a creation

A film is stored before its address is told. Whether the address can be told depends on the configured
base alone, and no request can spoil it.
-/

namespace FilmCatalog

/-! ## Header texts -/

namespace Service

/-- A tab, or a character that is no control character of Ascii. -/
def IsHeaderChar (c : Char) : Prop := c = '\t' ∨ 0x20 ≤ c.toNat ∧ c.toNat ≠ 0x7F

theorem isHeaderByte_iff {b : UInt8} :
    isHeaderByte b ↔ b.toNat = 0x09 ∨ 0x20 ≤ b.toNat ∧ b.toNat ≠ 0x7F := by
  simp [isHeaderByte, ← UInt8.toNat_inj, UInt8.le_iff_toNat_le]

theorem all_isHeaderByte_iff {c : Char} :
    (String.utf8EncodeChar c).all isHeaderByte ↔ IsHeaderChar c := by
  have htab : c = '\t' ↔ c.toNat = 0x09 := Char.toNat_inj.symm
  unfold IsHeaderChar
  rw [htab, List.all_eq_true]
  obtain ⟨hsmall, hone⟩ | ⟨hlarge, lead, more, hshape, hlead, hmore⟩ := Reading.utf8EncodeChar_cases c
  · rw [hone, List.forall_mem_singleton, isHeaderByte_iff,
      UInt8.toNat_ofNat_of_lt' (show _ < 256 by omega)]
  · refine iff_of_true ?_ (.inr ⟨by omega, by omega⟩)
    rw [hshape, List.forall_mem_cons]
    refine ⟨isHeaderByte_iff.mpr (.inr ⟨by omega, by omega⟩), fun b hb => ?_⟩
    have hcontinues := hmore b hb
    unfold Reading.Continues at hcontinues
    exact isHeaderByte_iff.mpr (.inr ⟨by omega, by omega⟩)

theorem isHeaderText_iff {text : String} : isHeaderText text ↔ ∀ c ∈ text.toList, IsHeaderChar c := by
  unfold isHeaderText Utf8.encode
  rw [List.all_flatMap, List.all_eq_true]
  simp only [all_isHeaderByte_iff]

theorem isHeaderText_append {a b : String} :
    isHeaderText (a ++ b) ↔ isHeaderText a ∧ isHeaderText b := by
  simp only [isHeaderText_iff, String.toList_append, List.forall_mem_append]

theorem isHeaderText_id (id : FilmId) : isHeaderText id.text := by
  rw [isHeaderText_iff]
  intro c hc
  have hdigit := FilmId.isDigit_of_mem_text hc
  simp only [Char.isDigit, Bool.and_eq_true, decide_eq_true_eq, UInt32.le_iff_toNat_le,
    Char.toNat_val] at hdigit
  have hlow : 0x30 ≤ c.toNat := hdigit.1
  have hhigh : c.toNat ≤ 0x39 := hdigit.2
  exact .inr ⟨by omega, by omega⟩

/-- Of an address, only the base can keep it out of a header. -/
theorem isHeaderText_item (address : Address) (id : FilmId) :
    isHeaderText (address.item id) ↔ isHeaderText address.base := by
  have hfolder : isHeaderText Address.collectionPath ∧ isHeaderText "/" := by decide
  unfold Address.item
  simp only [isHeaderText_append, hfolder, isHeaderText_id, and_true]

/-! ## Bases -/

theorem isHeaderText_of_plain {value : Bytes} {text : String} (h : plainText? value = some text) :
    isHeaderText text := by
  unfold plainText? at h
  split at h
  · rename_i hplain
    cases h
    rw [isHeaderText_iff, String.toList_ofList]
    intro c hc
    obtain ⟨b, hb, rfl⟩ := List.mem_map.mp hc
    have hbyte := List.all_eq_true.mp hplain b hb
    simp only [isPlainByte, Bool.or_eq_true, beq_iff_eq, Bool.and_eq_true, decide_eq_true_eq,
      ← UInt8.toNat_inj, UInt8.le_iff_toNat_le, UInt8.lt_iff_toNat_lt, UInt8.reduceToNat] at hbyte
    rw [← all_isHeaderByte_iff, Utf8.utf8EncodeChar_one (by omega), List.all_eq_true,
      List.forall_mem_singleton, isHeaderByte_iff]
    omega
  · cases h

/-- A host of a request never keeps an address out of a header. -/
theorem isHeaderText_host {settings : Settings} (hbase : settings.publicBase = none)
    (request : Request) : isHeaderText (address settings request).base := by
  have hscheme : isHeaderText "http://" ∧ isHeaderText "" := by decide
  unfold address
  rw [hbase]
  dsimp only
  split
  · rename_i host hhost
    obtain ⟨value, -, hplain⟩ := Option.bind_eq_some_iff.mp hhost
    exact isHeaderText_append.mpr ⟨hscheme.1, isHeaderText_of_plain hplain⟩
  · exact hscheme.2

end Service

open Service (IsHeaderChar isHeaderText isHeaderText_iff)

/-- All that is left of a configured base, once the blanks at its ends are gone, can be sent in a
header. -/
def Environment.Sendable (env : Environment) : Prop :=
  ∀ text, env.text? .publicBase = some text → ∀ c ∈ (Blank.trim text).toList, IsHeaderChar c

/-- Slashes can be sent, so those that are taken off do not count. -/
theorem Settings.base?_sendable (text : String) :
    (∀ base, base? text = some base → isHeaderText base) ↔
      ∀ c ∈ (Blank.trim text).toList, IsHeaderChar c := by
  have hslash : ∀ c, (c == '/') = true → IsHeaderChar c := by
    intro c hc
    rw [beq_iff_eq] at hc
    subst hc
    exact .inr (by decide)
  rw [← Blank.forall_mem_rdropWhile hslash]
  unfold base? List.rdropWhile
  dsimp only
  split
  · rename_i hempty
    have hnil := congrArg String.toList hempty
    rw [String.toList_ofList] at hnil
    simp [hnil]
  · simp [isHeaderText_iff]

/-- The environment with another base, or with none. -/
def Environment.withBase (env : Environment) (value : Option Bytes) : Environment where
  value?
    | .publicBase => value
    | source => env.value? source

/-- A base cannot stop the start, and nothing else depends on it. -/
theorem Settings.ofEnvironment_withBase (env : Environment) (value : Option Bytes) :
    ofEnvironment (env.withBase value) =
      (ofEnvironment env).map fun settings =>
        { settings with publicBase := (value.bind Utf8.decode?).bind base? } := by
  have hport : number (env.withBase value) .port = number env .port := rfl
  have htimeout : number (env.withBase value) .timeout = number env .timeout := rfl
  have hcapacity : number (env.withBase value) .capacity = number env .capacity := rfl
  have hmode : mode (env.withBase value) = mode env := rfl
  unfold ofEnvironment
  simp only [hport, htimeout, hcapacity, hmode]
  cases number env .port .port 4711 with
  | error fault => rfl
  | ok port =>
  cases number env .timeout .seconds 30 with
  | error fault => rfl
  | ok timeout =>
  cases number env .capacity .count Catalog.defaultCapacity with
  | error fault => rfl
  | ok capacity => cases mode env .legacy <;> rfl

theorem Settings.publicBase_of_environment {env : Environment} {settings : Settings}
    (h : ofEnvironment env = .ok settings) :
    settings.publicBase = (env.text? .publicBase).bind base? := by
  obtain ⟨-, -, -, -, -, hbase, -⟩ := ofEnvironment_eq_ok_iff.mp h
  exact hbase

namespace Service

theorem publicBase_of_start {env : Environment} {settings : Settings}
    (hstart : start env = .ok settings) :
    settings.publicBase = (env.text? .publicBase).bind Settings.base? :=
  Settings.publicBase_of_environment (start_eq_ok_iff.mp hstart).1

theorem isHeaderText_address {env : Environment} {settings : Settings}
    (hstart : start env = .ok settings) (request : Request) :
    isHeaderText (address settings request).base ↔ env.Sendable := by
  have hbase := publicBase_of_start hstart
  have hsendable : env.Sendable ↔ ∀ base, settings.publicBase = some base → isHeaderText base := by
    unfold Environment.Sendable
    rw [hbase]
    cases env.text? .publicBase with
    | none => simp
    | some text => simpa using (Settings.base?_sendable text).symm
  rw [hsendable]
  cases hconfigured : settings.publicBase with
  | none => exact iff_of_true (isHeaderText_host hconfigured request) nofun
  | some base =>
    unfold address
    rw [hconfigured]
    simp

/-! ## Creations -/

variable {settings : Settings} {catalog next : Catalog} {request : Request}

theorem plan_post (hmethod : request.method = .post) (hpath : request.AtFilms) :
    request.plan = request.planWith .create := by
  rw [Request.plan_on (Request.route?_eq_films_iff.mpr hpath) (by simp [hmethod])]
  unfold Request.planOn
  rw [hmethod]

/-- A creation is refused, and nothing changes, or its film is stored. -/
theorem perform_post (hmethod : request.method = .post) (hpath : request.AtFilms)
    (catalog : Catalog) :
    (∃ refusal, request.plan.perform catalog = (.refused refusal, catalog)) ∨
      ∃ entry next, request.plan.perform catalog = (.created entry, next) ∧
        request.Submits entry.film ∧ next.entries = catalog.entries ++ [entry] := by
  rw [plan_post hmethod hpath]
  unfold Request.planWith
  cases hfilm : request.film with
  | error refusal => exact .inl ⟨refusal, rfl⟩
  | ok film =>
    dsimp only
    rw [Plan.perform]
    cases hmade : catalog.create film with
    | error refusal => exact .inl ⟨refusal, rfl⟩
    | ok made =>
      obtain ⟨-, -, -, hnext⟩ := Catalog.create_eq_ok_iff.mp hmade
      exact .inr ⟨⟨made.1, film⟩, made.2, rfl, Request.film_eq_ok_iff.mp hfilm, by rw [hnext]⟩

theorem code_refused (refusal : Refusal) (mode : StatusMode) :
    400 ≤ (refusal.reply.statusIn mode).code ∧ refusal.reply.statusIn mode ≠ .serverError := by
  cases refusal <;> cases mode <;>
    simp [Reply.statusIn, Refusal.reply, Reply.json, Refusal.isLegacyNotFound, Refusal.status, Status.code]

theorem status_created {under : Address} {entry : Entry} (mode : StatusMode) :
    (createdReply under entry).statusIn mode =
      if isHeaderText under.base then .created else .serverError := by
  unfold createdReply
  simp only [isHeaderText_item]
  split <;> cases mode <;> rfl

/-- The catalog gains the entry at its end. -/
def Gains (catalog next : Catalog) (entry : Entry) : Prop :=
  next.entries = catalog.entries ++ [entry]

theorem Gains.unique {a b : Entry} (ha : Gains catalog next a) (hb : Gains catalog next b) :
    a = b := by
  unfold Gains at ha hb
  simpa using ha.symm.trans hb

theorem not_gains_self (catalog : Catalog) (entry : Entry) : ¬ Gains catalog catalog entry := by
  unfold Gains
  simp

theorem not_gains_of_length_le (h : next.entries.length ≤ catalog.entries.length) (entry : Entry) :
    ¬ Gains catalog next entry := by
  intro hgains
  rw [hgains, List.length_append, List.length_singleton] at h
  omega

/-- Only a creation adds an entry. -/
theorem gains_iff_created {command : Catalog.Command} {answer : Catalog.Answer}
    (h : Catalog.Step catalog command answer next) {entry : Entry} :
    Gains catalog next entry ↔ Catalog.Event.created? (command, answer) = some entry := by
  cases h with
  | refused refusal =>
    rw [Catalog.Event.created?_refused]
    simp [not_gains_self]
  | created hfresh hfree =>
    unfold Gains
    simp [Catalog.Event.created?]
  | replaced hfound hfresh =>
    refine iff_of_false (not_gains_of_length_le (List.length_map _).le entry) ?_
    simp [Catalog.Event.created?]
  | deleted hfound =>
    refine iff_of_false (not_gains_of_length_le (List.length_filter_le _ _) entry) ?_
    simp [Catalog.Event.created?]
  | cleared | reset =>
    refine iff_of_false (not_gains_of_length_le (Nat.zero_le _) entry) ?_
    simp [Catalog.Event.created?]
  | got | kept | listed | counted | tested | bounded => simp [not_gains_self, Catalog.Event.created?]

/-- A film is stored exactly if a creation is told or if its address cannot be sent. The latter depends
on the environment of the service alone, and then the answer to the stored film is a server error. -/
theorem creations_are_told {env : Environment} (hstart : start env = .ok settings)
    (hmethod : request.method = .post) (hpath : request.AtFilms) (before : List Request) :
    let catalog := catalogAfter settings before
    let response := (respond settings catalog request).1
    let next := (respond settings catalog request).2
    (response.status = .created ↔ env.Sendable ∧ ∃ entry, Gains catalog next entry) ∧
      (response.status = .serverError ↔ ¬ env.Sendable ∧ ∃ entry, Gains catalog next entry) ∧
      (response.status ≠ .created → response.status ≠ .serverError →
        next = catalog ∧ 400 ≤ response.status.code) ∧
      ∀ entry, Gains catalog next entry →
        request.Submits entry.film ∧
          (env.Sendable → response.headers.filter (·.1 = "location") =
            [("location", .text ((address settings request).base ++ filmPath entry.id))]) := by
  intro catalog
  rw [respond_eq, ← isHeaderText_address hstart request]
  rcases perform_post hmethod hpath catalog with ⟨refusal, hperform⟩ | ⟨entry, next, hperform, h⟩
  · have hstatus := statusIn_refusal refusal settings.statusMode
    have hcode := code_refused refusal settings.statusMode
    rw [hperform]
    refine ⟨iff_of_false hstatus.2 ?_, iff_of_false hcode.2 ?_, fun _ _ => ⟨rfl, hcode.1⟩, ?_⟩
    · rintro ⟨-, entry, hgains⟩
      exact not_gains_self catalog entry hgains
    · rintro ⟨-, entry, hgains⟩
      exact not_gains_self catalog entry hgains
    · intro entry hgains
      exact absurd hgains (not_gains_self catalog entry)
  · obtain ⟨hsubmits, hentries⟩ := h
    have hgains : ∃ entry, Gains catalog next entry := ⟨entry, hentries⟩
    have hstatus : (finish settings request (createdReply (address settings request) entry)).status =
        if isHeaderText (address settings request).base then .created else .serverError :=
      status_created settings.statusMode
    rw [hperform]
    dsimp only [Outcome.reply]
    refine ⟨?_, ?_, ?_, ?_⟩
    · rw [hstatus, and_iff_left hgains]
      split <;> simp [*]
    · rw [hstatus, and_iff_left hgains]
      split <;> simp [*]
    · rw [hstatus]
      split <;> simp
    · intro gained hgained
      obtain rfl := hgained.unique hentries
      refine ⟨hsubmits, fun htext => ?_⟩
      rw [← item_eq]
      exact location_created settings request ((isHeaderText_item _ _).mpr htext)

/-! ## Two bases -/

/-- An environment in which the base alone is set. -/
def based (base : String) : Environment where
  value?
    | .publicBase => some (Utf8.encode base)
    | _ => none

theorem start_based : start (based " http://films.test/ ") = .ok sampleSettings := by
  decide +kernel

theorem creations_are_told_sample :
    start (based " http://films.test/ ") = .ok sampleSettings ∧ sampleCreation.method = .post ∧
      sampleCreation.AtFilms ∧
      Gains (freshCatalog sampleSettings)
        (respond sampleSettings (freshCatalog sampleSettings) sampleCreation).2 ⟨⟨0⟩, sampleFilm⟩ ∧
      (respond sampleSettings (freshCatalog sampleSettings) sampleCreation).1.headers.filter
        (·.1 = "location") = [("location", .text ("http://films.test" ++ filmPath ⟨0⟩))] := by
  have hpath : sampleCreation.AtFilms := by
    unfold Request.AtFilms
    decide +kernel
  have hsendable : (based " http://films.test/ ").Sendable :=
    (isHeaderText_address start_based sampleCreation).mp (by decide +kernel)
  have hgains : Gains (freshCatalog sampleSettings)
      (respond sampleSettings (freshCatalog sampleSettings) sampleCreation).2 ⟨⟨0⟩, sampleFilm⟩ :=
    respond_sampleCreation.2
  refine ⟨start_based, rfl, hpath, hgains, ?_⟩
  obtain ⟨-, -, -, htold⟩ := creations_are_told start_based rfl hpath []
  exact (htold _ hgains).2 hsendable

/-- The control character is inside of the base and no blank, so it is kept. -/
def unsendableSettings : Settings := { publicBase := some "http://films\x01test" }

/-- The service starts, answers a creation with a server error, and has stored the film. -/
theorem untold_film_is_stored :
    start (based "http://films\x01test") = .ok unsendableSettings ∧ sampleCreation.AtFilms ∧
      (respond unsendableSettings (freshCatalog unsendableSettings) sampleCreation).1.status.code =
        500 ∧
      Gains (freshCatalog unsendableSettings)
        (respond unsendableSettings (freshCatalog unsendableSettings) sampleCreation).2
          ⟨⟨0⟩, sampleFilm⟩ := by
  have hpath : sampleCreation.AtFilms := by
    unfold Request.AtFilms
    decide +kernel
  obtain ⟨htold, hentries⟩ := respond_create_fresh unsendableSettings plan_samples.1 (by decide)
  refine ⟨by decide +kernel, hpath, ?_, hentries⟩
  rw [htold]
  rfl

end Service

end FilmCatalog
