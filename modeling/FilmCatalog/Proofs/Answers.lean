import FilmCatalog.Proofs.Listings

/-!
# Answers are read back

In every answer that is no mere sentence a reader of JSON finds the members that belong there and no others. In a
full listing no film can pass for another one.
-/

namespace FilmCatalog

open Grammar

namespace View

theorem itemDatum_full_inj {film other : Film} {href target : String}
    (h : full.itemDatum film href = full.itemDatum other target) : film = other ∧ href = target := by
  cases film
  cases other
  simpa [itemDatum, and_assoc] using h

theorem listingDatum_full_inj {a b : Address} {entries others : List Entry}
    (h : full.listingDatum a entries = full.listingDatum b others) : a = b ∧ entries = others := by
  unfold listingDatum at h
  simp only [Datum.object.injEq, List.cons.injEq, Prod.mk.injEq, Datum.list.injEq, Datum.text.injEq,
    String.append_left_inj, true_and, and_true] at h
  obtain ⟨hitems, -, hbase⟩ := h
  obtain rfl : a = b := congrArg Address.mk hbase
  refine ⟨rfl, List.map_injective_iff.mpr ?_ hitems⟩
  rintro ⟨id, film⟩ ⟨other, second⟩ hsame
  obtain ⟨rfl, hhref⟩ := itemDatum_full_inj hsame
  rw [← Service.item_eq, ← Service.item_eq] at hhref
  obtain rfl := Service.item_inj hhref
  rfl

end View

namespace Service

def healthDatum (films : Nat) : Datum :=
  .object [("status", .text "ok"), ("version", .text "0.1.0"), ("films", .number films 0)]

/-- What the body of an outcome says, unless it is empty or a mere sentence. -/
def Outcome.datum? (under : Address) : Outcome → Option Datum
  | .refused refusal => some refusal.datum
  | .healthy films => some (healthDatum films)
  | .listed view entries => some (view.listingDatum under entries)
  | .created entry =>
    if isHeaderText (under.base ++ filmPath entry.id) then
      some (View.full.itemDatum entry.film (under.base ++ filmPath entry.id))
    else none
  | .shown entry => some (View.full.itemDatum entry.film (under.base ++ filmPath entry.id))
  | .unknownPath | .wrongMethod _ | .preflight _ | .segmentNotText | .viewTwice | .done => none

theorem read_sentences :
    Datum.read (Utf8.encode "") = none ∧
      Datum.read (Utf8.encode "Invalid URL: Invalid UTF-8 in `id`") = none ∧
      Datum.read (Utf8.encode "Failed to deserialize query string: duplicate field `view`") = none ∧
      Datum.read (Utf8.encode "failed to parse header value") = none :=
  ⟨rfl, rfl, rfl, rfl⟩

theorem read_reply (under : Address) (outcome : Outcome) :
    Datum.read (Utf8.encode (outcome.reply under).body) = outcome.datum? under := by
  obtain ⟨hempty, hsegment, hview, hheader⟩ := read_sentences
  cases outcome with
  | unknownPath | wrongMethod | preflight | done => exact hempty
  | segmentNotText => exact hsegment
  | viewTwice => exact hview
  | refused refusal => exact refusal.read_json
  | healthy films => exact Json.read_write (healthJson films)
  | listed view entries => exact view.read_listing under entries
  | created entry =>
    rw [Outcome.reply, createdReply, Outcome.datum?, ← item_eq under entry.id]
    split
    · exact View.read_item .full entry.film (under.item entry.id)
    · exact hheader
  | shown entry =>
    rw [Outcome.reply, Outcome.datum?, ← item_eq]
    exact View.read_item .full entry.film (under.item entry.id)

/-- The reader takes exactly the texts of the grammar, and in what the service writes it finds the members
that belong there and no others, whatever the films, the names and the base are. So no two full listings of
different films are written alike. -/
theorem answers_are_read_back :
    (∀ bytes datum, Datum.read bytes = some datum ↔ Document datum bytes) ∧
      (∀ settings catalog request,
        Datum.read (Utf8.encode (respond settings catalog request).1.body) =
          if request.method = .head then none
          else (request.plan.perform catalog).1.datum? (address settings request)) ∧
      (∀ view under entries,
        Datum.read (Utf8.encode (View.listing view under entries).write) =
          some (view.listingDatum under entries)) ∧
      (∀ view film href,
        Datum.read (Utf8.encode (View.item view film href).write) = some (view.itemDatum film href)) ∧
      (∀ refusal, Datum.read (Utf8.encode (Refusal.reply refusal).body) = some refusal.datum) ∧
      ∀ a b entries others,
        (View.full.listing a entries).write = (View.full.listing b others).write ↔
          a = b ∧ entries = others := by
  refine ⟨fun _ _ => Datum.read_eq_some_iff, ?_, View.read_listing, View.read_item, Refusal.read_json, ?_⟩
  · intro settings catalog request
    rw [respond_eq]
    unfold finish
    split
    · exact read_sentences.1
    · exact read_reply _ _
  · intro a b entries others
    constructor
    · intro hsame
      have hread := View.read_listing .full a entries
      rw [hsame, View.read_listing .full b others] at hread
      obtain ⟨hbase, hentries⟩ := View.listingDatum_full_inj (Option.some.inj hread)
      exact ⟨hbase.symm, hentries.symm⟩
    · rintro ⟨rfl, rfl⟩
      rfl

end Service

end FilmCatalog
