import FilmCatalog.Catalog

/-!
# Consistent catalogs

In a consistent catalog the index leads from each stored film to its number and to nothing else, the
numbers grow along the list and stay below the next one, and there is room for all films. Every change
keeps a catalog consistent as long as the next number does not run over.
-/

namespace FilmCatalog.Catalog

/-- What every catalog keeps. -/
structure Consistent (catalog : Catalog) : Prop where
  index_iff : ∀ film id, catalog.index[film]? = some id ↔ ⟨id, film⟩ ∈ catalog.entries
  sorted : catalog.entries.Pairwise fun a b => a.id.number.toNat < b.id.number.toNat
  below : ∀ entry ∈ catalog.entries, entry.id.number.toNat < catalog.nextNumber.toNat
  room : catalog.size ≤ catalog.capacity

theorem toNat_succ {number : UInt64} (hsmall : number.toNat + 1 < UInt64.size) :
    (number + 1).toNat = number.toNat + 1 := by
  rw [UInt64.toNat_add]
  exact Nat.mod_eq_of_lt hsmall

variable {catalog : Catalog}

theorem mem_of_find? {id : FilmId} {film : Film} (h : catalog.find? id = some film) :
    ⟨id, film⟩ ∈ catalog.entries := by
  obtain ⟨entry, hfound, rfl⟩ := Option.map_eq_some_iff.mp h
  obtain rfl : entry.id = id := by simpa using List.find?_some hfound
  exact List.mem_of_find?_eq_some hfound

theorem find?_eq_none_iff {id : FilmId} :
    catalog.find? id = none ↔ ∀ entry ∈ catalog.entries, entry.id ≠ id := by
  unfold find?
  rw [Option.map_eq_none_iff, List.find?_eq_none]
  simp only [beq_iff_eq]

namespace Consistent

/-! ## Entries -/

/-- No number is used twice. -/
theorem eq_of_id_eq (h : Consistent catalog) {a b : Entry} (ha : a ∈ catalog.entries)
    (hb : b ∈ catalog.entries) (hid : a.id = b.id) : a = b := by
  have hsorted := h.sorted
  generalize catalog.entries = entries at ha hb hsorted
  induction entries with
  | nil => simp at ha
  | cons e entries ih =>
    rw [List.pairwise_cons] at hsorted
    rw [List.mem_cons] at ha hb
    rcases ha with rfl | ha <;> rcases hb with rfl | hb
    · rfl
    · have hless := hsorted.1 b hb
      rw [hid] at hless
      omega
    · have hless := hsorted.1 a ha
      rw [hid] at hless
      omega
    · exact ih ha hb hsorted.2

/-- No film is stored twice. -/
theorem eq_of_film_eq (h : Consistent catalog) {a b : Entry} (ha : a ∈ catalog.entries)
    (hb : b ∈ catalog.entries) (hfilm : a.film = b.film) : a = b := by
  have hia := (h.index_iff a.film a.id).mpr ha
  have hib := (h.index_iff b.film b.id).mpr hb
  rw [hfilm, hib, Option.some.injEq] at hia
  exact h.eq_of_id_eq ha hb hia.symm

/-- A film is found under a number exactly when it is stored under it. -/
theorem find?_eq_some_iff (h : Consistent catalog) {id : FilmId} {film : Film} :
    catalog.find? id = some film ↔ ⟨id, film⟩ ∈ catalog.entries := by
  refine ⟨mem_of_find?, fun hmem => ?_⟩
  cases hfound : catalog.find? id with
  | none => exact absurd rfl (find?_eq_none_iff.mp hfound _ hmem)
  | some other =>
    have hsame := h.eq_of_id_eq hmem (mem_of_find? hfound) rfl
    cases hsame
    rfl

/-- Without a stored film the index leads to the others as before. -/
theorem erase_index_iff (h : Consistent catalog) {id : FilmId} {film : Film}
    (hstored : ⟨id, film⟩ ∈ catalog.entries) {other : Film} {number : FilmId} :
    (catalog.index.erase film)[other]? = some number ↔
      number ≠ id ∧ ⟨number, other⟩ ∈ catalog.entries := by
  rw [Std.ExtHashMap.getElem?_erase]
  simp only [beq_iff_eq]
  split
  · rename_i hsame
    subst hsame
    refine iff_of_false nofun ?_
    rintro ⟨hdifferent, hmem⟩
    exact hdifferent (congrArg Entry.id (h.eq_of_film_eq hmem hstored rfl))
  · rename_i hdifferent
    rw [h.index_iff]
    refine ⟨fun hmem => ⟨?_, hmem⟩, And.right⟩
    rintro rfl
    exact hdifferent (congrArg Entry.film (h.eq_of_id_eq hstored hmem rfl))

/-! ## Changes -/

theorem empty (capacity : Nat) : Consistent (.empty capacity) where
  index_iff := by simp [Catalog.empty]
  sorted := by simp [Catalog.empty]
  below := by simp [Catalog.empty]
  room := by simp [Catalog.empty, size]

theorem clear : Consistent catalog.clear where
  index_iff := by simp [Catalog.clear]
  sorted := by simp [Catalog.clear]
  below := by simp [Catalog.clear]
  room := by simp [Catalog.clear, size]

theorem create (h : Consistent catalog) {next : Catalog} {film : Film} {id : FilmId}
    (hsmall : catalog.nextNumber.toNat + 1 < UInt64.size) (hmade : catalog.create film = .ok (id, next)) :
    Consistent next := by
  obtain ⟨hfresh, hfree, rfl, rfl⟩ := create_eq_ok_iff.mp hmade
  have hstep := toNat_succ hsmall
  constructor
  · intro other id
    have hold := h.index_iff other id
    rw [Std.ExtHashMap.getElem?_insert]
    split
    · rename_i hsame
      rw [beq_iff_eq] at hsame
      subst hsame
      have habsent : ⟨id, film⟩ ∉ catalog.entries := by
        rw [← hold, hfresh]
        simp
      simp [habsent, eq_comm]
    · rename_i hdifferent
      rw [beq_iff_eq] at hdifferent
      simp [hold, Ne.symm hdifferent]
  · rw [List.pairwise_append]
    exact ⟨h.sorted, List.pairwise_singleton _ _, by simpa using h.below⟩
  · intro entry hmem
    rw [hstep]
    rcases List.mem_append.mp hmem with hmem | hmem
    · exact Nat.lt_succ_of_lt (h.below entry hmem)
    · rw [List.mem_singleton] at hmem
      rw [hmem]
      exact Nat.lt_succ_self _
  · simp only [size, List.length_append, List.length_singleton] at hfree ⊢
    omega

/-- What is stored after the film under a number is replaced. -/
theorem mem_replace {entries : List Entry} {id number : FilmId} {previous film other : Film}
    (hfound : ⟨id, previous⟩ ∈ entries) :
    ⟨number, other⟩ ∈ (entries.map fun entry => if entry.id = id then { entry with film } else entry) ↔
      number = id ∧ other = film ∨ number ≠ id ∧ ⟨number, other⟩ ∈ entries := by
  rw [List.mem_map]
  constructor
  · rintro ⟨entry, hmem, heq⟩
    split at heq
    · rename_i hsame
      simp only [Entry.mk.injEq] at heq
      exact .inl ⟨heq.1.symm.trans hsame, heq.2.symm⟩
    · rename_i hdifferent
      subst heq
      exact .inr ⟨hdifferent, hmem⟩
  · rintro (⟨rfl, rfl⟩ | ⟨hdifferent, hmem⟩)
    · exact ⟨_, hfound, if_pos rfl⟩
    · exact ⟨_, hmem, if_neg hdifferent⟩

theorem update (h : Consistent catalog) {next : Catalog} {film : Film} {id : FilmId}
    (hmade : catalog.update id film = .ok next) : Consistent next := by
  obtain ⟨previous, hfound, ⟨hown, rfl⟩ | ⟨hfresh, rfl⟩⟩ := update_eq_ok_iff.mp hmade
  · exact h
  · rw [h.find?_eq_some_iff] at hfound
    have habsent (other : FilmId) : ⟨other, film⟩ ∉ catalog.entries := by
      rw [← h.index_iff, hfresh]
      simp
    constructor
    · intro other number
      rw [mem_replace hfound, Std.ExtHashMap.getElem?_insert]
      split
      · rename_i hsame
        rw [beq_iff_eq] at hsame
        subst hsame
        simp [habsent, eq_comm]
      · rename_i hdifferent
        rw [beq_iff_eq] at hdifferent
        simp [h.erase_index_iff hfound, Ne.symm hdifferent]
    · rw [List.pairwise_map]
      refine h.sorted.imp fun {a b} hless => ?_
      split <;> split <;> exact hless
    · intro entry hmem
      obtain ⟨old, hold, rfl⟩ := List.mem_map.mp hmem
      have hbelow := h.below old hold
      split <;> exact hbelow
    · simpa [size] using h.room

theorem delete (h : Consistent catalog) {next : Catalog} {id : FilmId}
    (hmade : catalog.delete id = .ok next) : Consistent next := by
  obtain ⟨film, hfound, rfl⟩ := delete_eq_ok_iff.mp hmade
  rw [h.find?_eq_some_iff] at hfound
  constructor
  · intro other number
    rw [h.erase_index_iff hfound, List.mem_filter, bne_iff_ne]
    exact And.comm
  · exact h.sorted.filter _
  · intro entry hmem
    exact h.below entry (List.mem_filter.mp hmem).1
  · exact Nat.le_trans (List.length_filter_le _ _) h.room

end Consistent

end FilmCatalog.Catalog
