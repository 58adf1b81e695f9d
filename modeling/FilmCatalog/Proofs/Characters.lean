import FilmCatalog.Proofs.Submissions

/-!
# The characters of a body

A body that holds a film is the bytes of a text. All that this text has beyond Ascii are characters
of the film.
-/

namespace FilmCatalog

/-- One of the texts of the film has the character. -/
def Film.Has (film : Film) (c : Char) : Prop := ∃ field, c ∈ (film.get field).toList

namespace Grammar

/-! ## Bytes of known characters -/

/-- The bytes of some characters, each of them one of Ascii or one that is allowed. -/
def MadeOf (Allowed : Char → Prop) (bytes : Bytes) : Prop :=
  ∃ cs : List Char, bytes = cs.flatMap String.utf8EncodeChar ∧
    ∀ c ∈ cs, c.toNat < 0x80 ∨ Allowed c

variable {Allowed Other : Char → Prop} {bytes more : Bytes}

theorem MadeOf.append (h : MadeOf Allowed bytes) (hmore : MadeOf Allowed more) :
    MadeOf Allowed (bytes ++ more) := by
  obtain ⟨cs, rfl, hcs⟩ := h
  obtain ⟨ds, rfl, hds⟩ := hmore
  refine ⟨cs ++ ds, by rw [List.flatMap_append], ?_⟩
  intro c hc
  rcases List.mem_append.mp hc with hc | hc
  · exact hcs c hc
  · exact hds c hc

theorem MadeOf.mono (h : MadeOf Allowed bytes)
    (hother : ∀ c, Allowed c → c.toNat < 0x80 ∨ Other c) : MadeOf Other bytes := by
  obtain ⟨cs, rfl, hcs⟩ := h
  refine ⟨cs, rfl, fun c hc => ?_⟩
  rcases hcs c hc with hsmall | hallowed
  · exact .inl hsmall
  · exact hother c hallowed

theorem madeOf_ascii (h : ∀ b ∈ bytes, b.toNat < 0x80) : MadeOf Allowed bytes := by
  refine ⟨bytes.map fun b => Char.ofNat b.toNat, ?_, ?_⟩
  · induction bytes with
    | nil => rfl
    | cons b bytes ih =>
      rw [List.forall_mem_cons] at h
      rw [List.map_cons, List.flatMap_cons, Utf8.utf8EncodeChar_one h.1, ← ih h.2]
      rfl
  · intro c hc
    obtain ⟨b, hb, rfl⟩ := List.mem_map.mp hc
    have hsmall := h b hb
    have hsame : (Char.ofNat b.toNat).toNat = b.toNat := Utf8.toNat_ofNat_val (by omega)
    left
    rwa [hsame]

theorem MadeOf.cons (h : MadeOf Allowed bytes) {b : UInt8} (hb : b.toNat < 0x80) :
    MadeOf Allowed (b :: bytes) := by
  have hfirst : MadeOf Allowed [b] := madeOf_ascii (by simpa using hb)
  exact hfirst.append h

/-! ## Texts -/

theorem madeOf_blanks {gap : Bytes} (h : Blanks gap) : MadeOf Allowed gap := by
  refine madeOf_ascii fun b hb => ?_
  rcases h b hb with rfl | rfl | rfl | rfl <;> decide

theorem ascii_of_hex {digits : Bytes} {n : Nat} (h : Hex digits n) : ∀ b ∈ digits, b.toNat < 0x80 := by
  obtain ⟨x, y, z, w, hdigits, -⟩ := h
  intro b hb
  have hvalue : Ascii.hexValue? b ∈ [some x, some y, some z, some w] :=
    hdigits ▸ List.mem_map_of_mem hb
  have hsome : Ascii.hexValue? b ≠ none := by
    intro hnone
    simp [hnone] at hvalue
  unfold Ascii.hexValue? at hsome
  grind

theorem ascii_of_escape {c : Char} (h : Escape c bytes) : ∀ b ∈ bytes, b.toNat < 0x80 := by
  cases h with
  | @short letter hletter =>
    have hall : ∀ pair ∈ shortEscapes, pair.1.toNat < 0x80 := by decide
    simpa using hall _ hletter
  | code hdigits => exact List.forall_mem_cons.mpr ⟨by decide, ascii_of_hex hdigits⟩
  | pair hfirst _ hsecond _ _ =>
    refine List.forall_mem_cons.mpr ⟨by decide, List.forall_mem_append.mpr ⟨ascii_of_hex hfirst, ?_⟩⟩
    refine List.forall_mem_cons.mpr ⟨by decide, ?_⟩
    exact List.forall_mem_cons.mpr ⟨by decide, ascii_of_hex hsecond⟩

theorem madeOf_spelling {c : Char} (h : Spelling c bytes) : MadeOf (· = c) bytes := by
  cases h with
  | plain => exact ⟨[c], by simp, by simp⟩
  | escaped hescape => exact (madeOf_ascii (ascii_of_escape hescape)).cons (by decide)

theorem madeOf_inside {cs : List Char} (h : Inside cs bytes) : MadeOf (· ∈ cs) bytes := by
  induction h with
  | nil => exact ⟨[], rfl, nofun⟩
  | @cons c cs first rest hfirst hrest ih =>
    have hfront : MadeOf (· ∈ c :: cs) first :=
      (madeOf_spelling hfirst).mono fun d hd => .inr (hd ▸ List.mem_cons_self)
    exact hfront.append (ih.mono fun d hd => .inr (List.mem_cons_of_mem c hd))

theorem madeOf_value {s : String} (h : Value s bytes) : MadeOf (· ∈ s.toList) bytes := by
  obtain ⟨gap, quoted, hgap, ⟨inside, hinside, rfl⟩, rfl⟩ := h
  have hend : MadeOf (· ∈ s.toList) [0x22] := madeOf_ascii (by simp)
  exact (madeOf_blanks hgap).append (((madeOf_inside hinside).append hend).cons (by decide))

/-! ## Objects and lists -/

theorem madeOf_row {α : Type} {Item : α → Bytes → Prop} {last : UInt8} {begun : Bool} {xs : List α}
    (h : Row Item last begun xs bytes) (hlast : last.toNat < 0x80)
    (hitem : ∀ x ∈ xs, ∀ item, Item x item → MadeOf Allowed item) : MadeOf Allowed bytes := by
  induction h with
  | close hgap =>
    exact (madeOf_blanks hgap).append (madeOf_ascii (by simpa using hlast))
  | first hx hrest ih =>
    rw [List.forall_mem_cons] at hitem
    exact (hitem.1 _ hx).append (ih hitem.2)
  | further hgap hx hrest ih =>
    rw [List.forall_mem_cons] at hitem
    exact (madeOf_blanks hgap).append (((hitem.1 _ hx).append (ih hitem.2)).cons (by decide))

theorem madeOf_member {pair : String × String} (h : Member pair bytes)
    (hname : ∀ c ∈ pair.1.toList, c.toNat < 0x80) : MadeOf (· ∈ pair.2.toList) bytes := by
  obtain ⟨key, gap, value, hkey, hgap, hvalue, rfl⟩ := h
  have hfront : MadeOf (· ∈ pair.2.toList) key :=
    (madeOf_value hkey).mono fun c hc => .inl (hname c hc)
  exact (hfront.append (madeOf_blanks hgap)).append ((madeOf_value hvalue).cons (by decide))

theorem madeOf_alone {Inner : Bytes → Prop} (h : Alone Inner bytes)
    (hinner : ∀ inner, Inner inner → MadeOf Allowed inner) : MadeOf Allowed bytes := by
  obtain ⟨before, inner, after, hbefore, hin, hafter, rfl⟩ := h
  exact ((madeOf_blanks hbefore).append (hinner inner hin)).append (madeOf_blanks hafter)

/-! ## Films -/

theorem madeOf_filmList {film : Film} (h : FilmList film bytes) : MadeOf film.Has bytes := by
  refine madeOf_alone h fun inner hinner => ?_
  obtain ⟨row, hrow, rfl⟩ := hinner
  refine (madeOf_row hrow (by decide) ?_).cons (by decide)
  intro text htext item hitem
  obtain ⟨field, -, rfl⟩ := List.mem_map.mp htext
  exact (madeOf_value hitem).mono fun c hc => .inr ⟨field, hc⟩

theorem madeOf_filmObject {film : Film} (h : FilmObject film bytes) : MadeOf film.Has bytes := by
  obtain ⟨pairs, halone, hperm, htexts⟩ := h
  have hnodup : (pairs.map (·.1)).Nodup := by
    rw [hperm.nodup_iff]
    decide
  -- The names differ, so a pair with the name of a field is the one that has its text.
  have hpair : ∀ pair ∈ pairs, ∃ field : Field, pair = (field.name, film.get field) := by
    intro pair hmem
    obtain ⟨field, -, hname⟩ := List.mem_map.mp (hperm.mem_iff.mp (List.mem_map_of_mem hmem))
    exact ⟨field, List.inj_on_of_nodup_map hnodup hmem (htexts field) hname.symm⟩
  refine madeOf_alone halone fun inner hinner => ?_
  obtain ⟨row, hrow, rfl⟩ := hinner
  refine (madeOf_row hrow (by decide) ?_).cons (by decide)
  intro pair hmem item hitem
  obtain ⟨field, rfl⟩ := hpair pair hmem
  have hname : field.name.toList.all (·.toNat < 0x80) := by cases field <;> decide
  have hmember := madeOf_member hitem fun c hc => of_decide_eq_true (List.all_eq_true.mp hname c hc)
  exact hmember.mono fun c hc => .inr ⟨field, hc⟩

end Grammar

open Grammar

/-! ## Bodies -/

/-- The bytes of a text. -/
def Utf8.IsText (bytes : Bytes) : Prop := ∃ text, bytes = encode text

theorem Utf8.encode_inj {a b : String} (h : encode a = encode b) : a = b := by
  have hread := decode?_encode a
  rw [h, decode?_encode] at hread
  exact (Option.some.inj hread).symm

namespace Submission

theorem madeOf_written {film : Film} {body : Bytes} (h : Written film body) :
    MadeOf film.Has body := by
  rcases h with hobject | hlist
  · exact madeOf_filmObject hobject
  · exact madeOf_filmList hlist

/-- A body that is read is a text, and all that it has beyond Ascii are characters of the film. -/
theorem text_of_written {film : Film} {body : Bytes} (h : Written film body) :
    ∃ text, body = Utf8.encode text ∧ ∀ c ∈ text.toList, c.toNat < 0x80 ∨ film.Has c := by
  obtain ⟨cs, rfl, hcs⟩ := madeOf_written h
  refine ⟨String.ofList cs, ?_, ?_⟩
  · unfold Utf8.encode
    rw [String.toList_ofList]
  · rwa [String.toList_ofList]

end Submission

end FilmCatalog
