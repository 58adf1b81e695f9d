import FilmCatalog.Text.Utf8

/-!
# Reading texts back

The bytes of a text are cut into its characters, whatever follows them, and bytes whose pieces are all
whole are the bytes of a text. So exactly the bytes of a text are read as that text.
-/

namespace FilmCatalog.Utf8

/-! ## One character -/

theorem next_of_first? (ps : List Piece) (b : UInt8) {taken : Taken} (h : first? b = some taken) :
    Cut.next { pieces := ps } b = .put ps taken := by
  simp only [Cut.next, Cut.start, h]

theorem next_of_fits (ps : List Piece) {begun : Begun} {n : Nat} (h : n < 256)
    (hlow : begun.low ≤ n) (hhigh : n ≤ begun.high) :
    Cut.next (.put ps (.begun begun)) (UInt8.ofNat n) = .put ps (begun.take (UInt8.ofNat n)) := by
  simp [Cut.next, Cut.put, Begun.fits, UInt8.toNat_ofNat_of_lt' h, hlow, hhigh]

theorem take_last {bits n low high : Nat} (h : n < 256) :
    Begun.take ⟨bits, low, high, 0⟩ (UInt8.ofNat n) = .char (Char.ofNat (bits * 64 + n % 64)) := by
  simp only [Begun.take, UInt8.toNat_ofNat_of_lt' h]

theorem take_more {bits n low high more : Nat} (h : n < 256) :
    Begun.take ⟨bits, low, high, more + 1⟩ (UInt8.ofNat n) =
      .begun { bits := bits * 64 + n % 64, more } := by
  simp only [Begun.take, UInt8.toNat_ofNat_of_lt' h]

theorem foldl_two (ps : List Piece) (v : Nat) (hlow : 0x7F < v) (hhigh : v ≤ 0x7FF) :
    [UInt8.ofNat (v / 64 % 32 + 192), UInt8.ofNat (v % 64 + 128)].foldl Cut.next { pieces := ps } =
      { pieces := .whole (Char.ofNat v) :: ps } := by
  have hbyte : (UInt8.ofNat (v / 64 % 32 + 192)).toNat = v / 64 % 32 + 192 :=
    UInt8.toNat_ofNat_of_lt' (show _ < 256 by omega)
  have hlead := show first? (UInt8.ofNat (v / 64 % 32 + 192)) = some _ by
    simp (disch := omega) only [first?, hbyte, if_neg, if_pos]
    rfl
  rw [List.foldl_cons, next_of_first? ps _ hlead, List.foldl_cons,
    next_of_fits ps (by omega) (by simp) (by simp; omega), take_last (by omega)]
  have : (v / 64 % 32 + 192 - 192) * 64 + (v % 64 + 128) % 64 = v := by omega
  rw [this]
  rfl

theorem foldl_three (ps : List Piece) (v : Nat) (hlow : 0x7FF < v) (hhigh : v ≤ 0xFFFF)
    (hvalid : v < 0xD800 ∨ 0xDFFF < v) :
    [UInt8.ofNat (v / 4096 % 16 + 224), UInt8.ofNat (v / 64 % 64 + 128),
      UInt8.ofNat (v % 64 + 128)].foldl Cut.next { pieces := ps } =
      { pieces := .whole (Char.ofNat v) :: ps } := by
  have hbyte : (UInt8.ofNat (v / 4096 % 16 + 224)).toNat = v / 4096 % 16 + 224 :=
    UInt8.toNat_ofNat_of_lt' (show _ < 256 by omega)
  have hlead := show first? (UInt8.ofNat (v / 4096 % 16 + 224)) = some _ by
    simp (disch := omega) only [first?, hbyte, if_neg, if_pos]
    rfl
  rw [List.foldl_cons, next_of_first? ps _ hlead, List.foldl_cons,
    next_of_fits ps (by omega) (by dsimp only; split <;> omega) (by dsimp only; split <;> omega),
    take_more (by omega), List.foldl_cons, next_of_fits ps (by omega) (by simp) (by simp; omega),
    take_last (by omega)]
  have : ((v / 4096 % 16 + 224 - 224) * 64 + (v / 64 % 64 + 128) % 64) * 64 +
      (v % 64 + 128) % 64 = v := by omega
  rw [this]
  rfl

theorem foldl_four (ps : List Piece) (v : Nat) (hlow : 0xFFFF < v) (hhigh : v ≤ 0x10FFFF) :
    [UInt8.ofNat (v / 262144 % 8 + 240), UInt8.ofNat (v / 4096 % 64 + 128),
      UInt8.ofNat (v / 64 % 64 + 128), UInt8.ofNat (v % 64 + 128)].foldl Cut.next { pieces := ps } =
      { pieces := .whole (Char.ofNat v) :: ps } := by
  have hbyte : (UInt8.ofNat (v / 262144 % 8 + 240)).toNat = v / 262144 % 8 + 240 :=
    UInt8.toNat_ofNat_of_lt' (show _ < 256 by omega)
  have hlead := show first? (UInt8.ofNat (v / 262144 % 8 + 240)) = some _ by
    simp (disch := omega) only [first?, hbyte, if_neg, if_pos]
    rfl
  rw [List.foldl_cons, next_of_first? ps _ hlead, List.foldl_cons,
    next_of_fits ps (by omega) (by dsimp only; split <;> omega) (by dsimp only; split <;> omega),
    take_more (by omega), List.foldl_cons, next_of_fits ps (by omega) (by simp) (by simp; omega),
    take_more (by omega), List.foldl_cons, next_of_fits ps (by omega) (by simp) (by simp; omega),
    take_last (by omega)]
  have : (((v / 262144 % 8 + 240 - 240) * 64 + (v / 4096 % 64 + 128) % 64) * 64 +
      (v / 64 % 64 + 128) % 64) * 64 + (v % 64 + 128) % 64 = v := by omega
  rw [this]
  rfl

/-- The bytes of a character are one whole piece. -/
theorem foldl_utf8EncodeChar (ps : List Piece) (c : Char) :
    (String.utf8EncodeChar c).foldl Cut.next { pieces := ps } = { pieces := .whole c :: ps } := by
  have hvalid := c.valid
  have hsame : Char.ofNat c.val.toNat = c := Char.ofNat_toNat c
  simp only [UInt32.isValidChar, Nat.isValidChar] at hvalid
  simp only [String.utf8EncodeChar]
  generalize c.val.toNat = v at hvalid hsame
  subst hsame
  split
  · have hbyte : (UInt8.ofNat v).toNat = v := UInt8.toNat_ofNat_of_lt' (show _ < 256 by omega)
    have htaken : first? (UInt8.ofNat v) = some (.char (Char.ofNat v)) := by
      simp (disch := omega) only [first?, hbyte, if_pos]
    exact next_of_first? ps _ htaken
  · split
    · exact foldl_two ps v (by omega) (by omega)
    · split
      · exact foldl_three ps v (by omega) (by omega) (by omega)
      · exact foldl_four ps v (by omega) (by omega)

/-! ## Whole texts -/

/-- A cut with more pieces in front of it. -/
def Cut.onto (cut : Cut) (ps : List Piece) : Cut :=
  { cut with pieces := cut.pieces ++ ps }

theorem next_onto (cut : Cut) (ps : List Piece) (b : UInt8) :
    (cut.onto ps).next b = (cut.next b).onto ps := by
  have honto (qs : List Piece) : Cut.start (qs ++ ps) b = (Cut.start qs b).onto ps := by
    simp only [Cut.start]
    cases first? b with
    | none => rfl
    | some taken => cases taken <;> rfl
  simp only [Cut.next, Cut.onto]
  cases cut.begun with
  | none => exact honto cut.pieces
  | some begun =>
    simp only
    split
    · cases begun.take b <;> rfl
    · exact honto (.broken :: cut.pieces)

theorem foldl_onto (cut : Cut) (ps : List Piece) (bytes : Bytes) :
    bytes.foldl Cut.next (cut.onto ps) = (bytes.foldl Cut.next cut).onto ps := by
  induction bytes generalizing cut with
  | nil => rfl
  | cons b bytes ih => rw [List.foldl_cons, next_onto, ih, List.foldl_cons]

theorem close_onto (cut : Cut) (ps : List Piece) : (cut.onto ps).close = ps.reverse ++ cut.close := by
  simp only [Cut.close, Cut.onto]
  cases cut.begun <;> simp

/-- Whole characters in front do not change what follows them. -/
theorem pieces_utf8EncodeChar_append (c : Char) (bytes : Bytes) :
    pieces (String.utf8EncodeChar c ++ bytes) = .whole c :: pieces bytes := by
  have hfront := foldl_onto {} [.whole c] bytes
  simp only [pieces, List.foldl_append, foldl_utf8EncodeChar]
  exact (congrArg Cut.close hfront).trans (close_onto _ _)

theorem pieces_flatMap_append (cs : List Char) (bytes : Bytes) :
    pieces (cs.flatMap String.utf8EncodeChar ++ bytes) = cs.map .whole ++ pieces bytes := by
  induction cs with
  | nil => rfl
  | cons c cs ih => simp [pieces_utf8EncodeChar_append, ih]

theorem pieces_encode_append (text : String) (bytes : Bytes) :
    pieces (encode text ++ bytes) = text.toList.map .whole ++ pieces bytes :=
  pieces_flatMap_append text.toList bytes

theorem pieces_encode (text : String) : pieces (encode text) = text.toList.map .whole := by
  have := pieces_encode_append text []
  rw [List.append_nil] at this
  exact this.trans (List.append_nil _)

theorem map_shown_whole (cs : List Char) : (cs.map Piece.whole).map Piece.shown = cs := by
  simp [Function.comp_def, Piece.shown]

/-- The bytes of a text are read as that text. -/
theorem decode?_encode (text : String) : decode? (encode text) = some text := by
  have hwhole : (text.toList.map Piece.whole).all Piece.isWhole := by simp [Piece.isWhole]
  simp only [decode?, pieces_encode, hwhole, if_true, map_shown_whole, String.ofList_toList]

/-- Nothing is replaced in the bytes of a text. -/
theorem lossy_encode (text : String) : lossy (encode text) = text := by
  simp only [lossy, pieces_encode, map_shown_whole, String.ofList_toList]

/-! ## Bytes of a text -/

theorem encode_append (a b : String) : encode (a ++ b) = encode a ++ encode b := by
  unfold encode
  rw [String.toList_append, List.flatMap_append]

/-- A byte of a text in Ascii is a character of it. -/
theorem mem_toList_of_mem_encode {text : String} (hascii : ∀ c ∈ text.toList, c.toNat < 0x80)
    {b : UInt8} (hb : b ∈ encode text) : Char.ofNat b.toNat ∈ text.toList := by
  unfold encode at hb
  obtain ⟨c, hc, hbc⟩ := List.mem_flatMap.mp hb
  have hsmall := hascii c hc
  have hone : String.utf8EncodeChar c = [UInt8.ofNat c.toNat] := by
    simp (disch := omega) only [String.utf8EncodeChar, Char.toNat_val, if_pos]
  rw [hone, List.mem_singleton] at hbc
  rw [hbc, UInt8.toNat_ofNat_of_lt' (show _ < 256 by omega), Char.ofNat_toNat]
  exact hc

/-! ## Bytes that are a text -/

/-- The bytes that a begun character was made of. -/
inductive Opened : Bytes → Begun → Prop
  | first {b : UInt8} {begun : Begun} (h : first? b = some (.begun begun)) : Opened [b] begun
  | more {bytes : Bytes} {begun after : Begun} {b : UInt8} (hopened : Opened bytes begun)
    (hfits : begun.fits b) (h : begun.take b = .begun after) : Opened (bytes ++ [b]) after

theorem toNat_ofNat_val {v : Nat} (hvalid : v < 0xD800 ∨ 0xDFFF < v ∧ v < 0x110000) :
    (Char.ofNat v).val.toNat = v := by
  rw [Char.ofNat, dif_pos (show v.isValidChar from hvalid)]
  rfl

theorem ofNat_eq {n : Nat} {b : UInt8} (h : n = b.toNat) : UInt8.ofNat n = b := by
  rw [h, UInt8.ofNat_toNat]

theorem utf8EncodeChar_one {a : UInt8} (ha : a.toNat < 0x80) :
    String.utf8EncodeChar (Char.ofNat a.toNat) = [a] := by
  have hval : (Char.ofNat a.toNat).val.toNat = a.toNat := toNat_ofNat_val (by omega)
  simp (disch := omega) only [String.utf8EncodeChar, hval, if_pos, UInt8.ofNat_toNat]

theorem utf8EncodeChar_two {a b : UInt8} (ha : 0xC2 ≤ a.toNat) (ha' : a.toNat < 0xE0)
    (hb : 0x80 ≤ b.toNat) (hb' : b.toNat ≤ 0xBF) :
    String.utf8EncodeChar (Char.ofNat ((a.toNat - 0xC0) * 64 + b.toNat % 64)) = [a, b] := by
  generalize hv : (a.toNat - 0xC0) * 64 + b.toNat % 64 = v
  have hval : (Char.ofNat v).val.toNat = v := toNat_ofNat_val (by omega)
  simp (disch := omega) only [String.utf8EncodeChar, hval, if_pos, if_neg]
  rw [ofNat_eq (b := a) (by omega), ofNat_eq (b := b) (by omega)]

theorem utf8EncodeChar_three {a b c : UInt8} (ha : 0xE0 ≤ a.toNat) (ha' : a.toNat < 0xF0)
    (hb : 0x80 ≤ b.toNat) (hb' : b.toNat ≤ 0xBF) (hc : 0x80 ≤ c.toNat) (hc' : c.toNat ≤ 0xBF)
    (hlong : a.toNat = 0xE0 → 0xA0 ≤ b.toNat) (hsurrogate : a.toNat = 0xED → b.toNat ≤ 0x9F) :
    String.utf8EncodeChar
      (Char.ofNat (((a.toNat - 0xE0) * 64 + b.toNat % 64) * 64 + c.toNat % 64)) = [a, b, c] := by
  generalize hv : ((a.toNat - 0xE0) * 64 + b.toNat % 64) * 64 + c.toNat % 64 = v
  have hval : (Char.ofNat v).val.toNat = v := toNat_ofNat_val (by omega)
  simp (disch := omega) only [String.utf8EncodeChar, hval, if_pos, if_neg]
  rw [ofNat_eq (b := a) (by omega), ofNat_eq (b := b) (by omega), ofNat_eq (b := c) (by omega)]

theorem utf8EncodeChar_four {a b c d : UInt8} (ha : 0xF0 ≤ a.toNat) (ha' : a.toNat < 0xF5)
    (hb : 0x80 ≤ b.toNat) (hb' : b.toNat ≤ 0xBF) (hc : 0x80 ≤ c.toNat) (hc' : c.toNat ≤ 0xBF)
    (hd : 0x80 ≤ d.toNat) (hd' : d.toNat ≤ 0xBF)
    (hlong : a.toNat = 0xF0 → 0x90 ≤ b.toNat) (hlarge : a.toNat = 0xF4 → b.toNat ≤ 0x8F) :
    String.utf8EncodeChar
      (Char.ofNat ((((a.toNat - 0xF0) * 64 + b.toNat % 64) * 64 + c.toNat % 64) * 64 +
        d.toNat % 64)) = [a, b, c, d] := by
  generalize hv : (((a.toNat - 0xF0) * 64 + b.toNat % 64) * 64 + c.toNat % 64) * 64 +
    d.toNat % 64 = v
  have hval : (Char.ofNat v).val.toNat = v := toNat_ofNat_val (by omega)
  simp (disch := omega) only [String.utf8EncodeChar, hval, if_neg]
  rw [ofNat_eq (b := a) (by omega), ofNat_eq (b := b) (by omega), ofNat_eq (b := c) (by omega),
    ofNat_eq (b := d) (by omega)]

theorem fits_iff {begun : Begun} {b : UInt8} :
    begun.fits b ↔ begun.low ≤ b.toNat ∧ b.toNat ≤ begun.high := by
  simp [Begun.fits]

theorem take_eq_char {begun : Begun} {b : UInt8} {c : Char} (h : begun.take b = .char c) :
    begun.more = 0 ∧ c = Char.ofNat (begun.bits * 64 + b.toNat % 64) := by
  simp only [Begun.take] at h
  split at h
  · rename_i hmore
    simp only [Taken.char.injEq] at h
    exact ⟨hmore, h.symm⟩
  · simp at h

theorem take_eq_begun {begun after : Begun} {b : UInt8} (h : begun.take b = .begun after) :
    begun.more = after.more + 1 ∧ after.bits = begun.bits * 64 + b.toNat % 64 ∧
      after.low = 0x80 ∧ after.high = 0xBF := by
  simp only [Begun.take] at h
  split at h
  · simp at h
  · rename_i hmore
    simp only [Taken.begun.injEq] at h
    rw [← h]
    exact ⟨hmore, rfl, rfl, rfl⟩

theorem first?_char {b : UInt8} {c : Char} (h : first? b = some (.char c)) :
    b.toNat < 0x80 ∧ c = Char.ofNat b.toNat := by
  simp only [first?] at h
  grind

theorem first?_begun {b : UInt8} {begun : Begun} (h : first? b = some (.begun begun)) :
    begun.more = 0 ∧ begun.bits = b.toNat - 0xC0 ∧ 0xC2 ≤ b.toNat ∧ b.toNat < 0xE0 ∧
        begun.low = 0x80 ∧ begun.high = 0xBF ∨
      begun.more = 1 ∧ begun.bits = b.toNat - 0xE0 ∧ 0xE0 ≤ b.toNat ∧ b.toNat < 0xF0 ∧
        0x80 ≤ begun.low ∧ begun.high ≤ 0xBF ∧ (b.toNat = 0xE0 → begun.low = 0xA0) ∧
        (b.toNat = 0xED → begun.high = 0x9F) ∨
      begun.more = 2 ∧ begun.bits = b.toNat - 0xF0 ∧ 0xF0 ≤ b.toNat ∧ b.toNat < 0xF5 ∧
        0x80 ≤ begun.low ∧ begun.high ≤ 0xBF ∧ (b.toNat = 0xF0 → begun.low = 0x90) ∧
        (b.toNat = 0xF4 → begun.high = 0x8F) := by
  simp only [first?] at h
  grind

theorem Opened.length_le {bytes : Bytes} {begun : Begun} (h : Opened bytes begun) :
    1 ≤ bytes.length ∧ bytes.length + begun.more ≤ 3 := by
  induction h with
  | first h =>
    have := first?_begun h
    simp only [List.length_singleton]
    omega
  | more _ _ h ih =>
    have := take_eq_begun h
    simp only [List.length_append, List.length_singleton]
    omega

/-- The byte that finishes a begun character completes the bytes of that character. -/
theorem Opened.char {bytes : Bytes} {begun : Begun} {b : UInt8} {c : Char}
    (hopened : Opened bytes begun) (hfits : begun.fits b) (h : begun.take b = .char c) :
    String.utf8EncodeChar c = bytes ++ [b] := by
  obtain ⟨hmore, rfl⟩ := take_eq_char h
  rw [fits_iff] at hfits
  -- One, two or three bytes stand in front. The first of them says how long the character is.
  cases hopened with
  | @first b0 _ hlead =>
    have hlead := first?_begun hlead
    rw [show begun.bits = b0.toNat - 0xC0 by omega]
    exact utf8EncodeChar_two (by omega) (by omega) (by omega) (by omega)
  | @more bytes before _ b1 hopened hfits1 h1 =>
    have hstep1 := take_eq_begun h1
    rw [fits_iff] at hfits1
    cases hopened with
    | @first b0 _ hlead =>
      have hlead := first?_begun hlead
      rw [hstep1.2.1, show before.bits = b0.toNat - 0xE0 by omega]
      exact utf8EncodeChar_three (by omega) (by omega) (by omega) (by omega) (by omega) (by omega)
        (by omega) (by omega)
    | @more bytes first _ b2 hopened hfits2 h2 =>
      have hstep2 := take_eq_begun h2
      rw [fits_iff] at hfits2
      cases hopened with
      | @first b0 _ hlead =>
        have hlead := first?_begun hlead
        rw [hstep1.2.1, hstep2.2.1, show first.bits = b0.toNat - 0xF0 by omega]
        exact utf8EncodeChar_four (by omega) (by omega) (by omega) (by omega) (by omega)
          (by omega) (by omega) (by omega) (by omega) (by omega)
      | more hopened hfits3 h3 =>
        have := hopened.length_le
        have := take_eq_begun h3
        omega

/-! ## All pieces whole -/

/-- Whether the pieces found so far are whole. -/
def Cut.intact (cut : Cut) : Bool := cut.pieces.all Piece.isWhole

/-- A cut covers some bytes when they are its characters and then those of the one that has begun. -/
def Cut.Covers (cut : Cut) (bytes : Bytes) : Prop :=
  ∃ rest, bytes = (cut.pieces.reverse.map Piece.shown).flatMap String.utf8EncodeChar ++ rest ∧
    match cut.begun with
    | none => rest = []
    | some begun => Opened rest begun

theorem start_broken (ps : List Piece) (b : UInt8) :
    (Cut.start (.broken :: ps) b).intact = false := by
  simp only [Cut.start]
  split
  · rename_i taken _
    cases taken <;> simp [Cut.put, Cut.intact, Piece.isWhole]
  · simp [Cut.intact, Piece.isWhole]

theorem intact_of_next {cut : Cut} {b : UInt8} (h : (cut.next b).intact) : cut.intact := by
  have hput (ps : List Piece) (taken : Taken) (h : (Cut.put ps taken).intact) :
      ps.all Piece.isWhole := by
    cases taken <;> simp_all [Cut.put, Cut.intact, Piece.isWhole]
  simp only [Cut.next] at h
  split at h
  · simp only [Cut.start] at h
    split at h
    · exact hput _ _ h
    · simp [Cut.intact, Piece.isWhole] at h
  · split at h
    · exact hput _ _ h
    · simp [start_broken] at h

theorem intact_of_foldl {cut : Cut} {bytes : Bytes} (h : (bytes.foldl Cut.next cut).intact) :
    cut.intact := by
  induction bytes generalizing cut with
  | nil => exact h
  | cons b bytes ih => exact intact_of_next (ih h)

theorem covers_put {ps : List Piece} {taken : Taken} {rest : Bytes}
    (h : match taken with
      | .char c => String.utf8EncodeChar c = rest
      | .begun begun => Opened rest begun) :
    (Cut.put ps taken).Covers ((ps.reverse.map Piece.shown).flatMap String.utf8EncodeChar ++ rest) := by
  cases taken with
  | char c => exact ⟨[], by simp [Cut.put, Piece.shown, ← h], rfl⟩
  | begun begun => exact ⟨rest, rfl, h⟩

theorem covers_next {cut : Cut} {bytes : Bytes} {b : UInt8} (hcovers : cut.Covers bytes)
    (hintact : (cut.next b).intact) : (cut.next b).Covers (bytes ++ [b]) := by
  obtain ⟨rest, rfl, hrest⟩ := hcovers
  rw [List.append_assoc]
  simp only [Cut.next] at hintact ⊢
  cases h : cut.begun with
  | none =>
    simp only [h] at hrest hintact ⊢
    subst hrest
    simp only [Cut.start] at hintact ⊢
    split at hintact
    · rename_i taken hfirst
      refine covers_put ?_
      cases taken with
      | char c =>
        obtain ⟨hsmall, rfl⟩ := first?_char hfirst
        exact utf8EncodeChar_one hsmall
      | begun begun => exact .first hfirst
    · simp [Cut.intact, Piece.isWhole] at hintact
  | some begun =>
    simp only [h] at hrest hintact ⊢
    split at hintact
    · rename_i hfits
      simp only [hfits, if_true]
      refine covers_put ?_
      cases htaken : begun.take b with
      | char c => exact hrest.char hfits htaken
      | begun after => exact .more hrest hfits htaken
    · simp [start_broken] at hintact

theorem covers_foldl {cut : Cut} {front bytes : Bytes} (hcovers : cut.Covers front)
    (hintact : (bytes.foldl Cut.next cut).intact) :
    (bytes.foldl Cut.next cut).Covers (front ++ bytes) := by
  induction bytes generalizing cut front with
  | nil => simpa using hcovers
  | cons b bytes ih =>
    have hnext : (cut.next b).intact := intact_of_foldl hintact
    have := ih (covers_next hcovers hnext) hintact
    simpa using this

/-- Bytes whose pieces are all whole are the bytes of their characters. -/
theorem eq_of_all_whole {bytes : Bytes} (h : (pieces bytes).all Piece.isWhole) :
    bytes = ((pieces bytes).map Piece.shown).flatMap String.utf8EncodeChar := by
  have hstart : Cut.Covers {} [] := ⟨[], rfl, rfl⟩
  simp only [pieces] at h ⊢
  cases hbegun : (bytes.foldl Cut.next {}).begun with
  | some b => simp [Cut.close, hbegun, Piece.isWhole] at h
  | none =>
    simp only [Cut.close, hbegun] at h ⊢
    have hintact : (bytes.foldl Cut.next {}).intact := by simpa [Cut.intact] using h
    obtain ⟨rest, hcovers, hrest⟩ := covers_foldl hstart hintact
    simp only [hbegun] at hrest
    simpa [hrest] using hcovers

/-- Exactly the bytes of a text are read as that text. -/
theorem decode?_eq_some_iff {bytes : Bytes} {text : String} :
    decode? bytes = some text ↔ bytes = encode text := by
  constructor
  · intro h
    simp only [decode?] at h
    split at h
    · rename_i hwhole
      simp only [Option.some.injEq] at h
      rw [← h, encode, String.toList_ofList]
      exact eq_of_all_whole hwhole
    · simp at h
  · rintro rfl
    exact decode?_encode text

end FilmCatalog.Utf8
