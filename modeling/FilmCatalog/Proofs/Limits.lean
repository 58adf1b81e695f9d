import FilmCatalog.Decimal.Lemmas

/-!
# Numbers up to a limit

A number of the settings is written in digits, and one plus sign may stand in front of them. The digits are read
from the left, so a text that is no number is told by what is met first: a character that is no digit, or a digit
that makes the value too large.
-/

namespace FilmCatalog.Decimal

variable {limit n : Nat} {text : String} {c : Char} {chars body digits rest : List Char} {fault : Fault}

/-! ## Texts -/

/-- What is left of a text without one plus sign in front. A second sign is left in place. -/
inductive Unsigned : List Char → List Char → Prop
  | plus (body : List Char) : Unsigned ('+' :: body) body
  | plain {body : List Char} (hplain : body.head? ≠ some '+') : Unsigned body body

/-- One digit or more, behind one plus sign or none. Zeros in front change nothing. -/
def Denotes (text : String) (n : Nat) : Prop :=
  ∃ digits, Unsigned text.toList digits ∧ digits ≠ [] ∧ (∀ c ∈ digits, c.isDigit) ∧ n = value digits

/-- Where a row of digits up to a limit ends too early. A stray character counts if the digits in front of it are
still within the limit. -/
inductive Stops (limit : Nat) : List Char → Fault → Prop
  | stray {digits rest : List Char} {c : Char} (hdigits : ∀ d ∈ digits, d.isDigit) (hstray : ¬ c.isDigit)
      (hsmall : value digits ≤ limit) : Stops limit (digits ++ c :: rest) .strayCharacter
  | large {digits rest : List Char} (hdigits : ∀ d ∈ digits, d.isDigit) (hlarge : limit < value digits) :
    Stops limit (digits ++ rest) .tooLarge

/-- Why a text is no number up to a limit. -/
inductive Flawed (limit : Nat) : String → Fault → Prop
  | empty : Flawed limit "" .empty
  | sign {sign : String} (hsign : sign = "+" ∨ sign = "-") : Flawed limit sign .strayCharacter
  | body {text : String} {body : List Char} {fault : Fault} (hsign : Unsigned text.toList body)
      (hstops : Stops limit body fault) : Flawed limit text fault

theorem Stops.ne_nil (h : Stops limit body fault) : body ≠ [] := by
  cases h with
  | stray => simp
  | @large digits rest hdigits hlarge =>
    intro hnil
    obtain ⟨rfl, -⟩ := List.append_eq_nil_iff.mp hnil
    exact absurd hlarge (Nat.not_lt_zero limit)

/-! ## Digits -/

theorem digit?_of_not_isDigit (h : ¬ c.isDigit) : digit? c = none := by
  unfold digit?
  rw [if_neg h]

theorem readOnto_digit (h : c.isDigit) (start : Nat) (rest : List Char) :
    readOnto limit start (c :: rest) =
      if 10 * start + (c.toNat - '0'.toNat) ≤ limit then
        readOnto limit (10 * start + (c.toNat - '0'.toNat)) rest
      else .error .tooLarge := by
  rw [readOnto, digit?_eq_some_iff.mpr ⟨h, rfl⟩]

theorem readOnto_stray {start : Nat} (hdigits : ∀ d ∈ digits, d.isDigit) (hstray : ¬ c.isDigit)
    (hsmall : Nat.ofDigitChars 10 digits start ≤ limit) (rest : List Char) :
    readOnto limit start (digits ++ c :: rest) = .error .strayCharacter := by
  induction digits generalizing start with
  | nil => rw [List.nil_append, readOnto, digit?_of_not_isDigit hstray]
  | cons d digits ih =>
    rw [List.forall_mem_cons] at hdigits
    rw [Nat.ofDigitChars_cons] at hsmall
    have hfirst := Nat.le_trans (le_ofDigitChars _ digits) hsmall
    rw [List.cons_append, readOnto_digit hdigits.1, if_pos hfirst]
    exact ih hdigits.2 hsmall

theorem readOnto_large {start : Nat} (hstart : start ≤ limit) (hdigits : ∀ d ∈ digits, d.isDigit)
    (hlarge : limit < Nat.ofDigitChars 10 digits start) (rest : List Char) :
    readOnto limit start (digits ++ rest) = .error .tooLarge := by
  induction digits generalizing start with
  | nil => exact absurd hlarge (Nat.not_lt.mpr hstart)
  | cons d digits ih =>
    rw [List.forall_mem_cons] at hdigits
    rw [Nat.ofDigitChars_cons] at hlarge
    rw [List.cons_append, readOnto_digit hdigits.1]
    split
    · rename_i hfirst
      exact ih hfirst hdigits.2 hlarge
    · rfl

theorem value_append_digit (front : List Char) (c : Char) :
    value (front ++ [c]) = 10 * value front + (c.toNat - '0'.toNat) := by
  unfold value
  rw [Nat.ofDigitChars_append]
  rfl

/-- The digits in front have been read, and their value is what the rest is read onto. -/
theorem stops_of_readOnto {front : List Char} (hfront : ∀ d ∈ front, d.isDigit) (hsmall : value front ≤ limit)
    (h : readOnto limit (value front) chars = .error fault) : Stops limit (front ++ chars) fault := by
  induction chars generalizing front with
  | nil => cases h
  | cons c chars ih =>
    by_cases hc : c.isDigit
    · have hmore : ∀ d ∈ front ++ [c], d.isDigit :=
        List.forall_mem_append.mpr ⟨hfront, List.forall_mem_singleton.mpr hc⟩
      rw [readOnto_digit hc, ← value_append_digit] at h
      rw [List.append_cons]
      split at h
      · rename_i hfirst
        exact ih hmore hfirst h
      · rename_i hlarge
        cases h
        exact .large hmore (Nat.not_le.mp hlarge)
    · rw [readOnto, digit?_of_not_isDigit hc] at h
      cases h
      exact .stray hfront hc hsmall

theorem readOnto_eq_error_iff : readOnto limit 0 chars = .error fault ↔ Stops limit chars fault := by
  constructor
  · intro h
    have hnone : ∀ d ∈ ([] : List Char), d.isDigit := nofun
    exact stops_of_readOnto hnone (Nat.zero_le limit) h
  · intro h
    cases h with
    | stray hdigits hstray hsmall => exact readOnto_stray hdigits hstray hsmall _
    | large hdigits hlarge => exact readOnto_large (Nat.zero_le limit) hdigits hlarge _

/-! ## Numbers -/

theorem read_unsigned (hsign : Unsigned text.toList body) (hsome : body ≠ []) :
    read limit text = readOnto limit 0 body := by
  unfold read
  generalize text.toList = chars at hsign
  cases hsign with
  | plus =>
    split
    · rename_i hnil
      cases hnil
    · rename_i hsign
      cases hsign
      exact absurd rfl hsome
    · rename_i hsign
      cases hsign
      rfl
    · rename_i hother
      exact absurd rfl (hother body)
  | plain hplain =>
    split
    · exact absurd rfl hsome
    · exact absurd rfl hplain
    · exact absurd rfl hplain
    · rfl

/-- A text is nothing, a sign alone, or what is read without its sign. -/
theorem unsigned_cases (text : String) :
    text = "" ∨ text = "+" ∨ ∃ body, Unsigned text.toList body ∧ body ≠ [] := by
  rw [← String.toList_inj, ← @String.toList_inj text]
  cases text.toList with
  | nil => exact .inl rfl
  | cons c rest =>
    refine .inr ?_
    by_cases hc : c = '+'
    · subst hc
      cases rest with
      | nil => exact .inl rfl
      | cons d rest => exact .inr ⟨_, .plus _, by simp⟩
    · exact .inr ⟨_, .plain (by simpa using hc), by simp⟩

theorem read_eq_ok_iff : read limit text = .ok n ↔ Denotes text n ∧ n ≤ limit := by
  constructor
  · intro h
    rcases unsigned_cases text with rfl | rfl | ⟨body, hsign, hsome⟩
    · cases h
    · cases h
    · rw [read_unsigned hsign hsome, readOnto_eq_ok_iff (Nat.zero_le limit)] at h
      obtain ⟨hdigits, hvalue, hsmall⟩ := h
      exact ⟨⟨body, hsign, hsome, hdigits, hvalue⟩, hsmall⟩
  · rintro ⟨⟨digits, hsign, hsome, hdigits, hvalue⟩, hsmall⟩
    rw [read_unsigned hsign hsome, readOnto_eq_ok_iff (Nat.zero_le limit)]
    exact ⟨hdigits, hvalue, hsmall⟩

theorem read_eq_error_iff : read limit text = .error fault ↔ Flawed limit text fault := by
  constructor
  · intro h
    rcases unsigned_cases text with rfl | rfl | ⟨body, hsign, hsome⟩
    · cases h
      exact .empty
    · cases h
      exact .sign (.inl rfl)
    · rw [read_unsigned hsign hsome, readOnto_eq_error_iff] at h
      exact .body hsign h
  · intro h
    cases h with
    | empty => rfl
    | sign hsign => rcases hsign with rfl | rfl <;> rfl
    | body hsign hstops => rwa [read_unsigned hsign hstops.ne_nil, readOnto_eq_error_iff]

example :
    read 0xFFFF "+0065535" = .ok 65535 ∧ read 0xFFFF "65535x" = .error .strayCharacter ∧
      read 0xFFFF "65536x" = .error .tooLarge ∧ read 0xFFFF "++1" = .error .strayCharacter :=
  ⟨rfl, rfl, rfl, rfl⟩

end FilmCatalog.Decimal
