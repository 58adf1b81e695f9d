import FilmCatalog.Proofs.Cuts
import FilmCatalog.Proofs.Limits
import FilmCatalog.Service
import FilmCatalog.Text.Utf8.Lemmas

/-!
# Environments that can be used

Three variables hold numbers and one holds a status mode. The service can be set up exactly if each of them is
missing or says what it should, and otherwise it complains about the first one that does not.
-/

namespace FilmCatalog

open Decimal (Denotes Flawed)
open Blank (Says)

variable {env : Environment} {source : Variable} {text : String} {fault : StartFault} {settings : Settings}

namespace Environment

/-! ## What variables say -/

/-- The bytes of the variable are this text. A variable whose bytes are no text is not set to any. -/
def Sets (env : Environment) (source : Variable) (text : String) : Prop :=
  env.value? source = some (Utf8.encode text)

theorem text?_eq_some_iff : env.text? source = some text ↔ env.Sets source text := by
  unfold text? Sets
  simp only [Option.bind_eq_some_iff, Utf8.decode?_eq_some_iff, exists_eq_right]

theorem text?_eq_none_iff : env.text? source = none ↔ ∀ text, ¬ env.Sets source text := by
  simp only [← text?_eq_some_iff, Option.eq_none_iff_forall_ne_some, ne_eq]

/-- The value is the one that the text of the variable means, or the default where there is no text. -/
structure Gives {α : Type} (env : Environment) (source : Variable) (Means : String → α → Prop)
    (default value : α) : Prop where
  written : ∀ text, env.Sets source text → Means text value
  missing : (∀ text, ¬ env.Sets source text) → value = default

/-- The text of the variable, if it has one, is a number up to the limit. -/
def Counts (env : Environment) (source : Variable) (limit : Nat) : Prop :=
  ∀ text, env.Sets source text → ∃ n ≤ limit, Denotes text n

/-- The text of the variable is no number up to the limit, and this word says why: it is empty, it is no number,
or its number is too large. -/
def Flaws (env : Environment) (source : Variable) (limit : Nat) (word : String) : Prop :=
  ∃ text, env.Sets source text ∧
    (Flawed limit text .empty ∧ word = "Empty" ∨
      Flawed limit text .strayCharacter ∧ word = "InvalidDigit" ∨
      Flawed limit text .tooLarge ∧ word = "PosOverflow")

/-- The text of the status mode, if it has one, is one of two words, in letters of any case and with blanks around
it. -/
def NamesMode (env : Environment) : Prop :=
  ∀ text, env.Sets .statusMode text → Says text "legacy" ∨ Says text "strict"

/-- All that is asked of an environment. The other variables may say anything. -/
structure Valid (env : Environment) : Prop where
  port : env.Counts .port (UInt16.size - 1)
  timeout : env.Counts .timeout (UInt64.size - 1)
  capacity : env.Counts .capacity (UInt64.size - 1)
  statusMode : env.NamesMode

/-- What is said of the first variable that cannot be used. -/
inductive Complains (env : Environment) : String → Prop
  | port {word : String} (hflaw : env.Flaws .port (UInt16.size - 1) word) :
    Complains env ("PORT must be a valid u16: ParseIntError \x7b kind: " ++ word ++ " \x7d")
  | timeout {word : String} (hport : env.Counts .port (UInt16.size - 1))
      (hflaw : env.Flaws .timeout (UInt64.size - 1) word) :
    Complains env
      ("REQUEST_TIMEOUT_SECS must be a valid u64: ParseIntError \x7b kind: " ++ word ++ " \x7d")
  | capacity {word : String} (hport : env.Counts .port (UInt16.size - 1))
      (htimeout : env.Counts .timeout (UInt64.size - 1)) (hflaw : env.Flaws .capacity (UInt64.size - 1) word) :
    Complains env
      ("FILM_STORE_CAPACITY must be a valid usize: ParseIntError \x7b kind: " ++ word ++ " \x7d")
  | statusMode {text : String} (hport : env.Counts .port (UInt16.size - 1))
      (htimeout : env.Counts .timeout (UInt64.size - 1)) (hcapacity : env.Counts .capacity (UInt64.size - 1))
      (htext : env.Sets .statusMode text) (hlegacy : ¬ Says text "legacy") (hstrict : ¬ Says text "strict") :
    Complains env
      ("ERROR_STATUS_MODE: unknown error status mode '" ++ Ascii.lower (Blank.trim text) ++ "'")

theorem flaws_iff {limit : Nat} {word : String} :
    env.Flaws source limit word ↔
      ∃ kind : Decimal.Fault, kind.name = word ∧ ∃ text, env.Sets source text ∧ Flawed limit text kind := by
  constructor
  · rintro ⟨text, hset, ⟨hflawed, rfl⟩ | ⟨hflawed, rfl⟩ | ⟨hflawed, rfl⟩⟩
    · exact ⟨.empty, rfl, text, hset, hflawed⟩
    · exact ⟨.strayCharacter, rfl, text, hset, hflawed⟩
    · exact ⟨.tooLarge, rfl, text, hset, hflawed⟩
  · rintro ⟨kind, rfl, text, hset, hflawed⟩
    refine ⟨text, hset, ?_⟩
    cases kind with
    | empty => exact .inl ⟨hflawed, rfl⟩
    | strayCharacter => exact .inr (.inl ⟨hflawed, rfl⟩)
    | tooLarge => exact .inr (.inr ⟨hflawed, rfl⟩)

variable {α : Type} {Means : String → α → Prop} {default value : α}

theorem gives_missing (h : env.text? source = none) :
    env.Gives source Means default value ↔ value = default := by
  rw [text?_eq_none_iff] at h
  constructor
  · intro hgives
    exact hgives.missing h
  · rintro rfl
    exact ⟨fun text hset => absurd hset (h text), fun _ => rfl⟩

theorem gives_written (h : env.text? source = some text) :
    env.Gives source Means default value ↔ Means text value := by
  constructor
  · intro hgives
    exact hgives.written text (text?_eq_some_iff.mp h)
  · intro hmeans
    constructor
    · intro other hother
      rw [← text?_eq_some_iff, h] at hother
      rwa [← Option.some.inj hother]
    · intro hmissing
      exact absurd (text?_eq_some_iff.mp h) (hmissing text)

end Environment

/-! ## Status modes -/

namespace StatusMode

theorem key_eq_iff {mode : StatusMode} : key text = mode.name ↔ Says text mode.name := by
  have hbare : Blank.Bare mode.name.toList := by cases mode <;> decide
  exact Blank.lower_trim_eq_iff hbare

theorem ofText?_eq_some_iff {mode : StatusMode} : ofText? text = some mode ↔ Says text mode.name := by
  rw [← key_eq_iff]
  unfold ofText?
  cases mode with
  | legacy => simp [name]
  | strict =>
    split
    · rename_i hlegacy
      simp [name, hlegacy]
    · simp [name]

theorem exists_ofText?_iff :
    (∃ mode, ofText? text = some mode) ↔ Says text "legacy" ∨ Says text "strict" := by
  simp only [ofText?_eq_some_iff]
  constructor
  · rintro ⟨mode, hsays⟩
    cases mode with
    | legacy => exact .inl hsays
    | strict => exact .inr hsays
  · rintro (hlegacy | hstrict)
    · exact ⟨.legacy, hlegacy⟩
    · exact ⟨.strict, hstrict⟩

theorem ofText?_eq_none_iff : ofText? text = none ↔ ¬ Says text "legacy" ∧ ¬ Says text "strict" := by
  rw [← not_or, ← exists_ofText?_iff, Option.eq_none_iff_forall_ne_some, not_exists]

end StatusMode

theorem StartFault.message_unknownMode (text : String) :
    (unknownMode text).message =
      "ERROR_STATUS_MODE: unknown error status mode '" ++ Ascii.lower (Blank.trim text) ++ "'" := by
  have hfront : "ERROR_STATUS_MODE: unknown error status mode '" =
      Variable.statusMode.name ++ ": " ++ "unknown error status mode '" := rfl
  rw [hfront]
  unfold message StatusMode.complaint StatusMode.key
  simp only [String.append_assoc]

/-! ## Computations that may fail -/

section Except

variable {ε ε' α β : Type} {first : Except ε α} {next : α → Except ε β} {found : α} {result : β}
  {failure : ε}

theorem mapError_eq_ok {f : ε → ε'} : first.mapError f = .ok found ↔ first = .ok found := by
  cases first <;> simp [Except.mapError]

theorem mapError_eq_error {f : ε → ε'} {told : ε'} :
    first.mapError f = .error told ↔ ∃ failure, told = f failure ∧ first = .error failure := by
  cases first <;> simp [Except.mapError, eq_comm]

theorem bind_eq_ok : first >>= next = .ok result ↔ ∃ found, first = .ok found ∧ next found = .ok result := by
  cases first <;> simp [bind, Except.bind]

theorem bind_eq_error :
    first >>= next = .error failure ↔
      first = .error failure ∨ ∃ found, first = .ok found ∧ next found = .error failure := by
  cases first <;> simp [bind, Except.bind]

end Except

namespace Settings

/-! ## Single variables -/

variable {width : Width} {default n : Nat}

theorem number_missing (h : env.text? source = none) : number env source width default = .ok default := by
  unfold number
  rw [h]

theorem number_written (h : env.text? source = some text) :
    number env source width default =
      (Decimal.read width.limit text).mapError (StartFault.badNumber source width) := by
  unfold number
  rw [h]

theorem gives_of_number (h : number env source width default = .ok n) :
    env.Gives source Denotes default n := by
  cases htext : env.text? source with
  | none =>
    rw [number_missing htext] at h
    exact (Environment.gives_missing htext).mpr (Except.ok.inj h).symm
  | some text =>
    rw [number_written htext, mapError_eq_ok, Decimal.read_eq_ok_iff] at h
    exact (Environment.gives_written htext).mpr h.1

theorem exists_number_iff :
    (∃ n, number env source width default = .ok n) ↔ env.Counts source width.limit := by
  unfold Environment.Counts
  simp only [← Environment.text?_eq_some_iff]
  cases htext : env.text? source with
  | none => exact iff_of_true ⟨default, number_missing htext⟩ nofun
  | some text =>
    simp only [number_written htext, mapError_eq_ok, Decimal.read_eq_ok_iff, Option.some.injEq, forall_eq',
      and_comm]

theorem number_eq_error_iff :
    number env source width default = .error fault ↔
      ∃ kind, fault = .badNumber source width kind ∧
        ∃ text, env.Sets source text ∧ Flawed width.limit text kind := by
  simp only [← Environment.text?_eq_some_iff]
  cases htext : env.text? source with
  | none =>
    rw [number_missing htext]
    simp
  | some text =>
    simp only [number_written htext, mapError_eq_error, Decimal.read_eq_error_iff, Option.some.injEq,
      exists_eq_left']

theorem gives_of_mode {default found : StatusMode} (h : mode env default = .ok found) :
    env.Gives .statusMode (fun text mode => Says text mode.name) default found := by
  unfold mode at h
  cases htext : env.text? .statusMode with
  | none =>
    rw [htext] at h
    exact (Environment.gives_missing htext).mpr (Except.ok.inj h).symm
  | some text =>
    rw [htext] at h
    dsimp only at h
    split at h
    · rename_i named hnamed
      cases h
      exact (Environment.gives_written htext).mpr (StatusMode.ofText?_eq_some_iff.mp hnamed)
    · cases h

theorem exists_mode_iff {default : StatusMode} : (∃ found, mode env default = .ok found) ↔ env.NamesMode := by
  unfold mode Environment.NamesMode
  simp only [← Environment.text?_eq_some_iff, ← StatusMode.exists_ofText?_iff]
  cases env.text? .statusMode with
  | none => exact iff_of_true ⟨default, rfl⟩ nofun
  | some text =>
    cases hfound : StatusMode.ofText? text with
    | none => simp [hfound]
    | some found => simp [hfound]

theorem mode_eq_error_iff {default : StatusMode} :
    mode env default = .error fault ↔
      ∃ text, fault = .unknownMode text ∧ env.Sets .statusMode text ∧ ¬ Says text "legacy" ∧
        ¬ Says text "strict" := by
  unfold mode
  simp only [← Environment.text?_eq_some_iff, ← StatusMode.ofText?_eq_none_iff]
  cases env.text? .statusMode with
  | none => simp
  | some text =>
    cases hfound : StatusMode.ofText? text with
    | none => simp [hfound, eq_comm]
    | some found => simp [hfound]

/-! ## All of them -/

open Environment (flaws_iff)

theorem ofEnvironment_eq_ok_iff :
    ofEnvironment env = .ok settings ↔
      number env .port .port 4711 = .ok settings.port ∧
        number env .timeout .seconds 30 = .ok settings.timeout ∧
        number env .capacity .count 1000 = .ok settings.capacity ∧
        mode env .legacy = .ok settings.statusMode ∧
        settings.host = (env.text? .host).getD "0.0.0.0" ∧
        settings.publicBase = (env.text? .publicBase).bind base? ∧
        settings.origins = ((env.text? .origins).map originList).getD ["http://localhost:5173"] := by
  unfold ofEnvironment
  simp only [bind_eq_ok]
  constructor
  · rintro ⟨port, hport, timeout, htimeout, capacity, hcapacity, statusMode, hmode, hsettings⟩
    cases hsettings
    exact ⟨hport, htimeout, hcapacity, hmode, rfl, rfl, rfl⟩
  · obtain ⟨host, port, publicBase, origins, timeout, capacity, statusMode⟩ := settings
    rintro ⟨hport, htimeout, hcapacity, hmode, rfl, rfl, rfl⟩
    exact ⟨port, hport, timeout, htimeout, capacity, hcapacity, statusMode, hmode, rfl⟩

theorem exists_ofEnvironment_iff : (∃ settings, ofEnvironment env = .ok settings) ↔ env.Valid := by
  constructor
  · rintro ⟨settings, h⟩
    obtain ⟨hport, htimeout, hcapacity, hmode, -⟩ := ofEnvironment_eq_ok_iff.mp h
    exact ⟨exists_number_iff.mp ⟨_, hport⟩, exists_number_iff.mp ⟨_, htimeout⟩,
      exists_number_iff.mp ⟨_, hcapacity⟩, exists_mode_iff.mp ⟨_, hmode⟩⟩
  · intro hvalid
    obtain ⟨port, hport⟩ : ∃ n, number env .port .port 4711 = .ok n :=
      exists_number_iff.mpr hvalid.port
    obtain ⟨timeout, htimeout⟩ : ∃ n, number env .timeout .seconds 30 = .ok n :=
      exists_number_iff.mpr hvalid.timeout
    obtain ⟨capacity, hcapacity⟩ : ∃ n, number env .capacity .count 1000 = .ok n :=
      exists_number_iff.mpr hvalid.capacity
    obtain ⟨statusMode, hmode⟩ := exists_mode_iff.mpr hvalid.statusMode
    exact ⟨⟨_, port, _, _, timeout, capacity, statusMode⟩,
      ofEnvironment_eq_ok_iff.mpr ⟨hport, htimeout, hcapacity, hmode, rfl, rfl, rfl⟩⟩

/-- A fault comes from a variable in front of which all others can be used. -/
theorem ofEnvironment_eq_error_iff :
    ofEnvironment env = .error fault ↔
      number env .port .port 4711 = .error fault ∨
        env.Counts .port (UInt16.size - 1) ∧
          (number env .timeout .seconds 30 = .error fault ∨
            env.Counts .timeout (UInt64.size - 1) ∧
              (number env .capacity .count 1000 = .error fault ∨
                env.Counts .capacity (UInt64.size - 1) ∧ mode env .legacy = .error fault)) := by
  unfold ofEnvironment
  -- What is set up in the end cannot fail, and no fault depends on a number that was found before.
  simp only [bind_eq_error, exists_and_right, exists_number_iff, pure, Except.pure, reduceCtorEq, and_false,
    exists_false, or_false]
  rfl

/-- The settings are made exactly if the four variables can be used, and then hold what they denote. Otherwise the
complaint is about the first of them that cannot be used, and says why. -/
theorem settings_follow_environment (env : Environment) :
    ((∃ settings, ofEnvironment env = .ok settings) ↔ env.Valid) ∧
      (∀ settings, ofEnvironment env = .ok settings →
        env.Gives .port Denotes 4711 settings.port ∧
          env.Gives .timeout Denotes 30 settings.timeout ∧
          env.Gives .capacity Denotes 1000 settings.capacity ∧
          env.Gives .statusMode (fun text mode => Says text mode.name) .legacy settings.statusMode) ∧
      ∀ message, (∃ fault, ofEnvironment env = .error fault ∧ fault.message = message) ↔
        env.Complains message := by
  refine ⟨exists_ofEnvironment_iff, ?_, ?_⟩
  · intro settings h
    obtain ⟨hport, htimeout, hcapacity, hmode, -⟩ := ofEnvironment_eq_ok_iff.mp h
    exact ⟨gives_of_number hport, gives_of_number htimeout, gives_of_number hcapacity, gives_of_mode hmode⟩
  · intro message
    simp only [ofEnvironment_eq_error_iff, number_eq_error_iff, mode_eq_error_iff]
    constructor
    · rintro ⟨fault, hfault, rfl⟩
      rcases hfault with ⟨kind, rfl, hflaw⟩ | ⟨hport, ⟨kind, rfl, hflaw⟩ | ⟨htimeout, hlater⟩⟩
      · exact .port (flaws_iff.mpr ⟨kind, rfl, hflaw⟩)
      · exact .timeout hport (flaws_iff.mpr ⟨kind, rfl, hflaw⟩)
      · rcases hlater with ⟨kind, rfl, hflaw⟩ | ⟨hcapacity, text, rfl, htext, hlegacy, hstrict⟩
        · exact .capacity hport htimeout (flaws_iff.mpr ⟨kind, rfl, hflaw⟩)
        · rw [StartFault.message_unknownMode]
          exact .statusMode hport htimeout hcapacity htext hlegacy hstrict
    · intro hcomplains
      cases hcomplains with
      | port hflaw =>
        obtain ⟨kind, rfl, hkind⟩ := flaws_iff.mp hflaw
        exact ⟨_, .inl ⟨kind, rfl, hkind⟩, rfl⟩
      | timeout hport hflaw =>
        obtain ⟨kind, rfl, hkind⟩ := flaws_iff.mp hflaw
        exact ⟨_, .inr ⟨hport, .inl ⟨kind, rfl, hkind⟩⟩, rfl⟩
      | capacity hport htimeout hflaw =>
        obtain ⟨kind, rfl, hkind⟩ := flaws_iff.mp hflaw
        exact ⟨_, .inr ⟨hport, .inr ⟨htimeout, .inl ⟨kind, rfl, hkind⟩⟩⟩, rfl⟩
      | statusMode hport htimeout hcapacity htext hlegacy hstrict =>
        exact ⟨_, .inr ⟨hport, .inr ⟨htimeout, .inr ⟨hcapacity, _, rfl, htext, hlegacy, hstrict⟩⟩⟩,
          StartFault.message_unknownMode _⟩

end Settings

theorem Service.start_eq_ok_iff :
    start env = .ok settings ↔
      Settings.ofEnvironment env = .ok settings ∧ checkOrigins settings.origins = .ok () := by
  unfold start
  simp only [bind_eq_ok, pure, Except.pure, Except.ok.injEq]
  constructor
  · rintro ⟨found, hfound, _, hchecked, rfl⟩
    exact ⟨hfound, hchecked⟩
  · rintro ⟨hfound, hchecked⟩
    exact ⟨settings, hfound, (), hchecked, rfl⟩

end FilmCatalog
