import FilmCatalog.Catalog
import FilmCatalog.Decimal.Numeral
import FilmCatalog.Text.Letters
import FilmCatalog.Text.Utf8

/-!
# Settings

The service is set up from seven variables of its environment. Each of them may be missing, and then a
default stands in for it. The first variable that cannot be used stops the start.
-/

namespace FilmCatalog

/-! ## Status modes -/

/-- How the service answers a submission that it turns down. In legacy mode a duplicate or malformed
film is answered like a missing one. -/
inductive StatusMode
  | legacy | strict
  deriving DecidableEq, Repr

namespace StatusMode

def name : StatusMode → String
  | .legacy => "legacy"
  | .strict => "strict"

/-- The text that decides: without blanks at its ends and in small letters. -/
def key (text : String) : String := Ascii.lower (Blank.trim text)

def ofText? (text : String) : Option StatusMode :=
  if key text = "legacy" then some .legacy
  else if key text = "strict" then some .strict
  else none

/-- What is wrong with a text that names no mode. -/
def complaint (text : String) : String := "unknown error status mode '" ++ key text ++ "'"

end StatusMode

/-! ## The environment -/

inductive Variable
  | host | port | publicBase | origins | timeout | capacity | statusMode
  deriving DecidableEq, Repr

def Variable.all : List Variable :=
  [.host, .port, .publicBase, .origins, .timeout, .capacity, .statusMode]

def Variable.name : Variable → String
  | .host => "HOST"
  | .port => "PORT"
  | .publicBase => "PUBLIC_BASE_URL"
  | .origins => "CORS_ORIGINS"
  | .timeout => "REQUEST_TIMEOUT_SECS"
  | .capacity => "FILM_STORE_CAPACITY"
  | .statusMode => "ERROR_STATUS_MODE"

/-- The value of each variable that is set. -/
structure Environment where
  value? : Variable → Option Bytes

/-- The text of a variable. One that is no text counts as missing. -/
def Environment.text? (env : Environment) (source : Variable) : Option String :=
  (env.value? source).bind Utf8.decode?

/-! ## Numbers -/

/-- The widths of the numbers among the variables. -/
inductive Width
  | port | seconds | count
  deriving DecidableEq, Repr

def Width.limit : Width → Nat
  | .port => 0xFFFF
  | .seconds => 0xFFFFFFFFFFFFFFFF
  | .count => 0xFFFFFFFFFFFFFFFF

def Width.name : Width → String
  | .port => "u16"
  | .seconds => "u64"
  | .count => "usize"

/-! ## Start -/

inductive StartFault
  | badNumber (source : Variable) (width : Width) (fault : Decimal.Fault)
  | unknownMode (text : String)
  | badOrigin (origin : String)
  | anyOrigin
  deriving DecidableEq, Repr

def StartFault.message : StartFault → String
  | .badNumber source width fault =>
    source.name ++ " must be a valid " ++ width.name ++ ": ParseIntError \x7b kind: " ++
      fault.name ++ " \x7d"
  | .unknownMode text => Variable.statusMode.name ++ ": " ++ StatusMode.complaint text
  | .badOrigin origin =>
    "Invalid CORS origin '" ++ origin ++ "': failed to parse header value"
  | .anyOrigin =>
    "Wildcard origin (`*`) cannot be passed to `AllowOrigin::list`. " ++
      "Use `AllowOrigin::any()` instead"

structure Settings where
  host : String := "0.0.0.0"
  port : Nat := 4711
  publicBase : Option String := none
  origins : List String := ["http://localhost:5173"]
  timeout : Nat := 30
  capacity : Nat := Catalog.defaultCapacity
  statusMode : StatusMode := .legacy
  deriving DecidableEq, Repr

namespace Settings

/-- The base without blanks at its ends and then without slashes at its end. Nothing left is no
base. -/
def base? (text : String) : Option String :=
  let base := String.ofList ((Blank.trim text).toList.reverse.dropWhile (· == '/')).reverse
  if base = "" then none else some base

/-- The origins in a list with commas, without the blanks around them. Empty parts are no origins. -/
def originList (text : String) : List String :=
  ((text.toList.splitOn ',').map fun part => Blank.trim (String.ofList part)).filter (· != "")

def number (env : Environment) (source : Variable) (width : Width) (default : Nat) :
    Except StartFault Nat :=
  match env.text? source with
  | none => .ok default
  | some text => (Decimal.read width.limit text).mapError (.badNumber source width)

def mode (env : Environment) (default : StatusMode) : Except StartFault StatusMode :=
  match env.text? .statusMode with
  | none => .ok default
  | some text =>
    match StatusMode.ofText? text with
    | some mode => .ok mode
    | none => .error (.unknownMode text)

def ofEnvironment (env : Environment) : Except StartFault Settings := do
  let defaults : Settings := {}
  let port ← number env .port .port defaults.port
  let timeout ← number env .timeout .seconds defaults.timeout
  let capacity ← number env .capacity .count defaults.capacity
  let statusMode ← mode env defaults.statusMode
  return {
    host := (env.text? .host).getD defaults.host
    port
    publicBase := (env.text? .publicBase).bind base?
    origins := ((env.text? .origins).map originList).getD defaults.origins
    timeout
    capacity
    statusMode
  }

end Settings

end FilmCatalog
