import FilmCatalog.Text.Letters
import FilmCatalog.Text.Utf8

/-!
# Requests and responses

A request has a method, a target, headers and a body. Header names compare without regard to letter
case, and of several headers with one name the first one counts.
-/

namespace FilmCatalog.Service

/-! ## Header values -/

/-- Whether a header value may hold a byte: a tab, or anything but a control character. -/
def isHeaderByte (b : UInt8) : Bool := b == 0x09 || (0x20 ≤ b && b != 0x7F)

def isHeaderText (text : String) : Bool := (Utf8.encode text).all isHeaderByte

/-- Whether a byte is a tab, a blank or a visible character of ASCII. -/
def isPlainByte (b : UInt8) : Bool := b == 0x09 || (0x20 ≤ b && b < 0x7F)

/-- A header value as a text, when all its bytes are plain. -/
def plainText? (value : Bytes) : Option String :=
  if value.all isPlainByte then some (String.ofList (value.map fun b => Char.ofNat b.toNat)) else none

/-! ## Requests -/

/-- What a request wants to do. Names of methods are told apart by letter case. -/
inductive Method
  | get | head | post | put | delete | options
  | other (name : String)
  deriving DecidableEq, Repr

def Method.ofName (name : String) : Method :=
  if name = "GET" then .get
  else if name = "HEAD" then .head
  else if name = "POST" then .post
  else if name = "PUT" then .put
  else if name = "DELETE" then .delete
  else if name = "OPTIONS" then .options
  else .other name

structure Request where
  method : Method := .get
  target : Bytes
  headers : List (String × Bytes) := []
  body : Bytes := []
  deriving DecidableEq, Repr

def Request.header? (request : Request) (name : String) : Option Bytes :=
  (request.headers.find? fun header => Ascii.sameLetters header.1 name).map (·.2)

/-! ## Responses -/

inductive Status
  | ok | created | badRequest | notFound | wrongMethod | conflict | serverError | noStorage
  deriving DecidableEq, Repr

def Status.code : Status → Nat
  | .ok => 200
  | .created => 201
  | .badRequest => 400
  | .notFound => 404
  | .wrongMethod => 405
  | .conflict => 409
  | .serverError => 500
  | .noStorage => 507

/-- A header value: some bytes, or an identifier made up for one request. -/
inductive HeaderValue
  | bytes (value : Bytes)
  | generated
  deriving DecidableEq, Repr

def HeaderValue.text (value : String) : HeaderValue := .bytes (Utf8.encode value)

structure Response where
  status : Status
  headers : List (String × HeaderValue) := []
  body : String := ""
  deriving DecidableEq, Repr

end FilmCatalog.Service
