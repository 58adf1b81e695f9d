import FilmCatalog.Reading.Film
import FilmCatalog.Text.Form
import FilmCatalog.Text.Letters

/-!
# Submissions

A film is submitted as it is written, inside a form, or behind the mark `data=`. The content type
says which, and only where there is none the body is looked at.
-/

namespace FilmCatalog

/-- How a submitted body carries its film. -/
inductive Encoding
  /-- The body is the film. -/
  | plain
  /-- The body is a form, and the value of its first `data` is the film. -/
  | form
  /-- The film stands behind `data=`, and nothing in it is escaped. -/
  | marked
  deriving DecidableEq, Repr

namespace Encoding

def fieldName : String := "data"

def mark : Bytes := Utf8.encode "data="

/-- Whether a content type names a form. Parameters, letter case and blanks around the name do not
matter. -/
def namesForm (contentType : String) : Bool :=
  let name := String.ofList (contentType.toList.takeWhile (· != ';'))
  Ascii.sameLetters (Blank.trim name) "application/x-www-form-urlencoded"

/-- The encoding of a body with a given content type. -/
def detect (contentType : Option String) (body : Bytes) : Encoding :=
  match contentType with
  | some contentType => if namesForm contentType then .form else .plain
  | none => if mark.isPrefixOf body then .marked else .plain

end Encoding

namespace Submission

inductive Fault
  | unreadable (problem : Reading.Problem)
  | noField
  | noMark
  | tooLong

def Fault.message : Fault → String
  | .unreadable problem => problem.message
  | .noField => "missing form field `data`"
  | .noMark => "missing `data=` prefix"
  | .tooLong => "Failed to buffer the request body: length limit exceeded"

def readPlain (bytes : Bytes) : Except Fault Film :=
  (Reading.film bytes).mapError .unreadable

/-- The film in the first `data` of a form. Later ones do not count, even if the first is bad. -/
def readForm (form : Bytes) : Except Fault Film :=
  match Form.rawValues Encoding.fieldName form with
  | [] => .error .noField
  | value :: _ => readPlain (Utf8.encode (Form.text value))

/-- The film behind the mark. -/
def readMarked (body : Bytes) : Except Fault Film :=
  if Encoding.mark.isPrefixOf body then readPlain (body.drop Encoding.mark.length)
  else .error .noMark

def read : Encoding → Bytes → Except Fault Film
  | .plain => readPlain
  | .form => readForm
  | .marked => readMarked

/-- The most bytes that a submitted body may have. -/
def sizeLimit : Nat := 2 * 1024 * 1024

def receive (contentType : Option String) (body : Bytes) : Except Fault Film :=
  if body.length ≤ sizeLimit then read (Encoding.detect contentType body) body
  else .error .tooLong

end Submission

end FilmCatalog
