import FilmCatalog.Decimal.Numeral

/-!
# Film numbers and addresses

A film is named by a 64-bit number. In an address it has one spelling only, its decimal digits, so a
text names at most one film and a film has at most one name. The collection and each film in it have
an address, and all addresses begin with the same base, which may be empty.
-/

namespace FilmCatalog

/-- The number under which a film is stored. -/
structure FilmId where
  number : UInt64
  deriving DecidableEq, Hashable, Repr

namespace FilmId

def text (id : FilmId) : String := Decimal.text id.number.toNat

def largest : Nat := 0xFFFFFFFFFFFFFFFF

/-- The film number that a text spells. Signs, leading zeros and numbers of 2^64 and more spell
none. -/
def ofText? (text : String) : Option FilmId :=
  if Decimal.isCanonical text then
    match Decimal.read largest text with
    | .ok n => some ⟨UInt64.ofNat n⟩
    | .error _ => none
  else none

end FilmId

/-- What all addresses begin with. -/
structure Address where
  base : String
  deriving DecidableEq, Repr

namespace Address

def collectionPath : String := "/films"

def collection (address : Address) : String := address.base ++ collectionPath

def item (address : Address) (id : FilmId) : String :=
  address.base ++ collectionPath ++ "/" ++ id.text

end Address

end FilmCatalog
