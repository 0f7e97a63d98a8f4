import Fat32.Bytes
import Fat32.Text.Basic

/-!
Short names: eight bytes of base and three of extension, each filled up with
spaces. `display` shows a stored name and `ofString?` reads one that was typed.

A query is prepared once and then put to every entry of a directory, so that a
long search does not read the wanted name anew.
-/

namespace Fat32

structure ShortName where
  raw : Bytes 11
  deriving DecidableEq

namespace ShortName

def space : UInt8 := 0x20

def trim (field : List UInt8) : List UInt8 :=
  (field.reverse.dropWhile (· == space)).reverse

def base (name : ShortName) : List UInt8 := trim (name.raw.toList.take 8)

def extension (name : ShortName) : List UInt8 := trim (name.raw.toList.drop 8)

/-- A first byte 0x05 stands for 0xE5, which would mark a deleted record. -/
def unescape : List UInt8 → List UInt8
  | [] => []
  | first :: rest => (if first = 0x05 then 0xE5 else first) :: rest

/-- The characters of `base.extension` in lower case, without the dot when
there is no extension. -/
def shown (name : ShortName) : List Char :=
  let letter (byte : UInt8) : Char := (Text.latin1 byte).toLower
  (unescape name.base).map letter ++
    if name.extension.isEmpty then [] else '.' :: name.extension.map letter

def displayLimit : Nat := 12

/-- The name as it is listed. A character that would not fit any more is left out. -/
def display (name : ShortName) : String :=
  name.shown.foldl (Text.pushWithin displayLimit) ""

def splitExtension (name : List Char) : List Char × List Char :=
  if '.' ∈ name then
    let reversed := name.reverse
    (((reversed.dropWhile (· != '.')).drop 1).reverse, (reversed.takeWhile (· != '.')).reverse)
  else (name, [])

def storable (base extension : List Char) : Bool :=
  !base.isEmpty && base.length ≤ 8 && extension.length ≤ 3 &&
    base.all (fun c => c.toNat < 128 && c != '.' && c != ' ') &&
    extension.all (fun c => c.toNat < 128 && c != ' ')

/-- The short name that is written as `base` or `base.extension`, if there is one. -/
def ofString? (name : String) : Option ShortName :=
  let (base, extension) := splitExtension name.toList
  if storable base extension then
    let field := base.rightpad 8 ' ' ++ extension.rightpad 3 ' '
    some ⟨.ofList 11 (field.map fun c => c.toUpper.toUInt8)⟩
  else none

def isNamed (name : ShortName) (query : String) : Bool := ofString? query == some name

end ShortName

structure Query where
  /-- The wanted name without regard to ASCII case. -/
  folded : String
  /-- The short name that the wanted name spells, if there is one. -/
  short : Option ShortName
  deriving DecidableEq

def Query.ofString (name : String) : Query := ⟨Text.fold name, ShortName.ofString? name⟩

end Fat32
