import Fat32.Error

/-!
Paths as they are typed. A path is absolute when it starts with a slash or with
the mount point, the path under which the root directory is presented. The rest
of it is a sequence of moves from directory to directory.

A position in the directory tree: the first cluster of a directory and the
names on the way to it from the root.
-/

namespace Fat32.Path

def maxBytes : Nat := 256

def defaultMountPoint : String := "/home"

def endsInSlash (text : String) : Bool := text.toList.getLast? == some '/'

/-- A mount point is an absolute path without a slash at its end, or just the slash. -/
def checkMountPoint (mountPoint : String) : Except Error Unit :=
  if maxBytes < mountPoint.utf8ByteSize then .error .nameTooLong
  else if mountPoint.toList.head? != some '/' then .error .invalidPath
  else if 1 < mountPoint.length && endsInSlash mountPoint then .error .invalidPath
  else .ok ()

/-- What follows the mount point at the start of a path. The end of the mount
point must be the end of a component there. -/
def afterMountPoint? (path mountPoint : String) : Option (List Char) :=
  (mountPoint.toList.isPrefixOf? path.toList).filter fun rest =>
    rest.isEmpty || rest.head? == some '/' || endsInSlash mountPoint

/-- Whether a path is absolute, and what is left to walk. -/
def splitRoot (path mountPoint : String) : Bool × String :=
  match afterMountPoint? path mountPoint, path.toList with
  | some rest, _ => (true, .ofList rest)
  | none, '/' :: rest => (true, .ofList rest)
  | none, _ => (false, path)

def pieces : List Char → List (List Char)
  | [] => [[]]
  | c :: rest =>
    if c = '/' then [] :: pieces rest
    else
      match pieces rest with
      | [] => [[c]]
      | first :: others => (c :: first) :: others

inductive Move where
  | stay
  | up
  | down (name : String)
  deriving DecidableEq, Repr

def Move.ofPiece (piece : List Char) : Move :=
  if piece = [] || piece = ['.'] then .stay
  else if piece = ['.', '.'] then .up
  else .down (.ofList piece)

/-- The moves that a relative path asks for. -/
def moves (path : String) : List Move := (pieces path.toList).map Move.ofPiece

/-- The part of a path up to its last slash, and the name behind it. -/
def splitLast (path : String) : String × String :=
  let reversed := path.toList.reverse
  (.ofList (reversed.dropWhile (· != '/')).reverse, .ofList (reversed.takeWhile (· != '/')).reverse)

/-- Whether a name can stand for an entry, which the empty name and the dots cannot. -/
def isEntryName (name : String) : Bool := !(name == "" || name == "." || name == "..")

end Fat32.Path

namespace Fat32

structure Location where
  cluster : UInt32
  /-- The path under which the root directory is presented. -/
  mountPoint : String
  components : List String
  deriving DecidableEq, Repr

namespace Location

/-- What stands in front of the first name in a path: the mount point with one
slash at its end. -/
def stem (location : Location) : String :=
  if Path.endsInSlash location.mountPoint then location.mountPoint else location.mountPoint ++ "/"

def path (location : Location) : String :=
  match location.components with
  | [] => location.mountPoint
  | components => location.stem ++ "/".intercalate components

def root (cluster : UInt32) (mountPoint : String) : Except Error Location :=
  if Path.maxBytes < mountPoint.utf8ByteSize then .error .nameTooLong
  else .ok ⟨cluster, mountPoint, []⟩

def descend (location : Location) (cluster : UInt32) (name : String) : Except Error Location :=
  let below := { location with cluster, components := location.components ++ [name] }
  if Path.maxBytes < below.path.utf8ByteSize then .error .nameTooLong else .ok below

/-- Go up to the directory above, or stay at the mount point. -/
def ascend (location : Location) (cluster : UInt32) : Location :=
  { location with cluster, components := location.components.dropLast }

end Location

end Fat32
