import Fat32.Filesystem.Basic

/-!
Finding directories and entries by path. A walk follows the moves of a path
from a copy of the current position, so a walk that fails moves nothing.
-/

namespace Fat32.Filesystem

variable {ι : Type} (fs : Filesystem)

def find? (cluster : UInt32) (test : Entry → Bool) : Attempt ι (Option Entry) :=
  (fs.directory cluster).find? test

/-- The cluster that a record names. Number 0 stands for the root directory. -/
def target (entry : Entry) : UInt32 :=
  if entry.cluster = 0 then fs.volume.rootCluster else entry.cluster

/-- Go to the directory above. There is none above the root directory. -/
def ascend (location : Location) : Attempt ι Location := do
  if location.cluster = fs.volume.rootCluster then
    return location
  let some parent ← fs.find? location.cluster Entry.isParent | throw .notFound
  let above := location.ascend (fs.target parent)
  Attempt.note (.ascended above.path above.cluster)
  return above

/-- Go down to the first directory of that name. -/
def descend (location : Location) (name : String) : Attempt ι Location := do
  let query := Query.ofString name
  let found ← fs.find? location.cluster fun entry => entry.isDirectory && entry.answers query
  match found with
  | some entry => Attempt.ofExcept (location.descend (fs.target entry) name)
  | none => Attempt.failWith (.directoryMissing name location.path) .notFound

def step (location : Location) : Path.Move → Attempt ι Location
  | .stay => pure location
  | .up => fs.ascend location
  | .down name => fs.descend location name

def walk (location : Location) : List Path.Move → Attempt ι Location
  | [] => pure location
  | move :: rest => do walk (← fs.step location move) rest

def rootLocation : Except Error Location := Location.root fs.volume.rootCluster fs.mountPoint

def resolve (path : String) : Attempt ι Location := do
  let (absolute, rest) := Path.splitRoot path fs.mountPoint
  let origin ← if absolute then Attempt.ofExcept fs.rootLocation else pure fs.current
  fs.walk origin (Path.moves rest)

/-- Change the current directory. It stays as it was when the path leads nowhere. -/
def changeDirectory (path : String) : Attempt ι Filesystem := do
  let location ← fs.resolve path
  Attempt.note (.changedDirectory path location.path location.cluster)
  return { fs with current := location }

/-- The first entry of any kind at a path. -/
def lookup (path : String) : Attempt ι Entry := do
  let (directory, name) := Path.splitLast path
  unless Path.isEntryName name do throw .notAFile
  let location ← fs.resolve directory
  let query := Query.ofString name
  match ← fs.find? location.cluster fun entry => entry.answers query with
  | some entry => return entry
  | none => throw .notFound

def lookupFile (path : String) : Attempt ι Entry := do
  let entry ← fs.lookup path
  if entry.isDirectory then throw .notAFile
  return entry

end Fat32.Filesystem
