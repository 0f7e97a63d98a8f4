import Fat32.Filesystem.Navigation
import Fat32.Handle.Read

/-!
Reading files and directories. A reader hands out bytes in the order in which
it comes by them and finishes with their number, or with an error behind those
that it had come by.
-/

namespace Fat32

namespace Filesystem

variable {ι : Type} (fs : Filesystem)

/-- Hand out the first `wanted` bytes of `count` sectors from `lba` on. The
state is what is still wanted behind them. -/
def copySectors (lba : UInt32) : Nat → Nat → Attempt (List UInt8) (Step Nat Unit)
  | 0, wanted => pure (.more wanted)
  | count + 1, wanted => do
    let sector ← Attempt.sector lba
    Attempt.emit (sector.toList.take wanted)
    if wanted ≤ sectorSize then pure (.enough ())
    else copySectors (lba + 1) count (wanted - sectorSize)

def entryContents (entry : Entry) (limit : Nat) : Attempt (List UInt8) Nat := do
  let wanted := min entry.size.toNat limit
  if wanted = 0 then
    return 0
  let copied ← (fs.volume.chain entry.cluster).visit (fun left cluster =>
    copySectors (fs.volume.clusterStart cluster) fs.volume.sectorsPerCluster.toNat left) wanted
  match copied with
  | .enough () => return wanted
  | .more left =>
    Attempt.failWith (.fileChainEnds entry.name (wanted - left) wanted) .incompleteRead

def fileContents (path : String) (limit : Nat) : Attempt (List UInt8) Nat := do
  fs.entryContents (← fs.lookupFile path) limit

def fileSize (path : String) : Attempt ι UInt32 := do
  return (← fs.lookupFile path).size

def nameLine (entry : Entry) : List UInt8 := (entry.name ++ "\n").toUTF8.data.toList

def measureNames (cluster : UInt32) : Attempt ι Nat := do
  let step ← (fs.directory cluster).visit (ρ := Empty)
    (fun size entry => pure (.more (size + (nameLine entry).length))) 0
  match step with
  | .more size => return size

/-- Hand out the text of a directory, as long as it fits into `limit` bytes. -/
def readNames (cluster : UInt32) (limit : Nat) : Attempt (List UInt8) Nat := do
  let step ← (fs.directory cluster).visit (ρ := Empty) (fun size entry => do
    let line := nameLine entry
    if limit < size + line.length then throw .bufferTooSmall
    Attempt.emit line
    return .more (size + line.length)) 0
  match step with
  | .more size => return size

/-- Hand out the names in the directory at a path or, if there is none, the
contents of the file there. A directory is measured first, so that no part of it
is handed out when the whole does not fit. -/
def pathContents (path : String) (limit : Nat) : Attempt (List UInt8) Nat := ExceptT.mk do
  match ← (fs.resolve path).run with
  | .ok location => ExceptT.run do
    if limit < (← fs.measureNames location.cluster) then throw .bufferTooSmall
    fs.readNames location.cluster limit
  | .error .notFound => (fs.fileContents path limit).run
  | .error error => return .error error

def openFile (path : String) : Attempt ι (Handle × Filesystem) := do
  let entry ← fs.lookupFile path
  let (handle, files) ← Attempt.ofExcept (fs.files.alloc entry.cluster entry.size)
  return (handle, { fs with files })

def closeFile (handle : Handle) : Filesystem := { fs with files := fs.files.close handle }

/-- Hand out the bytes of an open file from `offset` on, at most `limit` of them. -/
def readAt (handle : Handle) (offset limit : Nat) :
    Scan (List UInt8) (Filesystem × Except Error Nat) :=
  match fs.files.get handle with
  | .error error => return (fs, .error error)
  | .ok file => do
    let (file, result) ← file.read fs.volume offset limit
    return ({ fs with files := fs.files.put handle file }, result)

end Filesystem

end Fat32
