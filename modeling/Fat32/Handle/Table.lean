import Fat32.Volume.Chain

/-!
Open files and the table that keeps them. An open file remembers the cluster
that was visited last and the contents of one cluster, so that reading on does
not start over from the head of the chain.

A handle is the number of a slot; a new file takes the lowest free slot. Closing
a file frees its slot and no more: what the file left there stays until the slot
is taken again.
-/

namespace Fat32

/-- The cluster at a place of a chain, counted from 0. -/
structure Position where
  index : Nat
  cluster : UInt32
  deriving DecidableEq, Repr

structure CachedCluster where
  cluster : UInt32
  bytes : List UInt8
  deriving DecidableEq

structure OpenFile where
  startCluster : UInt32
  size : UInt32
  position : Position
  cache : Option CachedCluster
  deriving DecidableEq

namespace OpenFile

/-- Go back to the first cluster and forget the cache. -/
def rewind (file : OpenFile) : OpenFile :=
  { file with position := ⟨0, file.startCluster⟩, cache := none }

/-- A file at its first cluster, with nothing in its cache. -/
def atStart (startCluster size : UInt32) : OpenFile :=
  { startCluster, size, position := ⟨0, startCluster⟩, cache := none }

/-- Everything about the file except the bytes in its cache, on one line. -/
def summary (file : OpenFile) : String :=
  let cached := match file.cache with
    | some cache => s!"Some({cache.cluster})"
    | none => "None"
  s!"OpenFile \x7b in_use: true, start_cluster: {file.startCluster}, size: {file.size}, " ++
    s!"position: Position \x7b index: {file.position.index}, " ++
    s!"cluster: {file.position.cluster} \x7d, cached_cluster: {cached} \x7d"

end OpenFile

def maxOpenFiles : Nat := 8

abbrev Handle := Nat

/-- A place for a file. Nobody reads the file of a slot that is not in use. -/
structure Slot where
  inUse : Bool
  file : OpenFile
  deriving DecidableEq

namespace Slot

def empty : Slot := ⟨false, .atStart 0 0⟩

def opened? (slot : Slot) : Option OpenFile := if slot.inUse then some slot.file else none

/-- Take the slot for a file. -/
def occupy (slot : Slot) (startCluster size : UInt32) : Slot where
  inUse := true
  file := { slot.file with startCluster, size }.rewind

/-- Give up the file, but leave its data behind. -/
def free (slot : Slot) : Slot := { slot with inUse := false }

end Slot

structure HandleTable where
  slots : Vector Slot maxOpenFiles
  deriving DecidableEq

namespace HandleTable

def empty : HandleTable := ⟨.replicate maxOpenFiles .empty⟩

def get? (table : HandleTable) (handle : Handle) : Option OpenFile :=
  table.slots[handle]?.bind Slot.opened?

def get (table : HandleTable) (handle : Handle) : Except Error OpenFile :=
  match table.get? handle with
  | some file => .ok file
  | none => .error .badHandle

def modify (table : HandleTable) (handle : Handle) (change : Slot → Slot) : HandleTable :=
  match table.slots[handle]? with
  | some slot => ⟨table.slots.setIfInBounds handle (change slot)⟩
  | none => table

/-- Leave a file in the slot that it is in. -/
def put (table : HandleTable) (handle : Handle) (file : OpenFile) : HandleTable :=
  table.modify handle fun _ => ⟨true, file⟩

def free? (table : HandleTable) : Option Handle :=
  (List.range maxOpenFiles).find? fun handle => (table.get? handle).isNone

/-- Open a file in the lowest free slot. -/
def alloc (table : HandleTable) (startCluster size : UInt32) :
    Except Error (Handle × HandleTable) :=
  match table.free? with
  | some handle => .ok (handle, table.modify handle (·.occupy startCluster size))
  | none => .error .tooManyOpenFiles

def close (table : HandleTable) (handle : Handle) : HandleTable := table.modify handle Slot.free

def closeAll (table : HandleTable) : HandleTable := ⟨.ofFn fun place => table.slots[place].free⟩

def count (table : HandleTable) : Nat := table.slots.toList.countP Slot.inUse

def summary (table : HandleTable) : String :=
  s!"FileDescriptorTable \x7b open_fds: {table.count}, capacity: {maxOpenFiles} \x7d"

end HandleTable

end Fat32
