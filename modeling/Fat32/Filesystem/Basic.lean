import Fat32.Directory.Listing
import Fat32.Handle.Table
import Fat32.Partition
import Fat32.Path.Basic

/-!
Mounted volumes and the table of open files under them. The table outlives every
mount: files stay open when a volume is abandoned or a mount fails, and are
closed when a volume is unmounted or the next one is mounted.
-/

namespace Fat32

structure Filesystem where
  volume : Volume
  current : Location
  files : HandleTable
  deriving DecidableEq

/-- Work over the table of open files, which stays as the work left it, also when it fails. -/
abbrev Mounting (ι : Type) := ExceptT Error (StateT HandleTable (Scan ι))

namespace Mounting

variable {ι α : Type}

/-- An attempt that has nothing to do with the table. -/
def ofAttempt (attempt : Attempt ι α) : Mounting ι α := ExceptT.mk (StateT.lift attempt.run)

/-- The outcome on a table, and the table behind it. -/
def upon (mounting : Mounting ι α) (files : HandleTable) : Scan ι (Except Error α × HandleTable) :=
  mounting.run.run files

end Mounting

namespace Filesystem

variable {ι : Type}

/-- Mount the volume that starts at a sector. The files of an earlier mount are
closed, but only once nothing can fail any more. -/
def mount (start : UInt32) (mountPoint : String) : Mounting ι Filesystem := do
  .ofAttempt (.ofExcept (Path.checkMountPoint mountPoint))
  let volume ← .ofAttempt (Volume.read start)
  let current ← .ofAttempt (.ofExcept (Location.root volume.rootCluster mountPoint))
  .ofAttempt (.note (.mounted start volume.clusterCount volume.bytesPerCluster
    volume.header.fatCount volume.header.sectorsPerFat volume.rootCluster))
  modify HandleTable.closeAll
  return { volume, current, files := ← get }

/-- Mount the first FAT32 partition of the device. -/
def mountPartition (mountPoint : String) : Mounting ι Filesystem := do
  mount (← .ofAttempt PartitionTable.locate) mountPoint

variable (fs : Filesystem)

def mountPoint : String := fs.current.mountPoint

def directory (cluster : UInt32) : Attempt Entry Unit := Directory.entries fs.volume cluster

def list : Attempt Entry Unit := fs.directory fs.current.cluster

end Filesystem

/-- The use of one table, for one volume after the other. -/
inductive Session where
  | unmounted (files : HandleTable)
  | mounted (fs : Filesystem)
  deriving DecidableEq

namespace Session

variable {ι : Type}

def start : Session := .unmounted .empty

def files : Session → HandleTable
  | .unmounted files => files
  | .mounted fs => fs.files

/-- Go over to the volume that is mounted over the table. If that fails, no volume is mounted. -/
def enter (session : Session) (mounting : Mounting ι Filesystem) :
    Scan ι (Session × Except Error Unit) := do
  match ← mounting.upon session.files with
  | (.ok fs, _) => return (.mounted fs, .ok ())
  | (.error error, files) => return (.unmounted files, .error error)

def mount (session : Session) (start : UInt32) (mountPoint : String) :
    Scan ι (Session × Except Error Unit) :=
  session.enter (Filesystem.mount start mountPoint)

def mountPartition (session : Session) (mountPoint : String) :
    Scan ι (Session × Except Error Unit) :=
  session.enter (Filesystem.mountPartition mountPoint)

def unmount (session : Session) : Session := .unmounted session.files.closeAll

/-- Leave a volume without closing its files. -/
def abandon (session : Session) : Session := .unmounted session.files

end Session

end Fat32
