import Fat32.Filesystem.Basic
import Fat32.Proofs.Handle.Table
import Fat32.Proofs.Path.Text
import Fat32.Proofs.Scan.Answers
import Fat32.Proofs.Scan.Views
import Fat32.Proofs.Volume.Geometry

/-!
Mounts and the table of open files. All that can fail in a mount is an attempt
that leaves the table alone (`MountRequest.survey`), and the files are closed
behind it (`MountRequest.settles`).
-/

namespace Fat32

/-- A mount of the volume at a sector, or of the first FAT32 partition. -/
inductive MountRequest where
  | volume (start : UInt32) (mountPoint : String)
  | partition (mountPoint : String)
  deriving DecidableEq, Repr

namespace Mounting

variable {ι α : Type}

/-- The outcome of a mount over a table of open files, once its attempt has ended. -/
def settle (files : HandleTable) :
    Except Error (Volume × Location) → Except Error Filesystem × HandleTable
  | .ok (volume, current) => (.ok ⟨volume, current, files.closeAll⟩, files.closeAll)
  | .error error => (.error error, files)

/-- A mount that makes an attempt, and closes the files if it succeeds. -/
def Settles (mounting : Mounting ι Filesystem) (attempt : Attempt ι (Volume × Location)) : Prop :=
  ∀ files, mounting.upon files = attempt.run.bind fun found => .done (settle files found)

theorem Settles.bind {attempt : Attempt ι α} {next : α → Mounting ι Filesystem}
    {rest : α → Attempt ι (Volume × Location)} (settles : ∀ value, Settles (next value) (rest value)) :
    Settles (ofAttempt attempt >>= next) (attempt >>= rest) := by
  intro files
  have lifted : (ofAttempt attempt >>= next).upon files =
      (attempt.run.bind fun result => .done (result, files)).bind fun outcome =>
        (ExceptT.bindCont next outcome.1).run outcome.2 := rfl
  rw [lifted, ExceptT.run_bind, Scan.bind_eq, Scan.bind_bind, Scan.bind_bind]
  congr
  funext result
  cases result with
  | error error => rfl
  | ok value => exact settles value files

end Mounting

namespace MountRequest

variable {ι : Type}

def mounting : MountRequest → Mounting ι Filesystem
  | volume start mountPoint => Filesystem.mount start mountPoint
  | partition mountPoint => Filesystem.mountPartition mountPoint

def run (session : Session) : MountRequest → Scan ι (Session × Except Error Unit)
  | volume start mountPoint => session.mount start mountPoint
  | partition mountPoint => session.mountPartition mountPoint

/-- What a mount finds out: the volume at a sector and the position of its root directory. -/
def surveyFrom (start : UInt32) (mountPoint : String) : Attempt ι (Volume × Location) := do
  Attempt.ofExcept (Path.checkMountPoint mountPoint)
  let volume ← Volume.read start
  let current ← Attempt.ofExcept (Location.root volume.rootCluster mountPoint)
  Attempt.note (.mounted start volume.clusterCount volume.bytesPerCluster volume.header.fatCount
    volume.header.sectorsPerFat volume.rootCluster)
  return (volume, current)

def survey : MountRequest → Attempt ι (Volume × Location)
  | volume start mountPoint => surveyFrom start mountPoint
  | partition mountPoint => do surveyFrom (← PartitionTable.locate) mountPoint

theorem settles_mount (start : UInt32) (mountPoint : String) :
    Mounting.Settles (Filesystem.mount start mountPoint : Mounting ι _)
      (surveyFrom start mountPoint) :=
  .bind fun _ => .bind fun _ => .bind fun _ => .bind fun _ => fun _ => rfl

theorem settles (request : MountRequest) :
    Mounting.Settles (request.mounting : Mounting ι _) request.survey := by
  cases request with
  | volume start mountPoint => exact settles_mount start mountPoint
  | partition mountPoint => exact .bind fun start => settles_mount start mountPoint

theorem run_eq (request : MountRequest) (session : Session) :
    (request.run session : Scan ι _) = session.enter request.mounting := by
  cases request <;> rfl

end MountRequest

section Result

variable {ι : Type} {medium : Medium} {start : UInt32} {sector : Sector} {volume : Volume}
  {mountPoint : String} {current : Location} (read : medium start = .ok sector)
  (laidOut : Volume.ofHeader start (.ofSector sector) = .ok volume)
  (accepted : Path.checkMountPoint mountPoint = .ok ())
  (root : Location.root volume.rootCluster mountPoint = .ok current)

include read laidOut accepted root

theorem MountRequest.result_surveyFrom :
    (surveyFrom start mountPoint : Attempt ι _).run.result medium = .ok (volume, current) := by
  have found : (Volume.read start : Attempt ι _).run.result medium = .ok volume := by
    unfold Volume.read
    rw [Attempt.result_bind, Attempt.result_sector_of_ok medium read]
    dsimp only
    rw [Volume.ofBootSector, laidOut]
    rfl
  unfold surveyFrom
  simp only [Attempt.result_bind, Attempt.result_ofExcept, accepted, found, root]
  rfl

theorem Filesystem.result_mount (files : HandleTable) :
    ((mount start mountPoint).upon files : Scan ι _).result medium =
      (.ok ⟨volume, current, files.closeAll⟩, files.closeAll) := by
  rw [MountRequest.settles_mount, Scan.result_bind,
    MountRequest.result_surveyFrom read laidOut accepted root]
  rfl

end Result

theorem Volume.read_gives {ι : Type} (start : UInt32) :
    (Volume.read start : Attempt ι _).Gives Volume.WellFormed := by
  refine .bind (Attempt.gives_true _) fun sector _ => ?_
  unfold ofBootSector
  split
  · rename_i accepted
    exact .pure (ofHeader_wellFormed accepted)
  · unfold refuse
    split
    · exact .failWith _ _
    · exact .throw _

/-- A volume that was just mounted: in its root directory, with no file open. -/
structure Filesystem.Fresh (mountPoint : String) (fs : Filesystem) : Prop where
  wellFormed : fs.volume.WellFormed
  mountable : Path.IsMountPoint mountPoint
  root : Location.root fs.volume.rootCluster mountPoint = .ok fs.current
  closed : ∀ handle, fs.files.get? handle = none

namespace MountRequest

variable {ι : Type}

def mountPoint : MountRequest → String
  | volume _ mountPoint => mountPoint
  | partition mountPoint => mountPoint

theorem surveyFrom_gives (start : UInt32) (mountPoint : String) :
    (surveyFrom start mountPoint : Attempt ι _).Gives fun found =>
      ∀ files : HandleTable, Filesystem.Fresh mountPoint ⟨found.1, found.2, files.closeAll⟩ := by
  have checked : (Attempt.ofExcept (Path.checkMountPoint mountPoint) : Attempt ι Unit).Gives
      fun _ => Path.IsMountPoint mountPoint :=
    .ofExcept fun _ accepted => Path.isMountPoint_of_check accepted
  refine .bind checked fun _ mountable => .bind (Volume.read_gives start) fun volume wellFormed => ?_
  refine .bind (.ofExcept fun current made => made) fun current made => ?_
  refine .bind (.note _) fun _ _ => .pure fun files => ⟨wellFormed, mountable, made, ?_⟩
  exact HandleTable.get?_closeAll files

theorem survey_gives (request : MountRequest) :
    (request.survey : Attempt ι _).Gives fun found => ∀ files : HandleTable,
      Filesystem.Fresh request.mountPoint ⟨found.1, found.2, files.closeAll⟩ := by
  cases request with
  | volume start mountPoint => exact surveyFrom_gives start mountPoint
  | partition mountPoint =>
    exact .bind (Attempt.gives_true _) fun start _ => surveyFrom_gives start mountPoint

/-- Whatever a device answers, a mount that succeeds gives a volume without open files. -/
theorem upon_gives (request : MountRequest) (files : HandleTable) :
    (request.mounting.upon files : Scan ι _).Ensures (fun _ => True) (fun _ => True)
      fun outcome => ∀ fs, outcome.1 = .ok fs → fs.Fresh request.mountPoint := by
  rw [request.settles files]
  refine Scan.Ensures.bind request.survey_gives fun found known => .done ?_
  cases found with
  | error error => exact fun _ failed => nomatch failed
  | ok found =>
    intro fs made
    cases made
    exact known found rfl files

/-- What a mount makes of a session on a device that may answer anything. -/
theorem finish_run (request : MountRequest) (session : Session) (script : Script) :
    (request.run session : Scan ι _).finish script =
      match (request.survey : Attempt ι _).run.finish script with
      | .ok found => (.mounted ⟨found.1, found.2, session.files.closeAll⟩, .ok ())
      | .error error => (.unmounted session.files, .error error) := by
  rw [run_eq, Session.enter, Scan.bind_eq, Scan.finish_bind, request.settles, Scan.finish_bind]
  cases (request.survey : Attempt ι _).run.finish script <;> rfl

end MountRequest

end Fat32
