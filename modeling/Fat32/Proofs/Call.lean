import Fat32.Filesystem.Content
import Fat32.Filesystem.Usage
import Fat32.Proofs.Scan.Answers
import Fat32.Scan.Basic

/-!
The calls on a mounted volume as data, so that a run of the reader is a list of
calls. A call takes one state to the next and succeeds or fails. What it hands
out on the way is left out here.
-/

namespace Fat32

inductive Call where
  /-- Listings and chains may be stopped after a number of items. -/
  | list (limit : Option Nat)
  | directory (cluster : UInt32) (limit : Option Nat)
  | chain (start : UInt32) (limit : Option Nat)
  | changeDirectory (path : String)
  | resolve (path : String)
  | lookup (path : String)
  | fileSize (path : String)
  | fileContents (path : String) (limit : Nat)
  | pathContents (path : String) (limit : Nat)
  | openFile (path : String)
  | closeFile (handle : Handle)
  | readAt (handle : Handle) (offset limit : Nat)
  | usage
  | successor (cluster : UInt32)
  | tableEntry (cluster : UInt32)
  deriving DecidableEq, Repr

namespace Filesystem

variable {ι κ α : Type} (fs : Filesystem)

/-- An attempt that leaves the state as it is, up to its end. -/
def watch (attempt : Attempt ι α) : Scan κ (Filesystem × Except Error Unit) := do
  let (_, result) ← attempt.run.toList
  return (fs, result.map fun _ => ())

/-- An attempt that leaves the state as it is, until it has handed out enough. -/
def browse (attempt : Attempt ι Unit) : Option Nat → Scan κ (Filesystem × Except Error Unit)
  | none => fs.watch attempt
  | some limit => do
    let (_, result) ← attempt.run.take limit
    return (fs, result.getD (.ok ()))

/-- Go over to the state that an attempt gives. It stays as it was when the attempt fails. -/
def advance (attempt : Attempt κ α) (next : α → Filesystem) :
    Scan κ (Filesystem × Except Error Unit) := do
  match ← attempt.run with
  | .ok value => return (next value, .ok ())
  | .error error => return (fs, .error error)

/-- A read from an open file into a buffer: the buffer, the state and the answer behind it. -/
def readInto (handle : Handle) (offset : Nat) (buffer : List UInt8) :
    Scan κ (List UInt8 × Filesystem × Except Error Nat) :=
  Scan.fill buffer (fs.readAt handle offset buffer.length)

structure Stands (volume : Volume) (location : Location) (fs : Filesystem) : Prop where
  volume_eq : fs.volume = volume
  current_eq : fs.current = location

section Ensures

variable {fs} {asks : UInt32 → Prop} {emits : κ → Prop} {keeps : Filesystem → Prop}

theorem watch_ensures {attempt : Attempt ι α} (kept : keeps fs) (asking : attempt.Asks asks) :
    (fs.watch attempt : Scan κ _).Ensures asks emits fun outcome => keeps outcome.1 :=
  Scan.Ensures.bind asking.toList fun _ _ => .done kept

theorem browse_ensures {attempt : Attempt ι Unit} (kept : keeps fs) (asking : attempt.Asks asks)
    (limit : Option Nat) :
    (fs.browse attempt limit : Scan κ _).Ensures asks emits fun outcome => keeps outcome.1 := by
  cases limit with
  | none => exact watch_ensures kept asking
  | some limit => exact Scan.Ensures.bind (asking.take limit) fun _ _ => .done kept

theorem advance_ensures (keeps : Filesystem → Prop) {attempt : Attempt κ α}
    {next : α → Filesystem} (kept : keeps fs)
    (ensures : attempt.Ensures asks emits fun value => keeps (next value)) :
    (fs.advance attempt next : Scan κ _).Ensures asks emits fun outcome => keeps outcome.1 := by
  refine Scan.Ensures.bind ensures ?_
  intro result known
  cases result with
  | error error => exact .done kept
  | ok value => exact .done (known value rfl)

end Ensures

end Filesystem

namespace Call

variable {κ : Type}

def run (fs : Filesystem) : Call → Scan κ (Filesystem × Except Error Unit)
  | .list limit => fs.browse fs.list limit
  | .directory cluster limit => fs.browse (fs.directory cluster) limit
  | .chain start limit => fs.browse (fs.volume.chain start) limit
  | .changeDirectory path => fs.advance (fs.changeDirectory path) id
  | .resolve path => fs.watch (fs.resolve path : Attempt Empty Location)
  | .lookup path => fs.watch (fs.lookup path : Attempt Empty Entry)
  | .fileSize path => fs.watch (fs.fileSize path : Attempt Empty UInt32)
  | .fileContents path limit => fs.watch (fs.fileContents path limit)
  | .pathContents path limit => fs.watch (fs.pathContents path limit)
  | .openFile path => fs.advance (fs.openFile path) Prod.snd
  | .closeFile handle => return (fs.closeFile handle, .ok ())
  | .readAt handle offset limit => do
    let (_, fs, result) ← (fs.readAt handle offset limit).toList
    return (fs, result.map fun _ => ())
  | .usage => fs.watch (fs.volume.usage : Attempt Empty Usage)
  | .successor cluster => fs.watch (fs.volume.successor cluster : Attempt Empty (Option UInt32))
  | .tableEntry cluster => fs.watch (fs.volume.tableEntry cluster : Attempt Empty UInt32)

def runAll : List Call → Filesystem → Scan κ Filesystem
  | [], fs => return fs
  | call :: rest, fs => do
    let (fs, _) ← call.run fs
    runAll rest fs

/-- Four calls change the state. Whatever a call is answered, it keeps what these four keep. -/
theorem run_keeps {fs : Filesystem} {keeps : Filesystem → Prop} {call : Call} (kept : keeps fs)
    (moves : ∀ path, call = .changeDirectory path →
      ∀ location, keeps { fs with current := location })
    (opens : ∀ path, call = .openFile path → ∀ files, keeps { fs with files })
    (closes : ∀ handle, call = .closeFile handle → keeps (fs.closeFile handle))
    (reads : ∀ handle file, fs.files.get handle = .ok file →
      ∀ next, keeps { fs with files := fs.files.put handle next }) :
    (call.run fs : Scan κ _).Ensures (fun _ => True) (fun _ => True)
      fun outcome => keeps outcome.1 := by
  cases call with
  | list limit => exact Filesystem.browse_ensures kept (Attempt.gives_true _).toAsks limit
  | directory cluster limit =>
    exact Filesystem.browse_ensures kept (Attempt.gives_true _).toAsks limit
  | chain start limit => exact Filesystem.browse_ensures kept (Attempt.gives_true _).toAsks limit
  | changeDirectory path =>
    refine Filesystem.advance_ensures _ kept ?_
    refine .bind (Attempt.gives_true _) fun location _ => .bind (.note _) fun _ _ => ?_
    exact .pure (moves path rfl location)
  | openFile path =>
    refine Filesystem.advance_ensures _ kept ?_
    refine .bind (Attempt.gives_true _) fun _ _ => .bind (Attempt.gives_true _) fun slot _ => ?_
    exact .pure (opens path rfl slot.2)
  | closeFile handle => exact .done (closes handle rfl)
  | readAt handle offset limit =>
    have reading : (fs.readAt handle offset limit).Ensures (fun _ => True) (fun _ => True)
        fun outcome => keeps outcome.1 := by
      unfold Filesystem.readAt
      cases found : fs.files.get handle with
      | error error => exact .done kept
      | ok file =>
        exact Scan.Ensures.bind (Scan.ensures_true _) fun outcome _ =>
          .done (reads handle file found outcome.1)
    exact Scan.Ensures.bind reading.toList fun _ still => .done still
  | _ => exact Filesystem.watch_ensures kept (Attempt.gives_true _).toAsks

theorem run_stays {fs : Filesystem} {volume : Volume} {location : Location}
    (stands : fs.Stands volume location) {call : Call}
    (elsewhere : ∀ path, call ≠ .changeDirectory path) :
    (call.run fs : Scan κ _).Ensures (fun _ => True) (fun _ => True)
      fun outcome => outcome.1.Stands volume location := by
  have files (files : HandleTable) : Filesystem.Stands volume location { fs with files } :=
    ⟨stands.volume_eq, stands.current_eq⟩
  exact run_keeps stands (fun path moves => absurd moves (elsewhere path)) (fun _ _ => files)
    (fun _ _ => files _) fun _ _ _ _ => files _

/-- Links are asked for clusters of the volume only. -/
def Admissible (volume : Volume) : Call → Prop
  | .successor cluster | .tableEntry cluster => volume.isCluster cluster = true
  | _ => True

end Call

end Fat32
