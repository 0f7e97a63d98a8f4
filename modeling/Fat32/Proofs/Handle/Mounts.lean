import Mathlib.Logic.Relation
import Fat32.Proofs.Handle.Leftovers
import Fat32.Proofs.Mounting

/-!
Open files across mounts. The table of open files outlives the volumes, so a handle may belong to a
file of another volume. A mount closes all files, and it does so when it cannot fail any more: a
mount that fails has touched none, and on a mounted volume no handle is open but those that the
volume gave out itself.
-/

namespace Fat32

namespace Filesystem

variable {ι : Type} {fs : Filesystem}

theorem finish_advance {α : Type} (attempt : Attempt ι α) (next : α → Filesystem)
    (script : Script) :
    (fs.advance attempt next).finish script =
      match attempt.run.finish script with
      | .ok value => (next value, .ok ())
      | .error error => (fs, .error error) := by
  unfold advance
  rw [Scan.bind_eq, Scan.finish_bind]
  cases attempt.run.finish script <;> rfl

theorem openFile_gives (path : String) :
    (fs.openFile path : Attempt ι _).Gives fun opened => ∃ start size,
      opened.1 < maxOpenFiles ∧
        opened.2 = { fs with files := fs.files.put opened.1 (.atStart start size) } := by
  refine .bind (Attempt.gives_true _) fun entry _ => ?_
  refine .bind (.ofExcept fun slot allocated => allocated) fun slot allocated => ?_
  obtain ⟨inside, -, next⟩ := HandleTable.alloc_eq_ok _ allocated
  exact .pure ⟨entry.cluster, entry.size, inside, by rw [next]⟩

end Filesystem

def Filesystem.Shut (handle : Handle) (fs : Filesystem) : Prop := fs.files.get? handle = none

theorem Filesystem.readInto_of_shut {ι : Type} {fs : Filesystem} {handle : Handle}
    (shut : fs.Shut handle) (offset : Nat) (buffer : List UInt8) :
    (fs.readInto handle offset buffer : Scan ι _) = .done (buffer, fs, .error .badHandle) := by
  have refused : fs.files.get handle = .error .badHandle := by
    unfold HandleTable.get
    rw [shut]
  unfold readInto readAt
  rw [refused]
  rfl

namespace Call

/-- The handle that a call gives out, if it opens a file. -/
def given (fs : Filesystem) (script : Script) : Call → Option Handle
  | openFile path =>
    ((fs.openFile path : Attempt Empty _).run.finish script).toOption.map Prod.fst
  | _ => none

variable {fs : Filesystem} {call : Call} {handle : Handle} {script : Script}

theorem openFile_cases (fs : Filesystem) (script : Script) (path : String) :
    let next := (((openFile path).run fs : Scan Empty _).finish script).1
    ((openFile path).given fs script = none ∧ next.files = fs.files) ∨
      ∃ handle start size, (openFile path).given fs script = some handle ∧
        handle < maxOpenFiles ∧ next.files = fs.files.put handle (.atStart start size) := by
  have gives := (fs.openFile_gives (ι := Empty) path).finish script
  rw [given, run, Filesystem.finish_advance]
  cases answered : (fs.openFile path : Attempt Empty _).run.finish script with
  | error error => exact .inl ⟨rfl, rfl⟩
  | ok slot =>
    obtain ⟨start, size, inside, next⟩ := gives slot answered
    exact .inr ⟨slot.1, start, size, rfl, inside, congrArg Filesystem.files next⟩

/-- The only handle that a call opens is the one that it gives out. -/
theorem finish_run_shut (shut : fs.Shut handle) (apart : call.given fs script ≠ some handle) :
    ((call.run fs : Scan Empty _).finish script).1.Shut handle := by
  by_cases opens : ∃ path, call = .openFile path
  · obtain ⟨path, rfl⟩ := opens
    unfold Filesystem.Shut
    rcases openFile_cases fs script path with ⟨-, files⟩ | ⟨other, _, _, given, -, files⟩
    · rw [files]
      exact shut
    · have elsewhere : handle ≠ other := by
        rintro rfl
        exact apart given
      rw [files, HandleTable.get?_put_of_ne fs.files _ elsewhere]
      exact shut
  · have keeps : (call.run fs : Scan Empty _).Ensures (fun _ => True) (fun _ => True)
        fun outcome => outcome.1.Shut handle := by
      apply run_keeps shut
      · exact fun _ _ _ => shut
      · exact fun path called => absurd ⟨path, called⟩ opens
      · intro other _
        apply Option.eq_none_iff_forall_ne_some.mpr
        intro file found
        exact Option.some_ne_none file
          ((HandleTable.get?_close_eq_some fs.files found).2.symm.trans shut)
      · intro other file found next
        have elsewhere : handle ≠ other := by
          rintro rfl
          rw [HandleTable.get_eq_ok_iff, shut] at found
          cases found
        exact (HandleTable.get?_put_of_ne fs.files _ elsewhere).trans shut
    exact keeps.finish script

theorem finish_run_given (opened : call.given fs script = some handle) :
    ∃ start size, ((call.run fs : Scan Empty _).finish script).1.files.get? handle =
      some (.atStart start size) := by
  cases call with
  | openFile path =>
    rcases openFile_cases fs script path with ⟨refused, -⟩ | ⟨other, start, size, given, inside, files⟩
    · rw [refused] at opened
      cases opened
    · rw [given] at opened
      cases opened
      rw [files]
      exact ⟨start, size, HandleTable.get?_put_self fs.files _ inside⟩
  | _ => cases opened

end Call

namespace Session

/-- One use of a table and the volumes that are mounted over it, on a device that may answer
anything, with the handle that an open gives out on it. -/
inductive Use : Session → Option Handle → Session → Prop
  /-- While no volume is mounted, the table may be used on its own. -/
  | alloc {files next : HandleTable} {startCluster size : UInt32} {handle : Handle} :
      files.alloc startCluster size = .ok (handle, next) →
      Use (.unmounted files) none (.unmounted next)
  | close {files : HandleTable} (handle : Handle) :
      Use (.unmounted files) none (.unmounted (files.close handle))
  | closeAll {files : HandleTable} : Use (.unmounted files) none (.unmounted files.closeAll)
  | mount {session : Session} (request : MountRequest) (script : Script) :
      Use session none ((request.run session : Scan Empty _).finish script).1
  | unmount {session : Session} : Use session none session.unmount
  | abandon {session : Session} : Use session none session.abandon
  | call {fs : Filesystem} (call : Call) (script : Script) :
      Use (.mounted fs) (call.given fs script)
        (.mounted ((call.run fs : Scan Empty _).finish script).1)

/-- Any number of uses, none of which gives out the handle. -/
def Without (handle : Handle) : Session → Session → Prop :=
  Relation.ReflTransGen fun session next => ∃ given, Use session given next ∧ given ≠ some handle

def Shut (handle : Handle) (session : Session) : Prop :=
  ∀ fs, session = .mounted fs → fs.Shut handle

variable {handle : Handle} {session next : Session}

theorem shut_unmounted (files : HandleTable) : Shut handle (.unmounted files) :=
  fun _ same => nomatch same

theorem shut_mount (request : MountRequest) (script : Script) :
    Shut handle ((request.run session : Scan Empty _).finish script).1 := by
  rw [request.finish_run]
  cases (request.survey : Attempt Empty _).run.finish script with
  | error error => exact shut_unmounted _
  | ok found =>
    intro fs same
    cases same
    exact HandleTable.get?_closeAll _ handle

theorem Use.shut {given : Option Handle} (use : Use session given next)
    (apart : given ≠ some handle) (shut : session.Shut handle) : next.Shut handle := by
  cases use with
  | alloc => exact shut_unmounted _
  | close => exact shut_unmounted _
  | closeAll => exact shut_unmounted _
  | mount request script => exact shut_mount request script
  | unmount => exact shut_unmounted _
  | abandon => exact shut_unmounted _
  | @call fs call script =>
    intro other same
    cases same
    exact Call.finish_run_shut (shut fs rfl) apart

theorem Without.shut (without : Without handle session next) (shut : session.Shut handle) :
    next.Shut handle := by
  induction without with
  | refl => exact shut
  | tail _ used ih =>
    obtain ⟨given, use, apart⟩ := used
    exact use.shut apart ih

end Session

/-- An attempt to mount that fails leaves every slot as it was, and one that succeeds, like an
unmount, leaves no file open. A handle of before is then refused until an open gives it out, and
behind the open there is nothing in its cache. What a read gives after the mount does not depend on
the session that the mount was made in, so no byte that was cached before is ever read again. -/
theorem handles_end_with_mount (session : Session) (request : MountRequest) (script : Script) :
    let entered := (request.run session : Scan Empty _).finish script
    (∀ error, entered.2 = .error error → entered.1 = .unmounted session.files) ∧
    (entered.2 = .ok () → ∃ fs, entered.1 = .mounted fs ∧
      (∀ handle, fs.files.get? handle = none) ∧
      (∀ handle later, Session.Without handle entered.1 (.mounted later) →
        (∀ offset buffer, (later.readInto handle offset buffer : Scan Empty _) =
          .done (buffer, later, .error .badHandle)) ∧
        ∀ (call : Call) answers, call.given later answers = some handle →
          ∃ start size, ((call.run later : Scan Empty _).finish answers).1.files.get? handle =
            some (.atStart start size)) ∧
      ∀ other : Session, ∃ fresh,
        (request.run other : Scan Empty _).finish script = (.mounted fresh, .ok ()) ∧
        ∀ (calls : List Call) answers handle offset buffer further,
          let after (state : Filesystem) := (Call.runAll calls state : Scan Empty _).finish answers
          let reading (state : Filesystem) :=
            ((after state).readInto handle offset buffer : Scan Empty _).finish further
          (reading fs).1 = (reading fresh).1 ∧ (reading fs).2.2 = (reading fresh).2.2) ∧
    (∀ handle, session.unmount.files.get? handle = none) ∧
    session.abandon.files = session.files := by
  intro entered
  have finished (other : Session) := request.finish_run (ι := Empty) other script
  cases answered : (request.survey : Attempt Empty _).run.finish script with
  | error error =>
    simp only [answered] at finished
    refine ⟨fun _ _ => congrArg Prod.fst (finished session), fun succeeded => ?_,
      HandleTable.get?_closeAll _, rfl⟩
    rw [show entered = _ from finished session] at succeeded
    cases succeeded
  | ok found =>
    simp only [answered] at finished
    refine ⟨fun error failed => ?_, fun _ => ⟨_, congrArg Prod.fst (finished session),
      HandleTable.get?_closeAll _, ?_, fun other => ⟨_, finished other, ?_⟩⟩,
      HandleTable.get?_closeAll _, rfl⟩
    · rw [show entered = _ from finished session] at failed
      cases failed
    · intro handle later without
      have shut := without.shut (Session.shut_mount request script) later rfl
      exact ⟨Filesystem.readInto_of_shut shut, fun call answers => Call.finish_run_given⟩
    · intro calls answers handle offset buffer further after reading
      have alike := Filesystem.Alike.closeAll found.1 found.2 session.files other.files
      have later := (Call.runAll_alike (κ := Empty) alike calls).finish answers
      exact later.finish_readInto handle offset buffer further

set_option maxRecDepth 4000 in
/-- A file with a cached cluster is open. It stays so when the small volume is to be mounted under
a path that is no mount point, and is closed when it is mounted under one. -/
theorem handles_end_with_mount_small :
    let file : OpenFile := ⟨3, 600, ⟨1, 4⟩, some ⟨4, .replicate 512 2⟩⟩
    let session : Session := .unmounted (HandleTable.empty.put 0 file)
    let boot : Script := fun _ => .ok Volume.smallBoot
    let entered (mountPoint : String) :=
      ((MountRequest.volume 0 mountPoint).run session : Scan Empty _).finish boot
    ((entered "x").2 = .error .invalidPath ∧ (entered "x").1.files.get? 0 = some file) ∧
    ∃ fs, (entered "/x/y").1 = .mounted fs ∧ (entered "/x/y").2 = .ok () ∧
      ∀ offset buffer, (fs.readInto 0 offset buffer : Scan Empty _) =
        .done (buffer, fs, .error .badHandle) := by
  intro file session boot entered
  have invalid : (entered "x").2 = .error .invalidPath := rfl
  have valid : (entered "/x/y").2 = .ok () := rfl
  obtain ⟨kept, -⟩ := handles_end_with_mount session (.volume 0 "x") boot
  obtain ⟨-, closed, -⟩ := handles_end_with_mount session (.volume 0 "/x/y") boot
  obtain ⟨fs, mounted, -, refused, -⟩ := closed valid
  have files : (entered "x").1.files = HandleTable.empty.put 0 file :=
    congrArg Session.files (kept .invalidPath invalid)
  refine ⟨⟨invalid, ?_⟩, fs, mounted, valid, (refused 0 fs (mounted ▸ .refl)).1⟩
  rw [files]
  exact HandleTable.get?_put_self _ file (by decide)

end Fat32
