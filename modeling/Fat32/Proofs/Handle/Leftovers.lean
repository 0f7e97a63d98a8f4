import Fat32.Proofs.Call
import Fat32.Proofs.Handle.Table

/-!
What closed files left in their slots. No call looks at it: two states that
differ in nothing else ask a device for the same sectors, answer alike and go
on to such states again.
-/

namespace Fat32

namespace Scan

variable {ι κ α β α' β' : Type}

/-- Two scans that take the same steps and finish with related values. -/
inductive Matches (related : α → β → Prop) : Scan ι α → Scan ι β → Prop
  | done {first second} : related first second → Matches related (.done first) (.done second)
  | item {value first second} : Matches related first second →
      Matches related (.item value first) (.item value second)
  | read {lba first second} : (∀ answer, Matches related (first answer) (second answer)) →
      Matches related (.read lba first) (.read lba second)
  | report {diagnostic first second} : Matches related first second →
      Matches related (.report diagnostic first) (.report diagnostic second)

namespace Matches

variable {related : α → β → Prop} {first : Scan ι α} {second : Scan ι β}

theorem refl (scan : Scan ι α) : Matches Eq scan scan := by
  induction scan with
  | done value => exact .done rfl
  | item value rest ih => exact .item ih
  | read lba next ih => exact .read ih
  | report diagnostic rest ih => exact .report ih

theorem bind {related' : α' → β' → Prop} {f : α → Scan ι α'} {g : β → Scan ι β'}
    (alike : Matches related first second)
    (next : ∀ a b, related a b → Matches related' (f a) (g b)) :
    Matches related' (first.bind f) (second.bind g) := by
  induction alike with
  | done ends => exact next _ _ ends
  | item _ ih => exact .item ih
  | read _ ih => exact .read ih
  | report _ ih => exact .report ih

theorem bind_left {related' : α' → β' → Prop} (scan : Scan ι α) {f : α → Scan ι α'}
    {g : α → Scan ι β'} (next : ∀ value, Matches related' (f value) (g value)) :
    Matches related' (scan.bind f) (scan.bind g) :=
  (refl scan).bind fun a _ same => same ▸ next a

theorem collect (alike : Matches related first second) (taken : List ι) :
    Matches (fun a b => a.1 = b.1 ∧ related a.2 b.2)
      (first.collect taken : Scan κ _) (second.collect taken) := by
  induction alike generalizing taken with
  | done ends => exact .done ⟨rfl, ends⟩
  | @item value _ _ _ ih => exact ih (value :: taken)
  | read _ ih => exact .read fun answer => ih answer taken
  | report _ ih => exact .report (ih taken)

theorem toList (alike : Matches related first second) :
    Matches (fun a b => a.1 = b.1 ∧ related a.2 b.2)
      (first.toList : Scan κ _) second.toList := alike.collect []

theorem finish (alike : Matches related first second) (script : Script) :
    related (first.finish script) (second.finish script) := by
  induction alike generalizing script with
  | done ends => exact ends
  | item _ ih => exact ih script
  | read _ ih => exact ih (script 0) _
  | report _ ih => exact ih script

end Matches

end Scan

namespace Attempt

variable {ι α β α' β' : Type}

inductive Ends (related : α → β → Prop) : Except Error α → Except Error β → Prop
  | ok {first second} : related first second → Ends related (.ok first) (.ok second)
  | error (error) : Ends related (.error error) (.error error)

/-- Two attempts that take the same steps and end alike. -/
def Matches (related : α → β → Prop) (first : Attempt ι α) (second : Attempt ι β) : Prop :=
  first.run.Matches (Ends related) second.run

theorem Matches.pure {related : α → β → Prop} {first : α} {second : β}
    (values : related first second) :
    (Pure.pure first : Attempt ι α).Matches related (Pure.pure second) := .done (.ok values)

theorem Matches.bind_left {related : α' → β' → Prop} (attempt : Attempt ι α)
    {f : α → Attempt ι α'} {g : α → Attempt ι β'}
    (next : ∀ value, (f value).Matches related (g value)) :
    (attempt >>= f).Matches related (attempt >>= g) :=
  Scan.Matches.bind_left attempt.run fun result => by
    cases result with
    | error error => exact .done (.error error)
    | ok value => exact next value

theorem Matches.ofExcept_bind {related : α → β → Prop} {related' : α' → β' → Prop}
    {first : Except Error α} {second : Except Error β} (ends : Ends related first second)
    {f : α → Attempt ι α'} {g : β → Attempt ι β'}
    (next : ∀ a b, related a b → (f a).Matches related' (g b)) :
    (ofExcept first >>= f).Matches related' (ofExcept second >>= g) := by
  cases ends with
  | ok values => exact next _ _ values
  | error error => exact .done (.error error)

end Attempt

theorem HandleTable.alloc_ends {table other : HandleTable} (same : table.opened = other.opened)
    (startCluster size : UInt32) :
    Attempt.Ends (fun first second => first.2.opened = second.2.opened)
      (table.alloc startCluster size) (other.alloc startCluster size) := by
  rw [alloc_eq, alloc_eq, free?_congr same]
  cases other.free? with
  | none => exact .error _
  | some handle =>
    refine .ok ?_
    rw [opened_put, opened_put, same]

namespace Filesystem

variable {ι κ α β : Type}

section Files

variable (fs : Filesystem) (files : HandleTable)

theorem walk_files (location : Location) (moves : List Path.Move) :
    ({ fs with files }.walk location moves : Attempt ι _) = fs.walk location moves := by
  induction moves generalizing location with
  | nil => rfl
  | cons move rest ih =>
    have step : ({ fs with files }.step location move : Attempt ι _) = fs.step location move := by
      cases move <;> rfl
    unfold walk
    rw [step]
    exact congrArg (_ >>= ·) (funext ih)

theorem resolve_files (path : String) :
    ({ fs with files }.resolve path : Attempt ι _) = fs.resolve path := by
  unfold resolve
  simp only [walk_files]
  rfl

theorem lookup_files (path : String) :
    ({ fs with files }.lookup path : Attempt ι _) = fs.lookup path := by
  unfold lookup
  simp only [resolve_files]
  rfl

theorem lookupFile_files (path : String) :
    ({ fs with files }.lookupFile path : Attempt ι _) = fs.lookupFile path := by
  unfold lookupFile
  rw [lookup_files fs files]

theorem fileContents_files (path : String) (limit : Nat) :
    { fs with files }.fileContents path limit = fs.fileContents path limit := by
  unfold fileContents
  rw [lookupFile_files fs files]
  rfl

theorem pathContents_files (path : String) (limit : Nat) :
    { fs with files }.pathContents path limit = fs.pathContents path limit := by
  unfold pathContents
  rw [resolve_files fs files, fileContents_files]
  rfl

end Files

/-- Two states of a volume that differ at most in what closed files left behind. -/
structure Alike (first second : Filesystem) : Prop where
  volume_eq : first.volume = second.volume
  current_eq : first.current = second.current
  opened_eq : first.files.opened = second.files.opened

/-- Two outcomes with the same answer over alike states. -/
abbrev AlikeOutcomes (first second : Filesystem × α) : Prop :=
  first.1.Alike second.1 ∧ first.2 = second.2

section Alike

-- The other state is written as this one over other files: all that a call does without the table
-- is then the same by definition.
variable {fs : Filesystem} {files : HandleTable} (same : fs.files.opened = files.opened)

include same

theorem alike_of_opened : fs.Alike { fs with files } := ⟨rfl, rfl, same⟩

theorem watch_alike {attempt attempt' : Attempt ι α} (alike : attempt = attempt') :
    (fs.watch attempt : Scan κ _).Matches AlikeOutcomes (watch { fs with files } attempt') :=
  alike ▸ .bind_left _ fun _ => .done ⟨alike_of_opened same, rfl⟩

theorem browse_alike (attempt : Attempt ι Unit) (limit : Option Nat) :
    (fs.browse attempt limit : Scan κ _).Matches AlikeOutcomes
      (browse { fs with files } attempt limit) := by
  cases limit with
  | none => exact watch_alike same rfl
  | some limit => exact .bind_left _ fun _ => .done ⟨alike_of_opened same, rfl⟩

theorem advance_alike {related : α → β → Prop} {attempt : Attempt κ α} {attempt' : Attempt κ β}
    {next : α → Filesystem} {next' : β → Filesystem} (matching : attempt.Matches related attempt')
    (alike : ∀ a b, related a b → (next a).Alike (next' b)) :
    (fs.advance attempt next).Matches AlikeOutcomes
      (advance { fs with files } attempt' next') := by
  refine Scan.Matches.bind matching fun first second ends => ?_
  cases ends with
  | ok values => exact .done ⟨alike _ _ values, rfl⟩
  | error error => exact .done ⟨alike_of_opened same, rfl⟩

theorem changeDirectory_alike (path : String) :
    (fs.changeDirectory path : Attempt ι _).Matches Alike
      (changeDirectory { fs with files } path) := by
  unfold changeDirectory
  rw [resolve_files fs files]
  exact .bind_left _ fun location => .bind_left _ fun _ => .pure ⟨rfl, rfl, same⟩

theorem openFile_alike (path : String) :
    (fs.openFile path : Attempt ι _).Matches (fun first second => first.2.Alike second.2)
      (openFile { fs with files } path) := by
  unfold openFile
  rw [lookupFile_files fs files]
  refine .bind_left _ fun entry => ?_
  exact .ofExcept_bind (HandleTable.alloc_ends same _ _) fun _ _ opened => .pure ⟨rfl, rfl, opened⟩

theorem closeFile_alike (handle : Handle) :
    (fs.closeFile handle).Alike (closeFile { fs with files } handle) := by
  refine ⟨rfl, rfl, ?_⟩
  unfold closeFile
  rw [HandleTable.opened_close, HandleTable.opened_close, same]

theorem readAt_alike (handle : Handle) (offset limit : Nat) :
    (fs.readAt handle offset limit).Matches AlikeOutcomes
      (readAt { fs with files } handle offset limit) := by
  unfold readAt
  rw [← HandleTable.get_congr same handle]
  cases fs.files.get handle with
  | error error => exact .done ⟨alike_of_opened same, rfl⟩
  | ok file =>
    refine .bind_left _ fun outcome => .done ⟨⟨rfl, rfl, ?_⟩, rfl⟩
    rw [HandleTable.opened_put, HandleTable.opened_put, same]

theorem readInto_alike (handle : Handle) (offset : Nat) (buffer : List UInt8) :
    (fs.readInto handle offset buffer : Scan κ _).Matches
      (fun first second => first.1 = second.1 ∧ AlikeOutcomes first.2 second.2)
      (readInto { fs with files } handle offset buffer) :=
  (readAt_alike same handle offset buffer.length).toList.bind fun _ _ ⟨bytes, outcomes⟩ =>
    .done ⟨congrArg (fun parts => overlay buffer parts.flatten) bytes, outcomes⟩

end Alike

namespace Alike

variable {first second : Filesystem}

theorem closeAll (volume : Volume) (current : Location) (files other : HandleTable) :
    Alike ⟨volume, current, files.closeAll⟩ ⟨volume, current, other.closeAll⟩ :=
  ⟨rfl, rfl, files.opened_closeAll.trans other.opened_closeAll.symm⟩

theorem eq_files (alike : first.Alike second) : second = { first with files := second.files } := by
  obtain ⟨volume, current, -⟩ := alike
  obtain ⟨_, _, _⟩ := first
  cases volume
  cases current
  rfl

theorem finish_readInto (alike : first.Alike second) (handle : Handle) (offset : Nat)
    (buffer : List UInt8) (script : Script) :
    let reading (fs : Filesystem) :=
      (fs.readInto handle offset buffer : Scan κ _).finish script
    (reading first).1 = (reading second).1 ∧ (reading first).2.2 = (reading second).2.2 := by
  rw [alike.eq_files]
  obtain ⟨bytes, outcomes⟩ := (readInto_alike alike.opened_eq handle offset buffer).finish script
  exact ⟨bytes, outcomes.2⟩

end Alike

end Filesystem

namespace Call

open Filesystem

variable {κ : Type} {fs other : Filesystem}

theorem run_files {files : HandleTable} (same : fs.files.opened = files.opened) (call : Call) :
    (call.run fs : Scan κ _).Matches AlikeOutcomes (call.run { fs with files }) := by
  cases call with
  | list limit => exact browse_alike same fs.list limit
  | directory cluster limit => exact browse_alike same (fs.directory cluster) limit
  | chain start limit => exact browse_alike same (fs.volume.chain start) limit
  | changeDirectory path =>
    exact advance_alike same (changeDirectory_alike same path) fun _ _ alike => alike
  | openFile path => exact advance_alike same (openFile_alike same path) fun _ _ alike => alike
  | closeFile handle => exact .done ⟨closeFile_alike same handle, rfl⟩
  | readAt handle offset limit =>
    refine (readAt_alike same handle offset limit).toList.bind fun _ _ outcomes => .done ?_
    exact ⟨outcomes.2.1, congrArg (Except.map fun _ => ()) outcomes.2.2⟩
  | resolve path => exact watch_alike same (resolve_files fs files path).symm
  | lookup path => exact watch_alike same (lookup_files fs files path).symm
  | fileSize path =>
    exact watch_alike same (congrArg (· >>= _) (lookupFile_files fs files path).symm)
  | fileContents path limit => exact watch_alike same (fileContents_files fs files path limit).symm
  | pathContents path limit => exact watch_alike same (pathContents_files fs files path limit).symm
  | _ => exact watch_alike same rfl

theorem runAll_alike (alike : fs.Alike other) (calls : List Call) :
    (runAll calls fs : Scan κ _).Matches Alike (runAll calls other) := by
  induction calls generalizing fs other with
  | nil => exact .done alike
  | cons call rest ih =>
    rw [alike.eq_files]
    exact (run_files alike.opened_eq call).bind fun _ _ outcomes => ih outcomes.1

end Call

end Fat32
