import Fat32.Proofs.Call
import Fat32.Proofs.Scan.Warnings
import Fat32.Proofs.Volume.Geometry

/-!
Warnings of the reader. A chain warns where it leaves the volume or does not end, and the readers of
files warn where a chain is too short. Everything else that can go wrong is left to its error. Since
an operation ends where it has warned, an operation that calls others warns when one of them does,
and whoever tries a second way has not been warned on the first.
-/

namespace Fat32

namespace Volume

variable {ι : Type} (volume : Volume)

theorem tableEntry_warns (cluster : UInt32) : (volume.tableEntry cluster : Attempt ι _).Warns :=
  .bind (.sector _) fun _ => .pure _

theorem successor_warns (cluster : UInt32) : (volume.successor cluster : Attempt ι _).Warns := by
  refine .bind (volume.tableEntry_warns cluster) fun next => ?_
  split
  · exact .pure _
  · split
    · exact .pure _
    · exact .failWith rfl (.inl rfl)

theorem chainWithin_warns (budget : Nat) (cluster : UInt32) :
    (volume.chainWithin budget cluster).Warns := by
  induction budget generalizing cluster with
  | zero => exact .failWith rfl (.inl rfl)
  | succ budget ih =>
    refine .bind (.emit _) fun _ => .bind (volume.successor_warns cluster) fun next => ?_
    cases next with
    | none => exact .pure _
    | some next => exact ih next

theorem chain_warns (start : UInt32) : (volume.chain start).Warns := by
  unfold chain
  split
  · exact .pure _
  · split
    · exact volume.chainWithin_warns _ start
    · exact .failWith rfl (.inl rfl)

theorem countFree_warns (index count free : Nat) :
    (volume.countFree index count free : Attempt ι Nat).Warns := by
  induction count generalizing index free with
  | zero => exact .pure _
  | succ count ih => exact .bind (.sector _) fun sector => ih _ _

theorem usage_warns : (volume.usage : Attempt ι Usage).Warns :=
  .bind (volume.countFree_warns _ _ _) fun _ => .pure _

end Volume

namespace Directory

theorem records_warns (list : List DirRecord) (long : LongName) : (records list long).Warns := by
  induction list generalizing long with
  | nil => exact .pure _
  | cons record rest ih =>
    unfold records
    split
    · exact .pure _
    · exact ih _
    · exact ih _
    · exact ih _
    · exact .bind (.emit _) fun _ => ih _

theorem sectors_warns (lba : UInt32) (count : Nat) (long : LongName) :
    (sectors lba count long).Warns := by
  induction count generalizing lba long with
  | zero => exact .pure _
  | succ count ih =>
    refine .bind (.sector _) fun sector => .bind (records_warns _ _) fun step => ?_
    cases step with
    | more long => exact ih _ long
    | enough => exact .pure _

theorem entries_warns (volume : Volume) (start : UInt32) : (entries volume start).Warns :=
  .bind (.visit (volume.chain_warns start) (fun _ _ => sectors_warns _ _ _) _) fun _ => .pure _

end Directory

theorem Scan.sectors_warns (block count : Nat) :
    (Scan.sectors block count).Warns fun _ => False := by
  induction count generalizing block with
  | zero => exact .silent id
  | succ count ih =>
    unfold Scan.sectors
    split
    · refine .read fun answer => ?_
      cases answer with
      | error cause => exact .silent id
      | ok sector => exact .item (ih _)
    · exact .silent id

namespace OpenFile

variable {ι : Type} (volume : Volume)

/-- A step of a read that leaves a file and a result warns for the sake of the result. -/
abbrev Warns {α : Type} (scan : Scan ι (OpenFile × Except Error α)) : Prop :=
  scan.Warns fun outcome => Corrupt outcome.2

theorem follow_warns (index hops : Nat) (file : OpenFile) :
    Warns (follow volume index hops file : Scan ι _) := by
  induction hops generalizing file with
  | zero => exact .silent (not_corrupt_ok ())
  | succ hops ih =>
    refine Scan.Warns.bind (volume.successor_warns _) (fun answer corrupt => ?_) ?_
    · obtain ⟨error, rfl, still⟩ := corrupt.exists_error
      exact ⟨_, rfl, still⟩
    · rintro (error | (_ | next)) sound
      · exact .silent (mt corrupt_error_iff.mp sound)
      · exact .warned rfl (.inr rfl)
      · exact ih _

theorem seek_warns (index : Nat) (file : OpenFile) :
    Warns (seek volume index file : Scan ι _) := by
  unfold seek
  dsimp only
  -- The check and the walk warn alike from wherever they start.
  generalize (if index < file.position.index then file.rewind else file) = file
  split
  · exact .warned rfl (.inl rfl)
  · exact follow_warns volume _ _ _

theorem load_warns (file : OpenFile) : Warns (load volume file : Scan ι _) := by
  unfold load
  dsimp only
  split
  · exact .silent (not_corrupt_ok _)
  · refine Scan.Warns.bind (Scan.sectors_warns _ _).toList (fun _ blamed => blamed.elim) ?_
    rintro ⟨sectors, cause | _⟩ -
    · exact .silent (not_corrupt_device cause)
    · exact .silent (not_corrupt_ok _)

theorem Warns.bind {α β : Type} {scan : Scan ι (OpenFile × Except Error α)}
    {f : OpenFile × Except Error α → Scan ι (OpenFile × Except Error β)} (first : Warns scan)
    (ends : ∀ file error, f (file, .error error) = .done (file, .error error))
    (second : ∀ file value, Warns (f (file, .ok value))) : Warns (scan.bind f) := by
  refine Scan.Warns.bind first ?_ ?_
  · rintro ⟨file, result⟩ corrupt
    obtain ⟨error, rfl, still⟩ := corrupt.exists_error
    exact ⟨_, ends file error, still⟩
  · rintro ⟨file, error | value⟩ sound
    · rw [ends file error]
      exact .silent (mt corrupt_error_iff.mp sound)
    · exact second file value

theorem readSpans_warns (spans : List Span) (file : OpenFile) :
    Warns (readSpans volume spans file) := by
  induction spans generalizing file with
  | nil => exact .silent (not_corrupt_ok ())
  | cons span rest ih =>
    refine Warns.bind (seek_warns volume span.index file) (fun _ _ => rfl) fun file _ => ?_
    exact Warns.bind (load_warns volume file) (fun _ _ => rfl) fun file _ => .item (ih file)

theorem read_warns (offset count : Nat) (file : OpenFile) :
    Warns (file.read volume offset count) := by
  unfold read
  dsimp only
  split
  · exact .silent (not_corrupt_ok _)
  · split
    · exact .silent (by simp [Corrupt])
    · exact (readSpans_warns volume _ file).map fun outcome => corrupt_map_iff

end OpenFile

namespace Filesystem

variable {ι κ : Type} (fs : Filesystem)

theorem find?_warns (cluster : UInt32) (test : Entry → Bool) :
    (fs.find? cluster test : Attempt ι _).Warns :=
  .find? (Directory.entries_warns fs.volume cluster) test

theorem ascend_warns (location : Location) : (fs.ascend location : Attempt ι _).Warns := by
  unfold ascend
  split
  · exact .pure _
  · refine .bind (fs.find?_warns _ _) fun parent => ?_
    cases parent with
    | none => exact .throw (by simp [Corrupt])
    | some parent => exact .bind (.note (by simp [Diagnostic.level])) fun _ => .pure _

theorem descend_sound (location : Location) (cluster : UInt32) (name : String) :
    ¬ Corrupt (location.descend cluster name) := by
  unfold Location.descend
  dsimp only
  split
  · simp [Corrupt]
  · exact not_corrupt_ok _

theorem rootLocation_sound : ¬ Corrupt fs.rootLocation := by
  unfold rootLocation Location.root
  split
  · simp [Corrupt]
  · exact not_corrupt_ok _

theorem descend_warns (location : Location) (name : String) :
    (fs.descend location name : Attempt ι _).Warns := by
  refine .bind (fs.find?_warns _ _) fun found => ?_
  cases found with
  | none => exact .failQuietly (by simp [Diagnostic.level]) (by simp [Corrupt])
  | some entry => exact .ofExcept (descend_sound _ _ _)

theorem step_warns (location : Location) (move : Path.Move) :
    (fs.step location move : Attempt ι _).Warns := by
  cases move with
  | stay => exact .pure _
  | up => exact fs.ascend_warns location
  | down name => exact fs.descend_warns location name

theorem walk_warns (location : Location) (moves : List Path.Move) :
    (fs.walk location moves : Attempt ι _).Warns := by
  induction moves generalizing location with
  | nil => exact .pure _
  | cons move rest ih => exact .bind (fs.step_warns _ _) fun next => ih next

theorem resolve_warns (path : String) : (fs.resolve path : Attempt ι _).Warns := by
  unfold resolve
  split
  split
  · exact .bind (.ofExcept fs.rootLocation_sound) fun origin => fs.walk_warns _ _
  · exact .bind (.pure _) fun origin => fs.walk_warns _ _

theorem lookup_warns (path : String) : (fs.lookup path : Attempt ι _).Warns := by
  unfold lookup
  split
  dsimp only
  split
  · refine .bind (fs.resolve_warns _) ?_
    intro location
    refine .bind (fs.find?_warns _ _) fun found => ?_
    cases found with
    | none => exact .throw (by simp [Corrupt])
    | some entry => exact .pure _
  · exact .throw_bind (by simp [Corrupt]) _

theorem lookupFile_warns (path : String) : (fs.lookupFile path : Attempt ι _).Warns := by
  refine .bind (fs.lookup_warns path) ?_
  intro entry
  dsimp only
  split
  · exact .throw_bind (by simp [Corrupt]) _
  · exact .pure _

theorem fileSize_warns (path : String) : (fs.fileSize path : Attempt ι _).Warns :=
  .bind (fs.lookupFile_warns path) fun _ => .pure _

theorem copySectors_warns (lba : UInt32) (count wanted : Nat) :
    (copySectors lba count wanted).Warns := by
  induction count generalizing lba wanted with
  | zero => exact .pure _
  | succ count ih =>
    refine .bind (.sector _) fun sector => .bind (.emit _) fun _ => ?_
    split
    · exact .pure _
    · exact ih _ _

theorem entryContents_warns (entry : Entry) (limit : Nat) :
    (fs.entryContents entry limit).Warns := by
  unfold entryContents
  dsimp only
  split
  · exact .pure _
  · refine .bind (.visit (fs.volume.chain_warns _) (fun _ _ => copySectors_warns _ _ _) _) ?_
    intro copied
    cases copied with
    | enough => exact .pure _
    | more left => exact .failWith rfl (.inr rfl)

theorem fileContents_warns (path : String) (limit : Nat) : (fs.fileContents path limit).Warns :=
  .bind (fs.lookupFile_warns path) fun entry => fs.entryContents_warns entry limit

theorem measureNames_warns (cluster : UInt32) : (fs.measureNames cluster : Attempt ι _).Warns := by
  refine .bind (.visit (Directory.entries_warns _ _) (fun _ _ => .pure _) _) fun step => ?_
  cases step with
  | more size => exact .pure _
  | enough result => exact result.elim

theorem readNames_warns (cluster : UInt32) (limit : Nat) :
    (fs.readNames cluster limit).Warns := by
  refine .bind (.visit (Directory.entries_warns _ _) (fun size entry => ?_) _) fun step => ?_
  · dsimp only
    split
    · exact .throw_bind (by simp [Corrupt]) _
    · exact .bind (.emit _) fun _ => .pure _
  · cases step with
    | more size => exact .pure _
    | enough result => exact result.elim

/-- The second way is taken behind an error that is no warning's. -/
theorem pathContents_warns (path : String) (limit : Nat) : (fs.pathContents path limit).Warns := by
  refine Scan.Warns.bind (fs.resolve_warns path) (fun found corrupt => ?_) fun found sound => ?_
  · rcases corrupt with rfl | rfl
    · exact ⟨_, rfl, .inl rfl⟩
    · exact ⟨_, rfl, .inr rfl⟩
  · split
    · refine Attempt.Warns.bind (fs.measureNames_warns _) ?_
      intro size
      dsimp only
      split
      · exact .throw_bind (by simp [Corrupt]) _
      · exact fs.readNames_warns _ _
    · exact fs.fileContents_warns path limit
    · exact .silent (mt corrupt_error_iff.mp sound)

theorem changeDirectory_warns (path : String) :
    (fs.changeDirectory path : Attempt ι _).Warns :=
  .bind (fs.resolve_warns path) fun _ => .bind (.note (by simp [Diagnostic.level])) fun _ => .pure _

theorem openFile_warns (path : String) : (fs.openFile path : Attempt ι _).Warns := by
  refine .bind (fs.lookupFile_warns path) fun entry => .bind (.ofExcept ?_) fun _ => .pure _
  unfold HandleTable.alloc
  split
  · exact not_corrupt_ok _
  · simp [Corrupt]

theorem readAt_warns (handle : Handle) (offset limit : Nat) :
    (fs.readAt handle offset limit).Warns fun outcome => Corrupt outcome.2 := by
  unfold readAt
  split
  · rename_i error missing
    have unknown : ¬ Corrupt (fs.files.get handle) := by
      unfold HandleTable.get
      split
      · exact not_corrupt_ok _
      · simp [Corrupt]
    rw [missing] at unknown
    exact .silent (mt corrupt_error_iff.mp unknown)
  · exact (OpenFile.read_warns _ _ _ _).map fun _ => .rfl

section Calls

variable {fs}

theorem watch_warns {α : Type} {attempt : Attempt ι α} (warns : attempt.Warns) :
    (fs.watch attempt : Scan κ _).Warns fun outcome => Corrupt outcome.2 :=
  Scan.Warns.map (Scan.Warns.toList warns) fun _ => corrupt_map_iff

theorem browse_warns {attempt : Attempt ι Unit} (warns : attempt.Warns) (limit : Option Nat) :
    (fs.browse attempt limit : Scan κ _).Warns fun outcome => Corrupt outcome.2 := by
  cases limit with
  | none => exact watch_warns warns
  | some limit =>
    refine Scan.Warns.map (Scan.Warns.collectWithin warns limit []) ?_
    rintro ⟨taken, _ | result⟩
    · exact iff_of_false (not_corrupt_ok ()) nofun
    · simp

theorem advance_warns {α : Type} {attempt : Attempt κ α} (warns : attempt.Warns)
    (next : α → Filesystem) :
    (fs.advance attempt next : Scan κ _).Warns fun outcome => Corrupt outcome.2 := by
  refine Scan.Warns.bind warns ?_ ?_
  · intro result corrupt
    obtain ⟨error, rfl, still⟩ := corrupt.exists_error
    exact ⟨_, rfl, still⟩
  · intro result sound
    cases result with
    | error error => exact .silent (mt corrupt_error_iff.mp sound)
    | ok value => exact .silent (not_corrupt_ok ())

end Calls

end Filesystem

namespace Call

variable {κ : Type}

/-- Whatever the device answers and in whatever state, a call warns right in front of an error that
tells of a volume that contradicts itself, and nowhere else. -/
theorem run_warns (fs : Filesystem) (call : Call) :
    (call.run fs : Scan κ _).Warns fun outcome => Corrupt outcome.2 := by
  cases call with
  | list limit => exact Filesystem.browse_warns (Directory.entries_warns _ _) limit
  | directory cluster limit => exact Filesystem.browse_warns (Directory.entries_warns _ _) limit
  | chain start limit => exact Filesystem.browse_warns (fs.volume.chain_warns start) limit
  | changeDirectory path => exact Filesystem.advance_warns (fs.changeDirectory_warns path) _
  | resolve path => exact Filesystem.watch_warns (fs.resolve_warns path)
  | lookup path => exact Filesystem.watch_warns (fs.lookup_warns path)
  | fileSize path => exact Filesystem.watch_warns (fs.fileSize_warns path)
  | fileContents path limit => exact Filesystem.watch_warns (fs.fileContents_warns path limit)
  | pathContents path limit => exact Filesystem.watch_warns (fs.pathContents_warns path limit)
  | openFile path => exact Filesystem.advance_warns (fs.openFile_warns path) _
  | closeFile handle => exact .silent (not_corrupt_ok ())
  | readAt handle offset limit =>
    exact (fs.readAt_warns handle offset limit).toList.map fun _ => corrupt_map_iff
  | usage => exact Filesystem.watch_warns fs.volume.usage_warns
  | successor cluster => exact Filesystem.watch_warns (fs.volume.successor_warns cluster)
  | tableEntry cluster => exact Filesystem.watch_warns (fs.volume.tableEntry_warns cluster)

end Call

/-- In every state and on every device, a call ends with an error that tells of a volume that
contradicts itself exactly when it has warned, and then it has warned once. -/
theorem corruption_is_warned_of_once (medium : Medium) (fs : Filesystem) (call : Call) :
    let outcome := ((call.run fs : Scan Empty _).result medium).2
    let warnings := ((call.run fs : Scan Empty _).reportsOn medium).filter (·.level = .warn)
    ((outcome = .error .corruptChain ∨ outcome = .error .incompleteRead) ↔ warnings ≠ []) ∧
      (warnings ≠ [] → warnings.length = 1) := by
  intro outcome warnings
  rcases (call.run_warns fs).warningsOn_spec medium with ⟨corrupt, once⟩ | ⟨sound, silent⟩
  · have once : warnings.length = 1 := once
    have warned : warnings ≠ [] := by
      rintro none
      simp [none] at once
    exact ⟨iff_of_true corrupt warned, fun _ => once⟩
  · have silent : warnings = [] := silent
    exact ⟨iff_of_false sound (absurd silent), fun warned => absurd silent warned⟩

/-- A chain from outside the volume, and a directory on a device that does not answer. -/
example :
    let fs : Filesystem := ⟨.small, ⟨2, "/", []⟩, .empty⟩
    let reports (call : Call) : List Diagnostic :=
      (call.run fs : Scan Empty _).reportsOn fun _ => .error .readError
    reports (.chain 1 none) = [.chainStart 1] ∧ reports (.list none) = [] := by
  decide

end Fat32
