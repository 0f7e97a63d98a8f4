import Fat32.Proofs.Call
import Fat32.Proofs.Mounting

/-!
The paths that a volume shows. Every position that is reached from the root goes
down by components only, so its path is the mount point, or components behind it
with single slashes between them. A device may answer anything on the way.
-/

namespace Fat32

/-- The path of a directory under a mount point, without detours. -/
structure Path.Canonical (mountPoint path : String) : Prop where
  short : path.utf8ByteSize ≤ maxBytes
  shape : path = mountPoint ∨ ∃ components : List String, components ≠ [] ∧
    (∀ name ∈ components, IsComponent name) ∧
    path = (if mountPoint = "/" then "/" else mountPoint ++ "/") ++ "/".intercalate components
  uncut : mountPoint.toList <+: path.toList
  eq_slash : endsInSlash path = true → path = "/"

namespace Location

/-- A position under a mount point that is reached by components and whose path fits. -/
structure Proper (mountPoint : String) (location : Location) : Prop where
  mounted : location.mountPoint = mountPoint
  names : ∀ name ∈ location.components, Path.IsComponent name
  short : location.path.utf8ByteSize ≤ Path.maxBytes

variable {mountPoint name : String} {location : Location}

theorem root_eq_ok_iff {cluster : UInt32} :
    Location.root cluster mountPoint = .ok location ↔
      mountPoint.utf8ByteSize ≤ Path.maxBytes ∧ location = ⟨cluster, mountPoint, []⟩ := by
  unfold root
  by_cases long : Path.maxBytes < mountPoint.utf8ByteSize
  · simp [long, Nat.not_le_of_lt long]
  · simp [long, Nat.le_of_not_lt long, eq_comm]

theorem descend_eq_ok_iff {cluster : UInt32} {below : Location} :
    location.descend cluster name = .ok below ↔
      below.path.utf8ByteSize ≤ Path.maxBytes ∧
        below = { location with cluster, components := location.components ++ [name] } := by
  unfold descend
  dsimp only
  constructor
  · intro went
    split at went
    · cases went
    · rename_i short
      cases went
      exact ⟨Nat.le_of_not_lt short, rfl⟩
  · rintro ⟨short, rfl⟩
    exact if_neg (Nat.not_lt_of_le short)

theorem path_of_components (below : location.components ≠ []) :
    location.path = location.stem ++ "/".intercalate location.components := by
  unfold path
  split
  · rename_i nothing
    exact absurd nothing below
  · rfl

theorem not_endsInSlash_path (names : ∀ name ∈ location.components, Path.IsComponent name)
    (below : location.components ≠ []) : Path.endsInSlash location.path = false := by
  have last := names _ (List.getLast_mem below)
  rw [path_of_components below, ← List.dropLast_concat_getLast below]
  by_cases single : location.components.dropLast = []
  · rw [single, List.nil_append, String.intercalate_singleton,
      Path.endsInSlash_append last.nonempty]
    exact last.not_endsInSlash
  · rw [String.intercalate_append_of_ne_nil single (List.cons_ne_nil _ _),
      String.intercalate_singleton, ← String.append_assoc,
      Path.endsInSlash_append last.nonempty]
    exact last.not_endsInSlash

theorem path_snoc (names : ∀ name ∈ location.components, Path.IsComponent name)
    (cluster : UInt32) (name : String) :
    ({ location with cluster, components := location.components ++ [name] } : Location).path =
      Path.withSlash location.path ++ name := by
  rw [path_of_components (by simp)]
  by_cases below : location.components = []
  · have here : location.path = location.mountPoint := by
      unfold path
      rw [below]
    rw [below, List.nil_append, String.intercalate_singleton, here]
    rfl
  · unfold Path.withSlash
    rw [not_endsInSlash_path names below, path_of_components below,
      String.intercalate_append_of_ne_nil below (List.cons_ne_nil _ _),
      String.intercalate_singleton]
    simp [String.append_assoc, stem]

theorem path_eq_ascend (names : ∀ name ∈ location.components, Path.IsComponent name)
    (below : location.components ≠ []) (cluster : UInt32) :
    location.path =
      Path.withSlash (location.ascend cluster).path ++ location.components.getLast below := by
  have above : ∀ name ∈ (location.ascend cluster).components, Path.IsComponent name :=
    fun name member => names name (List.dropLast_subset _ member)
  rw [← path_snoc above location.cluster]
  unfold ascend
  rw [List.dropLast_concat_getLast below]

namespace Proper

theorem root {cluster : UInt32} (made : Location.root cluster mountPoint = .ok location) :
    location.Proper mountPoint := by
  obtain ⟨short, rfl⟩ := root_eq_ok_iff.mp made
  exact ⟨rfl, fun name impossible => absurd impossible List.not_mem_nil, short⟩

theorem descend (proper : location.Proper mountPoint) (component : Path.IsComponent name)
    {cluster : UInt32} {below : Location} (went : location.descend cluster name = .ok below) :
    below.Proper mountPoint := by
  obtain ⟨short, rfl⟩ := descend_eq_ok_iff.mp went
  refine ⟨proper.mounted, ?_, short⟩
  intro other member
  rcases List.mem_append.mp member with above | last
  · exact proper.names other above
  · rw [List.mem_singleton.mp last]
    exact component

theorem ascend (proper : location.Proper mountPoint) (cluster : UInt32) :
    (location.ascend cluster).Proper mountPoint := by
  refine ⟨proper.mounted, fun name member => proper.names name (List.dropLast_subset _ member),
    Nat.le_trans ?_ proper.short⟩
  by_cases below : location.components = []
  · unfold Location.ascend path
    rw [below]
    exact Nat.le_refl _
  · rw [path_eq_ascend proper.names below cluster, String.utf8ByteSize_append]
    exact Nat.le_add_right_of_le (Path.utf8ByteSize_le_withSlash _)

theorem canonical (proper : location.Proper mountPoint)
    (mountable : Path.IsMountPoint mountPoint) : Path.Canonical mountPoint location.path := by
  have mounted := proper.mounted
  by_cases below : location.components = []
  · have here : location.path = mountPoint := by
      unfold path
      rw [below]
      exact mounted
    exact ⟨proper.short, .inl here, here ▸ List.prefix_rfl, fun ends => here ▸
      mountable.eq_slash (here ▸ ends)⟩
  · have written : location.path = Path.withSlash mountPoint ++
        "/".intercalate location.components := mounted ▸ path_of_components below
    have stems : Path.withSlash mountPoint =
        if mountPoint = "/" then "/" else mountPoint ++ "/" := by
      unfold Path.withSlash
      by_cases bare : mountPoint = "/"
      · rw [bare]
        decide
      · rw [if_neg bare, if_neg fun ends => bare (mountable.eq_slash ends)]
    refine ⟨proper.short, .inr ⟨location.components, below, proper.names, stems ▸ written⟩, ?_,
      fun ends => ?_⟩
    · rw [written, String.toList_append]
      refine List.IsPrefix.trans ?_ (List.prefix_append _ _)
      unfold Path.withSlash
      split
      · exact List.prefix_rfl
      · rw [String.toList_append]
        exact List.prefix_append _ _
    · rw [not_endsInSlash_path proper.names below] at ends
      cases ends

end Proper

end Location

namespace Filesystem

variable {ι κ : Type} {mountPoint : String} {fs : Filesystem}

theorem step_gives {location : Location} (proper : location.Proper mountPoint) {move : Path.Move}
    (components : ∀ name, move = .down name → Path.IsComponent name) :
    (fs.step location move : Attempt ι _).Gives (Location.Proper mountPoint) := by
  cases move with
  | stay => exact .pure proper
  | up =>
    change (fs.ascend location).Gives _
    unfold ascend
    split
    · exact .pure proper
    · refine .bind (Attempt.gives_true _) fun parent _ => ?_
      cases parent with
      | none => exact .throw _
      | some parent => exact .bind (.note _) fun _ _ => .pure (proper.ascend _)
  | down name =>
    change (fs.descend location name).Gives _
    unfold descend
    refine .bind (Attempt.gives_true _) fun found _ => ?_
    cases found with
    | none => exact .failWith _ _
    | some entry =>
      exact .ofExcept fun below went => proper.descend (components name rfl) went

theorem walk_gives {moves : List Path.Move} {location : Location}
    (proper : location.Proper mountPoint)
    (components : ∀ name, .down name ∈ moves → Path.IsComponent name) :
    (fs.walk location moves : Attempt ι _).Gives (Location.Proper mountPoint) := by
  induction moves generalizing location with
  | nil => exact .pure proper
  | cons move rest ih =>
    refine .bind (step_gives proper ?_) fun next kept => ih kept ?_
    · rintro name rfl
      exact components name List.mem_cons_self
    · exact fun name later => components name (List.mem_cons_of_mem _ later)

theorem resolve_gives (proper : fs.current.Proper mountPoint) (path : String) :
    (fs.resolve path : Attempt ι _).Gives (Location.Proper mountPoint) := by
  have components (rest : String) : ∀ name, .down name ∈ Path.moves rest → Path.IsComponent name :=
    fun name member => Path.isComponent_of_mem_moves member
  unfold resolve
  split
  split
  · refine .bind (.ofExcept fun root made => ?_) fun origin kept => walk_gives kept (components _)
    unfold rootLocation at made
    rw [Filesystem.mountPoint, proper.mounted] at made
    exact .root made
  · exact .bind (.pure proper) fun origin kept => walk_gives kept (components _)

theorem changeDirectory_gives (proper : fs.current.Proper mountPoint) (path : String) :
    (fs.changeDirectory path : Attempt ι _).Gives fun next => next.current.Proper mountPoint :=
  .bind (resolve_gives proper path) fun _ kept => .bind (.note _) fun _ _ => .pure kept

end Filesystem

namespace Call

variable {κ : Type} {mountPoint : String} {fs : Filesystem}

/-- Whatever a call is answered, the position behind it is as proper as the one before it. -/
theorem run_keeps_proper (proper : fs.current.Proper mountPoint) (call : Call) :
    (call.run fs : Scan κ _).Ensures (fun _ => True) (fun _ => True)
      fun outcome => outcome.1.current.Proper mountPoint := by
  by_cases moves : ∃ path, call = .changeDirectory path
  · obtain ⟨path, rfl⟩ := moves
    exact Filesystem.advance_ensures (fun next => next.current.Proper mountPoint) proper
      (Filesystem.changeDirectory_gives proper path)
  · refine (run_stays ⟨rfl, rfl⟩ (not_exists.mp moves)).mono (fun _ _ => trivial) ?_
    intro outcome stands
    rw [stands.current_eq]
    exact proper

theorem runAll_keeps_proper (calls : List Call) (proper : fs.current.Proper mountPoint) :
    (runAll calls fs : Scan κ _).Ensures (fun _ => True) (fun _ => True)
      fun last => last.current.Proper mountPoint := by
  induction calls generalizing fs with
  | nil => exact .done proper
  | cons call rest ih =>
    exact Scan.Ensures.bind (run_keeps_proper proper call) fun outcome kept => ih kept

end Call

/-- Whatever a device answers, to a mount and to any calls after it, the path of the current
directory is written without detours under the mount point, and so is the path of every directory
that a path leads to. -/
theorem paths_stay_canonical {δ : Type} [Device δ] {device : δ} {noted : Array Diagnostic}
    {files : HandleTable} {mountPoint : String} {fs : Filesystem}
    (mounted : (∃ start, (((Filesystem.mount start mountPoint).upon files : Scan Empty _).runOn
        device noted).value.1 = .ok fs) ∨
      (((Filesystem.mountPartition mountPoint).upon files : Scan Empty _).runOn
        device noted).value.1 = .ok fs)
    (calls : List Call) (later : δ) (notedLater : Array Diagnostic) :
    let reached := ((Call.runAll calls fs : Scan Empty _).runOn later notedLater).value
    Path.Canonical mountPoint reached.current.path ∧
      ∀ (path : String) (now : δ) (notedNow : Array Diagnostic) (location : Location),
        ((reached.resolve path : Attempt Empty _).run.runOn now notedNow).value = .ok location →
        Path.Canonical mountPoint location.path := by
  intro reached
  have fresh : fs.Fresh mountPoint := by
    rcases mounted with ⟨start, mounted⟩ | mounted
    · exact ((MountRequest.volume start mountPoint).upon_gives files).runOn device noted fs mounted
    · exact ((MountRequest.partition mountPoint).upon_gives files).runOn device noted fs mounted
  have kept : reached.current.Proper mountPoint :=
    (Call.runAll_keeps_proper calls (.root fresh.root)).runOn later notedLater
  refine ⟨kept.canonical fresh.mountable, ?_⟩
  intro path now notedNow location resolved
  have proper := (Filesystem.resolve_gives kept path).runOn now notedNow location resolved
  exact proper.canonical fresh.mountable

/-- A device that plays a script, whatever it is asked for. -/
instance : Device Script where
  info _ := .ofBlocks Word.limit
  readSector script _ :=
    { answer := script 0, device := fun request => script (request + 1), diagnostics := [] }

set_option maxRecDepth 4000 in
/-- Every sector of the device holds the boot sector of the small volume at first and a directory
`1` later on. -/
theorem paths_stay_canonical_small :
    let boot : Script := fun _ => .ok Volume.smallBoot
    let later : Script := fun _ => .ok (.ofList 512 [0x31, 0x20, 0x20, 0x20, 0x20, 0x20, 0x20,
      0x20, 0x20, 0x20, 0x20, 0x10, 0, 0, 0, 0, 0, 0, 0, 0, 0, 0, 0, 0, 0, 0, 3])
    let fs : Filesystem := ⟨.small, ⟨2, "/x/y", []⟩, .empty⟩
    let calls : List Call := [.changeDirectory "1/./1", .changeDirectory "1/b"]
    let reached := ((Call.runAll calls fs : Scan Empty _).runOn later #[]).value
    (((Filesystem.mount 0 "/x/y").upon .empty : Scan Empty _).runOn boot #[]).value.1 = .ok fs ∧
      reached.current.path = "/x/y/1/1" ∧
      Path.Canonical "/x/y" reached.current.path ∧
      ∀ (path : String) (now : Script) (notedNow : Array Diagnostic) (location : Location),
        ((reached.resolve path : Attempt Empty _).run.runOn now notedNow).value = .ok location →
        Path.Canonical "/x/y" location.path := by
  intro boot later fs calls reached
  have mounted :
      (((Filesystem.mount 0 "/x/y").upon .empty : Scan Empty _).runOn boot #[]).value.1 = .ok fs :=
    rfl
  have walked : reached.current.path = "/x/y/1/1" := by decide +kernel
  exact ⟨mounted, walked, paths_stay_canonical (.inl ⟨0, mounted⟩) calls later #[]⟩

end Fat32
