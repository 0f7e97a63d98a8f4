import Fat32.Proofs.Path.Tree

/-!
Ways up, one after the other. Whether a way up leaves the directory is decided by its cluster, and
which names are left by its path. The two belong together on a consistent tree, and there ways up
lead to the mount point. On any other device they do so unless the root directory turns up early:
a position whose cluster is that of the root directory keeps its path.
-/

namespace Fat32

@[simp] theorem Location.components_ascend (location : Location) (cluster : UInt32) :
    (location.ascend cluster).components = location.components.dropLast := rfl

theorem Location.path_eq_mountPoint_iff {location : Location}
    (names : ∀ name ∈ location.components, Path.IsComponent name) :
    location.path = location.mountPoint ↔ location.components = [] := by
  refine ⟨fun same => ?_, fun nothing => by unfold path; rw [nothing]⟩
  by_contra below
  have unslashed := not_endsInSlash_path names below
  have written := path_of_components below
  rw [same] at unslashed written
  rw [stem, unslashed, if_neg Bool.false_ne_true] at written
  have sizes := congrArg String.utf8ByteSize written
  have slash : "/".utf8ByteSize = 1 := rfl
  rw [String.utf8ByteSize_append, String.utf8ByteSize_append, slash] at sizes
  omega

/-- The root directory, as ways up tell it. -/
def Filesystem.AtRoot (fs : Filesystem) : Prop := fs.current.cluster = fs.volume.rootCluster

def Filesystem.Climbs (medium : Medium) (above : Nat → Filesystem) (count : Nat) : Prop :=
  ∀ step < count,
    ((above step).changeDirectory ".." : Attempt Empty _).run.result medium = .ok (above (step + 1))

theorem Filesystem.up_cases {medium : Medium} {fs next : Filesystem}
    (mountable : Path.IsMountPoint fs.mountPoint)
    (went : (fs.changeDirectory ".." : Attempt Empty _).run.result medium = .ok next) :
    (fs.AtRoot ∧ next = fs) ∨
      (¬ fs.AtRoot ∧ ∃ parent, next = { fs with current := fs.current.ascend parent }) := by
  have up : Path.Move.ofPiece "..".toList = .up := by decide
  rw [result_changeDirectory, resolveOn_of_slashless mountable (by decide), up] at went
  cases stepped : fs.stepOn medium fs.current .up with
  | error error =>
    rw [stepped] at went
    cases went
  | ok location =>
    rw [stepped] at went
    cases went
    cases stepOn_eq_ok_iff.mp stepped with
    | top atRoot => exact .inl ⟨atRoot, rfl⟩
    | up away found => exact .inr ⟨away, _, rfl⟩

theorem Reachable.proper_mountPoint {medium : Medium} {fs : Filesystem} {ledger : Ledger}
    (reachable : Reachable medium fs ledger) :
    Path.IsMountPoint fs.mountPoint ∧ fs.current.Proper fs.mountPoint := by
  obtain ⟨mountPoint, mountable, proper⟩ := reachable.proper
  have mounted : fs.mountPoint = mountPoint := proper.mounted
  exact mounted ▸ ⟨mountable, proper⟩

namespace Filesystem.Climbs

variable {medium : Medium} {above : Nat → Filesystem} {count : Nat} {ledger : Ledger}
  (climbs : Climbs medium above count) (reachable : Reachable medium (above 0) ledger)

include climbs reachable

theorem reachable_at {step : Nat} (within : step ≤ count) :
    ∃ ledger, Reachable medium (above step) ledger := by
  induction step with
  | zero => exact ⟨ledger, reachable⟩
  | succ step ih =>
    obtain ⟨ledger, reached⟩ := ih (Nat.le_of_succ_le within)
    have next : (((Call.changeDirectory "..").run (above step) : Scan Empty _).result medium).1 =
        above (step + 1) := by
      rw [Call.run, result_advance, climbs step within]
      rfl
    exact ⟨_, next ▸ reached.called (.changeDirectory "..")⟩

theorem cases_at {step : Nat} (within : step < count) :
    ((above step).AtRoot ∧ above (step + 1) = above step) ∨
      (¬ (above step).AtRoot ∧ ∃ parent, above (step + 1) =
        { above step with current := (above step).current.ascend parent }) := by
  obtain ⟨ledger, reached⟩ := climbs.reachable_at reachable (Nat.le_of_lt within)
  exact up_cases reached.proper_mountPoint.1 (climbs step within)

theorem fixed {step : Nat} (within : step ≤ count) :
    (above step).volume = (above 0).volume ∧ (above step).mountPoint = (above 0).mountPoint := by
  induction step with
  | zero => exact ⟨rfl, rfl⟩
  | succ step ih =>
    obtain ⟨volume, mountPoint⟩ := ih (Nat.le_of_succ_le within)
    rcases climbs.cases_at reachable within with ⟨-, same⟩ | ⟨-, parent, next⟩
    · rw [same]
      exact ⟨volume, mountPoint⟩
    · rw [next]
      exact ⟨volume, mountPoint⟩

theorem stays {step later : Nat} (atRoot : (above step).AtRoot) (ordered : step ≤ later)
    (within : later ≤ count) : above later = above step := by
  induction later, ordered using Nat.le_induction with
  | base => rfl
  | succ later _ ih =>
    have same := ih (Nat.le_of_succ_le within)
    rcases climbs.cases_at reachable within with ⟨-, next⟩ | ⟨away, -⟩
    · rw [next, same]
    · rw [same] at away
      exact absurd atRoot away

theorem length_le {step : Nat} (within : step ≤ count) :
    (above 0).current.components.length ≤ (above step).current.components.length + step := by
  induction step with
  | zero => exact Nat.le_refl _
  | succ step ih =>
    have before := ih (Nat.le_of_succ_le within)
    rcases climbs.cases_at reachable within with ⟨-, same⟩ | ⟨-, parent, next⟩
    · rw [same]
      omega
    · simp only [next, Location.components_ascend, List.length_dropLast]
      omega

theorem length_eq {step : Nat} (within : step ≤ count)
    (away : ∀ earlier < step, ¬ (above earlier).AtRoot) :
    (above step).current.components.length = (above 0).current.components.length - step := by
  induction step with
  | zero => rfl
  | succ step ih =>
    have before := ih (Nat.le_of_succ_le within) fun earlier passed =>
      away earlier (Nat.lt_succ_of_lt passed)
    rcases climbs.cases_at reachable within with ⟨atRoot, -⟩ | ⟨-, parent, next⟩
    · exact absurd atRoot (away step (Nat.lt_succ_self step))
    · simp only [next, Location.components_ascend, List.length_dropLast, before]
      omega

theorem nil_later {step later : Nat} (nothing : (above step).current.components = [])
    (ordered : step ≤ later) (within : later ≤ count) :
    (above later).current.components = [] := by
  induction later, ordered using Nat.le_induction with
  | base => exact nothing
  | succ later _ ih =>
    have before := ih (Nat.le_of_succ_le within)
    rcases climbs.cases_at reachable within with ⟨-, same⟩ | ⟨-, parent, next⟩
    · rw [same, before]
    · simp [next, before]

/-- As many ways up as there are names lead to the mount point exactly when none of them starts at
the root directory. -/
theorem path_eq_mountPoint_iff (enough : (above 0).current.components.length ≤ count) :
    (above count).current.path = (above 0).mountPoint ↔
      ∀ step < (above 0).current.components.length, ¬ (above step).AtRoot := by
  obtain ⟨_, reached⟩ := climbs.reachable_at reachable (Nat.le_refl count)
  have names := reached.proper_mountPoint.2.names
  have mounted : (above 0).mountPoint = (above count).current.mountPoint :=
    (climbs.fixed reachable (Nat.le_refl count)).2.symm
  rw [mounted, Location.path_eq_mountPoint_iff names]
  constructor
  · intro nothing step early atRoot
    have within : step ≤ count := by omega
    have left := climbs.length_le reachable within
    rw [← climbs.stays reachable atRoot within (Nat.le_refl count), nothing] at left
    simp only [List.length_nil] at left
    omega
  · intro away
    have spent := climbs.length_eq reachable enough away
    rw [Nat.sub_self] at spent
    exact climbs.nil_later reachable (List.length_eq_zero_iff.mp spent) enough (Nat.le_refl count)

/-- On a consistent tree the cluster of a position is that of the root directory only at the mount
point. -/
theorem not_atRoot (consistent : (above 0).volume.Consistent medium) {step : Nat}
    (within : step ≤ count) (early : step < (above 0).current.components.length) :
    ¬ (above step).AtRoot := by
  intro atRoot
  obtain ⟨_, reached⟩ := climbs.reachable_at reachable within
  rw [← (climbs.fixed reachable within).1] at consistent
  have nothing := ((reached.leads consistent).eq_root_iff consistent).mp atRoot
  have left := climbs.length_le reachable within
  rw [nothing, List.length_nil] at left
  omega

end Filesystem.Climbs

/-- A way up away from the root directory takes the last name off the path, and at the root
directory ways up lead nowhere. So as many of them as there are names lead to the mount point
exactly when the root directory is not met too early, as it never is on a device whose `..` records
say where their directories were found. -/
theorem ascents_stop_at_root {medium : Medium} {fs : Filesystem} {ledger : Ledger}
    (reachable : Reachable medium fs ledger) {above : Nat → Filesystem} {count : Nat}
    (starts : above 0 = fs) (climbs : Filesystem.Climbs medium above count) :
    let depth := fs.current.components.length
    (∀ step < count, ¬ (above step).AtRoot →
      (above (step + 1)).current.components = (above step).current.components.dropLast ∧
      ∀ below : (above step).current.components ≠ [],
        (above step).current.path = Path.withSlash (above (step + 1)).current.path ++
          (above step).current.components.getLast below) ∧
    (∀ step later, step ≤ later → later ≤ count → (above step).AtRoot →
      above later = above step) ∧
    (depth ≤ count →
      ((above count).current.path = fs.mountPoint ↔ ∀ step < depth, ¬ (above step).AtRoot)) ∧
    (fs.volume.Consistent medium → depth ≤ count →
      (above count).current.path = fs.mountPoint) := by
  subst starts
  intro depth
  refine ⟨?_, ?_, climbs.path_eq_mountPoint_iff reachable, ?_⟩
  · intro step within away
    obtain ⟨_, reached⟩ := climbs.reachable_at reachable (Nat.le_of_lt within)
    rcases climbs.cases_at reachable within with ⟨atRoot, -⟩ | ⟨-, parent, next⟩
    · exact absurd atRoot away
    · rw [next]
      exact ⟨rfl, fun below =>
        Location.path_eq_ascend reached.proper_mountPoint.2.names below parent⟩
  · intro step later ordered within atRoot
    exact climbs.stays reachable atRoot ordered within
  · intro consistent enough
    apply (climbs.path_eq_mountPoint_iff reachable enough).mpr
    intro step early
    exact climbs.not_atRoot reachable consistent (by omega) early

/-- Two ways up from the directory `1`, the second one from the root directory. -/
theorem ascents_stop_at_root_tree :
    let fs : Filesystem := ⟨.small, ⟨2, "/x/y", []⟩, .empty⟩
    let inside : Filesystem := ⟨.small, ⟨3, "/x/y", ["1"]⟩, .empty⟩
    let above (step : Nat) : Filesystem := if step = 0 then inside else fs
    ∃ ledger,
      Reachable Volume.treeMedium inside ledger ∧
      Filesystem.Climbs Volume.treeMedium above 2 ∧
      ¬ (above 0).AtRoot ∧ (above 0).current.path = "/x/y/1" ∧
      (above 1).current.components = (above 0).current.components.dropLast ∧
      (above 1).AtRoot ∧ above 2 = above 1 ∧
      (above 2).current.path = "/x/y" := by
  intro fs inside above
  have mounted : Reachable Volume.treeMedium fs .empty :=
    .small rfl rfl (by decide)
  have entered : (((Call.changeDirectory "1").run fs : Scan Empty _).result
    Volume.treeMedium).1 = inside := by decide +kernel
  have reachable := entered ▸ mounted.called (.changeDirectory "1")
  have climbs : Filesystem.Climbs Volume.treeMedium above 2 := by
    intro step early
    have first : (inside.changeDirectory ".." : Attempt Empty _).run.result Volume.treeMedium =
      .ok fs := eq_ok_of_toOption (by decide +kernel)
    have second : (fs.changeDirectory ".." : Attempt Empty _).run.result Volume.treeMedium =
      .ok fs := eq_ok_of_toOption (by decide +kernel)
    match step with
    | 0 => exact first
    | 1 => exact second
  have starts : above 0 = inside := rfl
  obtain ⟨steps, stays, -, arrives⟩ := ascents_stop_at_root reachable starts climbs
  have away : ¬ (above 0).AtRoot := by
    change (3 : UInt32) ≠ 2
    decide
  exact ⟨_, reachable, climbs, away, by decide +kernel, (steps 0 (by decide) away).1, rfl,
    stays 1 2 (by decide) (by decide) rfl, arrives Volume.consistent_tree (by decide)⟩

/-- A device with the small volume. Its root directory holds the directory `A`, whose record names
cluster 0 and thus the root directory. -/
def Volume.aliasMedium : Medium := fun lba =>
  match lba.toNat with
  | 0 => .ok smallBoot
  | 1 => .ok (.ofList 512 [0xF8, 0xFF, 0xFF, 0x0F, 0xFF, 0xFF, 0xFF, 0x0F, 0xFF, 0xFF, 0xFF, 0x0F])
  | 2 => .ok (.ofList 512 [0x41, 0x20, 0x20, 0x20, 0x20, 0x20, 0x20, 0x20, 0x20, 0x20, 0x20, 0x10])
  | _ => .error .readError

/-- A way up can succeed one name below the mount point and take nothing off the path. -/
theorem ascents_stop_below_mount_point :
    let inside : Filesystem := ⟨.small, ⟨2, "/home", ["a"]⟩, .empty⟩
    ∃ ledger,
      Reachable Volume.aliasMedium inside ledger ∧
      Filesystem.Climbs Volume.aliasMedium (fun _ => inside) inside.current.components.length ∧
      inside.current.path = "/home/a" ∧ inside.mountPoint = "/home" := by
  intro inside
  let fs : Filesystem := ⟨.small, ⟨2, "/home", []⟩, .empty⟩
  have mounted : Reachable Volume.aliasMedium fs .empty :=
    .small rfl rfl (by decide)
  have entered : (((Call.changeDirectory "a").run fs : Scan Empty _).result
    Volume.aliasMedium).1 = inside := by decide +kernel
  have up : (inside.changeDirectory ".." : Attempt Empty _).run.result Volume.aliasMedium =
    .ok inside := eq_ok_of_toOption (by decide +kernel)
  exact ⟨_, entered ▸ mounted.called (.changeDirectory "a"), fun _ _ => up, by decide +kernel, rfl⟩

end Fat32
