import Fat32.Proofs.Handle.History
import Fat32.Proofs.Name.Spelling
import Fat32.Proofs.Path.Canonical
import Fat32.Proofs.Path.Walks

/-!
Paths as names of directories. A position knows its path from the way down and
its cluster from the device, where a way up follows what a `..` record says. On
a device whose `..` records say where their directories were found, the two
belong together: the path of a position leads to its cluster.
-/

namespace Fat32

theorem Entry.isNamed_eq_false_of_isParent {entry : Entry} {name : String}
    (component : Path.IsComponent name) (isParent : entry.isParent = true)
    (listed : entry.name = "..") : entry.isNamed name = false := by
  rw [Bool.eq_false_iff]
  intro named
  rcases (Bool.or_eq_true _ _).mp named with folded | spelled
  · have same : Text.fold entry.name = Text.fold name := eq_of_beq folded
    have dots {text : String} : Text.fold text = ".." ↔ text = ".." := Text.fold_eq_iff (by decide)
    rw [dots.mpr listed] at same
    exact component.notParent (dots.mp same.symm)
  · have first := ShortName.first_of_ofString? (eq_of_beq spelled)
    have raw : entry.shortName.raw.toList[0]? = some 0x2E := congrArg (·[0]?) (eq_of_beq isParent)
    rw [Vector.getElem?_toList] at raw
    exact first raw

namespace Volume

variable (volume : Volume) (medium : Medium)

/-- The first directory of that name in a directory starts at `child`. Number 0 stands for the
root directory. -/
def Descends (parent : UInt32) (name : String) (child : UInt32) : Prop :=
  ∃ entry, volume.firstOn medium parent (Entry.isDirectoryNamed name) = .ok (some entry) ∧
    child = if entry.cluster = 0 then volume.rootCluster else entry.cluster

/-- Going down from the root directory by these names leads to a cluster. -/
inductive Leads : List String → UInt32 → Prop
  | root : Leads [] volume.rootCluster
  | snoc {components : List String} {parent child : UInt32} {name : String} :
      Leads components parent → Path.IsComponent name →
      volume.Descends medium parent name child → Leads (components ++ [name]) child

/-- No way down leads back to the root directory, and the first `..` record of every directory on
the way names the directory above. -/
def Consistent : Prop :=
  ∀ ⦃components : List String⦄ ⦃parent child : UInt32⦄ ⦃name : String⦄,
    volume.Leads medium components parent → Path.IsComponent name →
    volume.Descends medium parent name child →
    child ≠ volume.rootCluster ∧
      ∃ entry, volume.firstOn medium child Entry.isParent = .ok (some entry) ∧
        (entry.cluster = parent ∨ parent = volume.rootCluster ∧ entry.cluster = 0)

variable {volume medium} {components : List String} {cluster : UInt32}

theorem Leads.last (leads : volume.Leads medium components cluster) (below : components ≠ []) :
    ∃ parent, volume.Leads medium components.dropLast parent ∧
      Path.IsComponent (components.getLast below) ∧
      volume.Descends medium parent (components.getLast below) cluster := by
  cases leads with
  | root => exact absurd rfl below
  | snoc above component descends =>
    rw [List.dropLast_concat, List.getLast_concat]
    exact ⟨_, above, component, descends⟩

/-- A record that names cluster 0 stands for the root directory, so nothing leads to cluster 0. -/
theorem Leads.rootCluster_of_zero (leads : volume.Leads medium components cluster)
    (zero : cluster = 0) : volume.rootCluster = 0 := by
  cases leads with
  | root => exact zero
  | snoc above component descends =>
    obtain ⟨entry, -, rfl⟩ := descends
    split at zero
    · exact zero
    · contradiction

section Consistent

variable (consistent : volume.Consistent medium) (leads : volume.Leads medium components cluster)

include consistent leads

theorem Leads.eq_root_iff : cluster = volume.rootCluster ↔ components = [] := by
  cases leads with
  | root => exact ⟨fun _ => rfl, fun _ => rfl⟩
  | snoc above component descends =>
    have apart := (consistent above component descends).1
    simp [apart]

theorem Leads.up (below : components ≠ []) :
    ∃ parent entry, volume.Leads medium components.dropLast parent ∧
      volume.Descends medium parent (components.getLast below) cluster ∧
      volume.firstOn medium cluster Entry.isParent = .ok (some entry) ∧
      (if entry.cluster = 0 then volume.rootCluster else entry.cluster) = parent := by
  obtain ⟨parent, above, component, descends⟩ := leads.last below
  obtain ⟨-, entry, found, names⟩ := consistent above component descends
  refine ⟨parent, entry, above, descends, found, ?_⟩
  rcases names with same | ⟨atRoot, zero⟩
  · split
    · rename_i zero
      exact (above.rootCluster_of_zero (same.symm.trans zero)).trans (same.symm.trans zero).symm
    · exact same
  · rw [if_pos zero, atRoot]

end Consistent

end Volume

namespace Filesystem

variable {medium : Medium} {fs : Filesystem} {location next : Location} {mountPoint : String}

theorem stepOn_down {name : String} {child : UInt32}
    (descends : fs.volume.Descends medium location.cluster name child) :
    fs.stepOn medium location (.down name) = location.descend child name := by
  obtain ⟨entry, found, rfl⟩ := descends
  unfold stepOn
  dsimp only
  rw [found]
  rfl

section Consistent

variable (consistent : fs.volume.Consistent medium)

include consistent

theorem stepOn_up (leads : fs.volume.Leads medium location.components location.cluster)
    (below : location.components ≠ []) :
    ∃ parent, fs.volume.Leads medium location.components.dropLast parent ∧
      fs.volume.Descends medium parent (location.components.getLast below) location.cluster ∧
      fs.stepOn medium location .up = .ok (location.ascend parent) := by
  obtain ⟨parent, entry, above, descends, found, names⟩ := leads.up consistent below
  refine ⟨parent, above, descends, ?_⟩
  have notRoot : location.cluster ≠ fs.volume.rootCluster :=
    fun atRoot => below ((leads.eq_root_iff consistent).mp atRoot)
  have went := stepOn_eq_ok_iff.mpr (.up notRoot found)
  unfold target at went
  rwa [names] at went

theorem Steps.leads {move : Path.Move} (steps : fs.Steps medium location move next)
    (leads : fs.volume.Leads medium location.components location.cluster)
    (component : ∀ name, move = .down name → Path.IsComponent name) :
    fs.volume.Leads medium next.components next.cluster := by
  cases steps with
  | stay => exact leads
  | top => exact leads
  | up away found =>
    have below : location.components ≠ [] :=
      fun nothing => away ((leads.eq_root_iff consistent).mpr nothing)
    obtain ⟨parent, entry, above, -, first, names⟩ := leads.up consistent below
    cases found.symm.trans first
    subst names
    exact above
  | down found went =>
    obtain ⟨-, rfl⟩ := Location.descend_eq_ok_iff.mp went
    exact leads.snoc (component _ rfl) ⟨_, found, rfl⟩

theorem resolveOn_leads (leads : fs.volume.Leads medium fs.current.components fs.current.cluster)
    {path : String} (resolved : fs.resolveOn medium path = .ok next) :
    fs.volume.Leads medium next.components next.cluster := by
  let Holds (location : Location) := fs.volume.Leads medium location.components location.cluster
  have root (start : Location) (made : fs.rootLocation = .ok start) : Holds start := by
    obtain ⟨-, rfl⟩ := Location.root_eq_ok_iff.mp made
    exact .root
  refine resolveOn_invariant ?_ (leads : Holds fs.current) root resolved
  rintro move member location next leads steps
  refine steps.leads consistent leads ?_
  rintro name rfl
  exact Path.isComponent_of_mem_moves member

end Consistent

end Filesystem

namespace Location

variable {location : Location} {mountPoint : String}

/-- The path of a position reads back as the moves on the way down, and perhaps one that stays. -/
theorem Proper.splitRoot_path (proper : location.Proper mountPoint) :
    ∃ rest, Path.splitRoot location.path mountPoint = (true, rest) ∧
      (Path.moves rest = location.components.map .down ∨
        Path.moves rest = .stay :: location.components.map .down) := by
  have mounted := proper.mounted
  by_cases below : location.components = []
  · have here : location.path = mountPoint ++ "" := by
      unfold path
      rw [below, String.append_empty]
      exact mounted
    refine ⟨"", ?_, .inr ?_⟩
    · rw [here]
      exact Path.splitRoot_append rfl
    · rw [below]
      rfl
  · have written : location.path = Path.withSlash mountPoint ++
        "/".intercalate location.components := mounted ▸ path_of_components below
    have down := Path.moves_intercalate below proper.names
    unfold Path.withSlash at written
    by_cases ends : Path.endsInSlash mountPoint = true
    · rw [if_pos ends] at written
      refine ⟨"/".intercalate location.components, ?_, .inl down⟩
      rw [written]
      exact Path.splitRoot_append (by rw [ends, Bool.or_true])
    · rw [if_neg ends, String.append_assoc] at written
      refine ⟨"/" ++ "/".intercalate location.components, ?_, .inr ?_⟩
      · rw [written]
        exact Path.splitRoot_append (by simp)
      · rw [← down, Path.moves, Path.moves, String.toList_append]
        rfl

end Location

namespace Filesystem

variable {medium : Medium} {fs : Filesystem} {mountPoint : String}

theorem walkOn_down {components : List String} {cluster : UInt32}
    (leads : fs.volume.Leads medium components cluster)
    (proper : Location.Proper mountPoint ⟨cluster, mountPoint, components⟩) :
    fs.walkOn medium ⟨fs.volume.rootCluster, mountPoint, []⟩ (components.map .down) =
      .ok ⟨cluster, mountPoint, components⟩ := by
  induction leads with
  | root => rfl
  | @snoc components parent child name above component descends ih =>
    have properAbove : Location.Proper mountPoint ⟨parent, mountPoint, components⟩ := by
      have ascended := proper.ascend parent
      unfold Location.ascend at ascended
      rwa [List.dropLast_concat] at ascended
    rw [List.map_append, walkOn_append, ih properAbove]
    change fs.walkOn medium ⟨parent, mountPoint, components⟩ [.down name] = _
    have moved : fs.stepOn medium ⟨parent, mountPoint, components⟩ (.down name) = _ :=
      stepOn_down descends
    rw [walkOn_singleton, moved]
    exact Location.descend_eq_ok_iff.mpr ⟨proper.short, rfl⟩

theorem resolveOn_path (mountable : Path.IsMountPoint mountPoint)
    (proper : fs.current.Proper mountPoint)
    (leads : fs.volume.Leads medium fs.current.components fs.current.cluster) :
    fs.resolveOn medium fs.current.path = .ok fs.current := by
  have mounted : fs.mountPoint = mountPoint := proper.mounted
  have start : fs.rootLocation = .ok ⟨fs.volume.rootCluster, mountPoint, []⟩ :=
    Location.root_eq_ok_iff.mpr ⟨mounted ▸ mountable.short, mounted ▸ rfl⟩
  have here : fs.current = ⟨fs.current.cluster, mountPoint, fs.current.components⟩ := by
    rw [← mounted]
    rfl
  have properHere : Location.Proper mountPoint
      ⟨fs.current.cluster, mountPoint, fs.current.components⟩ := here ▸ proper
  have walked := walkOn_down leads properHere
  obtain ⟨rest, split, moves⟩ := proper.splitRoot_path
  unfold resolveOn origin
  rw [mounted, split, if_pos rfl, start]
  dsimp only
  rcases moves with moves | moves
  · rw [moves, walked, ← here]
  · rw [moves, walkOn]
    change fs.walkOn medium _ _ = _
    rw [walked, ← here]

theorem resolveOn_of_slashless (mountable : Path.IsMountPoint fs.mountPoint) {name : String}
    (slashless : '/' ∉ name.toList) :
    fs.resolveOn medium name = fs.stepOn medium fs.current (.ofPiece name.toList) := by
  have single : Path.moves name = [.ofPiece name.toList] := by
    rw [Path.moves, Path.pieces_eq_splitOn, List.splitOn_eq_singleton slashless]
    rfl
  unfold resolveOn origin
  rw [Path.splitRoot_of_slashless mountable.absolute slashless]
  exact single ▸ walkOn_singleton medium fs fs.current _

theorem resolveOn_component (fs : Filesystem) (mountable : Path.IsMountPoint fs.mountPoint)
    {name : String} (component : Path.IsComponent name) {child : UInt32} {below : Location}
    (descends : fs.volume.Descends medium fs.current.cluster name child)
    (proper : below.Proper mountPoint) (here : below =
      { fs.current with cluster := child, components := fs.current.components ++ [name] }) :
    fs.resolveOn medium name = .ok below := by
  rw [resolveOn_of_slashless mountable component.slashless,
    Path.Move.ofPiece_of_isComponent component, stepOn_down descends]
  exact Location.descend_eq_ok_iff.mpr ⟨proper.short, here⟩

end Filesystem

theorem Filesystem.result_run_changeDirectory {medium : Medium} (fs : Filesystem) (path : String) :
    ((Call.changeDirectory path).run fs : Scan Empty _).result medium =
      match fs.resolveOn medium path with
      | .ok location => ({ fs with current := location }, .ok ())
      | .error error => (fs, .error error) := by
  rw [Call.run, result_advance, result_changeDirectory]
  cases fs.resolveOn medium path <;> rfl

namespace Reachable

variable {medium : Medium} {fs : Filesystem} {ledger : Ledger}

theorem proper (reachable : Reachable medium fs ledger) :
    ∃ mountPoint, Path.IsMountPoint mountPoint ∧ fs.current.Proper mountPoint := by
  induction reachable with
  | @mounted files start mountPoint fs answered =>
    have fresh := Filesystem.fresh_of_mount answered
    exact ⟨mountPoint, fresh.mountable, .root fresh.root⟩
  | called call _ ih =>
    obtain ⟨mountPoint, mountable, proper⟩ := ih
    exact ⟨mountPoint, mountable, (Call.run_keeps_proper proper call).result medium⟩

/-- What holds of the root directory after a mount and is kept by every path that resolves holds of
the current directory. No other call moves. -/
theorem current_invariant {motive : Volume → Location → Prop}
    (root : ∀ (volume : Volume) (start : Location), volume.WellFormed →
      start.cluster = volume.rootCluster → start.components = [] → motive volume start)
    (moved : ∀ (fs : Filesystem) (path : String) (next : Location), fs.volume.WellFormed →
      motive fs.volume fs.current → fs.resolveOn medium path = .ok next → motive fs.volume next)
    (reachable : Reachable medium fs ledger) : motive fs.volume fs.current := by
  induction reachable with
  | @mounted files start mountPoint fs answered =>
    have fresh := Filesystem.fresh_of_mount answered
    have atRoot := (Location.root_eq_ok_iff.mp fresh.root).2
    exact root _ _ fresh.wellFormed (by rw [atRoot]) (by rw [atRoot])
  | @called fs ledger call before ih =>
    by_cases moves : ∃ path, call = .changeDirectory path
    · obtain ⟨path, rfl⟩ := moves
      rw [Filesystem.result_run_changeDirectory]
      cases resolved : fs.resolveOn medium path with
      | error error => exact ih
      | ok location => exact moved fs path location before.kept.wellFormed ih resolved
    · have here : fs.Stands fs.volume fs.current := ⟨rfl, rfl⟩
      have stands := (Call.run_stays (κ := Empty) here (not_exists.mp moves)).result medium
      rw [stands.volume_eq, stands.current_eq]
      exact ih

/-- On a consistent tree its names lead to its cluster. -/
theorem leads (reachable : Reachable medium fs ledger) (consistent : fs.volume.Consistent medium) :
    fs.volume.Leads medium fs.current.components fs.current.cluster := by
  let Holds (volume : Volume) (location : Location) : Prop :=
    volume.Consistent medium → volume.Leads medium location.components location.cluster
  refine current_invariant (motive := Holds) ?_ ?_ reachable consistent
  · intro volume start _ atRoot nothing _
    rw [atRoot, nothing]
    exact .root
  · intro fs path next _ leads resolved consistent
    exact Filesystem.resolveOn_leads consistent (leads consistent) resolved

end Reachable

/-- On a device whose `..` records say where their directories were found, the path of the current
directory leads to it, whatever was called before. And whoever goes up and then down again by the
last name of the old path is back. -/
theorem paths_name_directories {medium : Medium} {fs : Filesystem} {ledger : Ledger}
    (reachable : Reachable medium fs ledger) (consistent : fs.volume.Consistent medium) :
    (fs.resolve fs.current.path : Attempt Empty _).run.result medium = .ok fs.current ∧
      (fs.current.cluster ≠ fs.volume.rootCluster ∨ fs.current.path ≠ fs.mountPoint →
        ∃ above,
          (fs.changeDirectory ".." : Attempt Empty _).run.result medium = .ok above ∧
          (above.changeDirectory (Path.splitLast fs.current.path).2 : Attempt Empty _).run.result
            medium = .ok fs) := by
  obtain ⟨mountPoint, mountable, proper⟩ := reachable.proper
  have leads := reachable.leads consistent
  constructor
  · rw [Filesystem.result_resolve]
    exact Filesystem.resolveOn_path mountable proper leads
  · intro elsewhere
    have below : fs.current.components ≠ [] := by
      intro nothing
      rcases elsewhere with away | away
      · exact away ((leads.eq_root_iff consistent).mpr nothing)
      · apply away
        unfold Location.path
        rw [nothing]
        rfl
    have mounted : fs.mountPoint = mountPoint := proper.mounted
    rw [← mounted] at mountable
    obtain ⟨parent, -, descends, up⟩ := Filesystem.stepOn_up consistent leads below
    have component := proper.names _ (List.getLast_mem below)
    have name : (Path.splitLast fs.current.path).2 = fs.current.components.getLast below := by
      rw [Location.path_eq_ascend proper.names below parent,
        Path.splitLast_append (Path.endsInSlash_withSlash _) component.slashless]
    have back : fs.current = { fs.current.ascend parent with
        cluster := fs.current.cluster
        components := (fs.current.ascend parent).components ++
          [fs.current.components.getLast below] } := by
      unfold Location.ascend
      rw [List.dropLast_concat_getLast below]
    let above : Filesystem := { fs with current := fs.current.ascend parent }
    have down : above.resolveOn medium (fs.current.components.getLast below) = .ok fs.current :=
      Filesystem.resolveOn_component above mountable component descends proper back
    refine ⟨above, ?_, ?_⟩
    · rw [Filesystem.result_changeDirectory,
        Filesystem.resolveOn_of_slashless mountable (by decide)]
      exact congrArg (Except.map _) up
    · rw [Filesystem.result_changeDirectory, name, down]
      rfl

/-- A device with the small volume. Its root directory holds the directory `1`, which holds nothing
but the record for the directory above. -/
def Volume.treeMedium : Medium := fun lba =>
  match lba.toNat with
  | 0 => .ok smallBoot
  | 1 => .ok (.ofList 512 [0xF8, 0xFF, 0xFF, 0x0F, 0xFF, 0xFF, 0xFF, 0x0F, 0xFF, 0xFF, 0xFF, 0x0F,
      0xFF, 0xFF, 0xFF, 0x0F])
  | 2 => .ok (.ofList 512 [0x31, 0x20, 0x20, 0x20, 0x20, 0x20, 0x20, 0x20, 0x20, 0x20, 0x20, 0x10,
      0, 0, 0, 0, 0, 0, 0, 0, 0, 0, 0, 0, 0, 0, 3])
  | 3 => .ok (.ofList 512 [0x2E, 0x2E, 0x20, 0x20, 0x20, 0x20, 0x20, 0x20, 0x20, 0x20, 0x20, 0x10])
  | _ => .error .readError

theorem Volume.consistent_tree : small.Consistent treeMedium := by
  have root : ∀ entry ∈ (Directory.entries small 2).run.itemsOn treeMedium, entry.cluster = 3 := by
    decide +kernel
  have inner : ∀ entry ∈ (Directory.entries small 3).run.itemsOn treeMedium,
      entry.name = ".." ∧ entry.isParent = true ∧ entry.cluster = 0 := by decide +kernel
  have upward : (((Directory.entries small 3).run.itemsOn treeMedium).find?
      Entry.isParent).isSome = true := by decide +kernel
  have fromRoot {name : String} {child : UInt32}
      (descends : small.Descends treeMedium 2 name child) : child = 3 := by
    obtain ⟨entry, found, rfl⟩ := descends
    rw [root entry (mem_of_firstOn found).1]
    rfl
  have fromInner {name : String} (component : Path.IsComponent name) {child : UInt32} :
      ¬ small.Descends treeMedium 3 name child := by
    rintro ⟨entry, found, -⟩
    obtain ⟨member, passes⟩ := mem_of_firstOn found
    obtain ⟨listed, isParent, -⟩ := inner entry member
    rw [Entry.isDirectoryNamed, Entry.isNamed_eq_false_of_isParent component isParent listed,
      Bool.and_false] at passes
    cases passes
  have either {components : List String} {cluster : UInt32}
      (leads : small.Leads treeMedium components cluster) : cluster = 2 ∨ cluster = 3 := by
    induction leads with
    | root => exact .inl rfl
    | snoc above component descends ih =>
      rcases ih with rfl | rfl
      · exact .inr (fromRoot descends)
      · exact absurd descends (fromInner component)
  intro components parent child name leads component descends
  rcases either leads with rfl | rfl
  · obtain rfl := fromRoot descends
    obtain ⟨entry, first⟩ := Option.isSome_iff_exists.mp upward
    have atRoot := (inner entry (List.mem_of_find?_eq_some first)).2.2
    refine ⟨by decide, entry, ?_, .inr ⟨rfl, atRoot⟩⟩
    unfold firstOn
    rw [first]
  · exact absurd descends (fromInner component)

/-- The walk into `1` takes detours, and a walk to `b` fails behind it. -/
theorem paths_name_directories_small :
    let fs : Filesystem := ⟨.small, ⟨2, "/x/y", []⟩, .empty⟩
    let entered := (((Call.changeDirectory "/x/y//1/.").run fs : Scan Empty _).result
      Volume.treeMedium).1
    let reached := (((Call.changeDirectory "../b").run entered : Scan Empty _).result
      Volume.treeMedium).1
    ∃ ledger,
      Reachable Volume.treeMedium reached ledger ∧
      reached.volume.Consistent Volume.treeMedium ∧
      reached.current = ⟨3, "/x/y", ["1"]⟩ ∧
      (reached.resolve reached.current.path : Attempt Empty _).run.result Volume.treeMedium =
        .ok reached.current ∧
      reached.current.cluster ≠ reached.volume.rootCluster ∧
      ∃ above,
        (reached.changeDirectory ".." : Attempt Empty _).run.result Volume.treeMedium =
          .ok above ∧
        (above.changeDirectory (Path.splitLast reached.current.path).2 : Attempt Empty _).run.result
          Volume.treeMedium = .ok reached := by
  intro fs entered reached
  have mounted : Reachable Volume.treeMedium fs .empty :=
    .small rfl rfl (by decide)
  have state : reached = ⟨.small, ⟨3, "/x/y", ["1"]⟩, .empty⟩ := by decide +kernel
  have reachable : ∃ ledger, Reachable Volume.treeMedium reached ledger :=
    ⟨_, (mounted.called (.changeDirectory "/x/y//1/.")).called (.changeDirectory "../b")⟩
  -- How the state was reached is not needed any more, and evaluating it again is slow.
  clear_value reached
  subst state
  obtain ⟨ledger, reachable⟩ := reachable
  have away : (3 : UInt32) ≠ Volume.small.rootCluster := by decide
  obtain ⟨resolved, back⟩ := paths_name_directories reachable Volume.consistent_tree
  exact ⟨ledger, reachable, Volume.consistent_tree, rfl, resolved, away, back (.inl away)⟩

end Fat32
