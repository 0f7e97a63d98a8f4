import Fat32.Proofs.Path.Tree

/-!
Paths written behind one another. A slash ends a component, so the moves of two
paths with a slash between them are those of the first and then those of the
second. Where the only slash of the mount point is its first character, the
slash between them does not complete the mount point either, and the second path
is walked from the directory that the first one leads to.
-/

namespace Fat32

namespace Filesystem

variable {medium : Medium} {fs : Filesystem} {location next : Location}

theorem Steps.mountPoint {move : Path.Move} (steps : fs.Steps medium location move next) :
    next.mountPoint = location.mountPoint := by
  cases steps with
  | stay => rfl
  | top => rfl
  | up => rfl
  | down found went =>
    obtain ⟨-, rfl⟩ := Location.descend_eq_ok_iff.mp went
    rfl

theorem mountPoint_of_resolveOn {path : String}
    (resolved : fs.resolveOn medium path = .ok next) : next.mountPoint = fs.mountPoint := by
  let Holds (location : Location) := location.mountPoint = fs.mountPoint
  have root (start : Location) (made : fs.rootLocation = .ok start) : Holds start := by
    obtain ⟨-, rfl⟩ := Location.root_eq_ok_iff.mp made
    rfl
  refine resolveOn_invariant ?_ (rfl : Holds fs.current) root resolved
  intro move member location next mounted steps
  exact steps.mountPoint.trans mounted

theorem resolveOn_of_relative (absolute : ∃ rest, fs.mountPoint.toList = '/' :: rest)
    {path : String} (relative : path.toList.head? ≠ some '/') :
    fs.resolveOn medium path = fs.walkOn medium fs.current (Path.moves path) := by
  unfold resolveOn origin
  rw [Path.splitRoot_of_relative absolute relative]
  rfl

section Single

variable {name : List Char} (single : fs.mountPoint.toList = '/' :: name) (slashless : '/' ∉ name)
  {path : String} (nonempty : path ≠ "") (further : String)

include single slashless nonempty

theorem resolveOn_append_slash :
    fs.resolveOn medium (path ++ "/" ++ further) =
      match fs.resolveOn medium path with
      | .ok location => fs.walkOn medium location (Path.moves further)
      | .error error => .error error := by
  have written : path.toList ≠ [] := fun same => nonempty (String.toList_inj.mp same)
  have split := Path.splitRoot_append_slash single slashless written further
  have start : fs.origin (path ++ "/" ++ further) = fs.origin path := by
    unfold origin
    rw [split]
  unfold resolveOn
  rw [start, split]
  cases fs.origin path with
  | error error => rfl
  | ok start =>
    dsimp only
    rw [Path.moves_append_slash]
    exact walkOn_append medium fs start _ _

/-- The second path is relative to the directory that the first one leads to. -/
theorem resolveOn_joined (relative : further.toList.head? ≠ some '/') :
    fs.resolveOn medium (path ++ "/" ++ further) =
      match fs.resolveOn medium path with
      | .ok location => { fs with current := location }.resolveOn medium further
      | .error error => .error error := by
  rw [resolveOn_append_slash single slashless nonempty]
  cases resolved : fs.resolveOn medium path with
  | error error => rfl
  | ok location =>
    let reached : Filesystem := { fs with current := location }
    have mounted : reached.mountPoint = fs.mountPoint := mountPoint_of_resolveOn resolved
    have onward : reached.resolveOn medium further = reached.walkOn medium location _ :=
      resolveOn_of_relative ⟨name, mounted ▸ single⟩ relative
    exact (onward.trans (fs.walkOn_current medium location location _)).symm

end Single

end Filesystem

/-- A path behind another one and a slash leads where it leads from the directory that the first one
leads to, whatever the current directory is, and fails as the first one or from there. So a slash at
the end of a path changes nothing. -/
theorem joined_paths_compose (medium : Medium) {fs : Filesystem} {name : List Char}
    (single : fs.mountPoint.toList = '/' :: name) (slashless : '/' ∉ name) {path : String}
    (nonempty : path ≠ "") :
    let resolve (fs : Filesystem) (path : String) :=
      (fs.resolve path : Attempt Empty _).run.result medium
    (∀ further : String, further.toList.head? ≠ some '/' →
      resolve fs (path ++ "/" ++ further) =
        match resolve fs path with
        | .ok location => resolve { fs with current := location } further
        | .error error => .error error) ∧
    resolve fs (path ++ "/") = resolve fs path := by
  intro resolve
  have leads (fs : Filesystem) (path : String) : resolve fs path = fs.resolveOn medium path :=
    Filesystem.result_resolve medium fs path
  simp only [leads]
  refine ⟨fun further relative =>
    Filesystem.resolveOn_joined single slashless nonempty further relative, ?_⟩
  have trailing : fs.resolveOn medium (path ++ "/" ++ "") = _ :=
    Filesystem.resolveOn_append_slash single slashless nonempty ""
  rw [String.append_empty] at trailing
  rw [trailing]
  cases fs.resolveOn medium path with
  | error error => rfl
  | ok location => rfl

/-- The path of the directory `1`, and behind it the way up from there and down again. -/
theorem joined_paths_compose_tree :
    let inside : Filesystem := ⟨.small, ⟨3, "/x", ["1"]⟩, .empty⟩
    let resolve (fs : Filesystem) (path : String) :=
      (fs.resolve path : Attempt Empty _).run.result Volume.treeMedium
    inside.mountPoint.toList = ['/', 'x'] ∧ '/' ∉ ['x'] ∧ "/x/1" ≠ "" ∧
      "../1".toList.head? ≠ some '/' ∧
      resolve inside "/x/1" = .ok inside.current ∧
      resolve inside ("/x/1" ++ "/" ++ "../1") = .ok inside.current ∧
      resolve inside ("/x/1" ++ "/") = .ok inside.current := by
  intro inside resolve
  have single : inside.mountPoint.toList = ['/', 'x'] := by decide
  have nonempty : "/x/1" ≠ "" := by decide
  have arrived : resolve inside "/x/1" = .ok inside.current :=
    eq_ok_of_toOption (by decide +kernel)
  have onward : resolve { inside with current := inside.current } "../1" = .ok inside.current :=
    eq_ok_of_toOption (by decide +kernel)
  obtain ⟨composes, trailing⟩ :=
    joined_paths_compose Volume.treeMedium single (by decide) nonempty
  have joined := composes "../1" (by decide)
  change resolve inside _ = match resolve inside _ with | .ok _ => _ | .error _ => _ at joined
  rw [arrived] at joined
  exact ⟨single, by decide, nonempty, by decide, arrived, joined.trans onward,
    trailing.trans arrived⟩

end Fat32
