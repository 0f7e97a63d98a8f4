import Fat32.Proofs.Name.Spelling
import Fat32.Proofs.Path.Lookup

/-!
Paths without regard to case. A folded name fits the same entries and a folded
path has the same slashes, dots and size, so folding commutes with every step of
a walk (`stepOn_folded`), and two paths that fold to the same text are walked
side by side.
-/

namespace Fat32

theorem Query.ofString_fold (name : String) : ofString (Text.fold name) = ofString name := by
  unfold ofString
  rw [Text.fold_fold, ShortName.ofString?_fold]

namespace Entry

theorem isNamed_fold (name : String) :
    (fun entry : Entry => entry.isNamed (Text.fold name)) = (·.isNamed name) := by
  unfold isNamed
  rw [Query.ofString_fold]

theorem isDirectoryNamed_fold (name : String) :
    isDirectoryNamed (Text.fold name) = isDirectoryNamed name := by
  funext entry
  have named : entry.isNamed (Text.fold name) = entry.isNamed name :=
    congrFun (isNamed_fold name) entry
  rw [isDirectoryNamed, isDirectoryNamed, named]

end Entry

namespace Path

def Move.folded : Move → Move
  | .down name => .down (Text.fold name)
  | move => move

theorem toLower_eq_slash_iff (c : Char) : c.toLower = '/' ↔ c = '/' :=
  Text.toLower_eq_iff (by decide) (by decide)

theorem pieces_map_toLower (text : List Char) :
    pieces (text.map Char.toLower) = (pieces text).map (List.map Char.toLower) := by
  induction text with
  | nil => rfl
  | cons c rest ih =>
    rw [List.map_cons, pieces, pieces, ih]
    by_cases slash : c = '/'
    · rw [if_pos ((toLower_eq_slash_iff c).mpr slash), if_pos slash]
      rfl
    · rw [if_neg (mt (toLower_eq_slash_iff c).mp slash), if_neg slash]
      cases pieces rest <;> rfl

theorem Move.ofPiece_map_toLower (piece : List Char) :
    ofPiece (piece.map Char.toLower) = (ofPiece piece).folded := by
  have stays : piece.map Char.toLower = ['.'] ↔ piece = ['.'] :=
    Text.map_toLower_eq_iff (by decide)
  have rises : piece.map Char.toLower = ['.', '.'] ↔ piece = ['.', '.'] :=
    Text.map_toLower_eq_iff (by decide)
  unfold ofPiece
  simp only [List.map_eq_nil_iff, stays, rises]
  split
  · rfl
  · split
    · rfl
    · rw [folded, Text.fold_ofList]

theorem moves_fold (path : String) : moves (Text.fold path) = (moves path).map Move.folded := by
  unfold moves
  rw [Text.toList_fold, pieces_map_toLower, List.map_map, List.map_map]
  exact List.map_congr_left fun piece _ => Move.ofPiece_map_toLower piece

theorem splitLast_fold (path : String) :
    splitLast (Text.fold path) =
      (Text.fold (splitLast path).1, Text.fold (splitLast path).2) := by
  have test : (· != '/') ∘ Char.toLower = (· != '/') :=
    Text.bne_comp_toLower (by decide) (by decide)
  unfold splitLast
  simp only [Text.toList_fold, Text.fold_ofList, ← List.map_reverse, List.dropWhile_map,
    List.takeWhile_map, test]

theorem splitLast_append_eq (path : String) : (splitLast path).1 ++ (splitLast path).2 = path := by
  rw [← String.toList_inj]
  unfold splitLast
  simp [← List.reverse_append]

theorem isEntryName_fold (name : String) : isEntryName (Text.fold name) = isEntryName name := by
  have empty : Text.fold name = "" ↔ name = "" := Text.fold_eq_iff (by decide)
  have self : Text.fold name = "." ↔ name = "." := Text.fold_eq_iff (by decide)
  have parent : Text.fold name = ".." ↔ name = ".." := Text.fold_eq_iff (by decide)
  rw [Bool.eq_iff_iff]
  simp [isEntryName, empty, self, parent]

theorem head?_fold (path : String) :
    (Text.fold path).toList.head? = some '/' ↔ path.toList.head? = some '/' := by
  rw [Text.toList_fold, List.head?_map]
  cases path.toList.head? with
  | none => rfl
  | some c => simp [toLower_eq_slash_iff]

end Path

namespace Location

variable (location : Location)

/-- The same directory under a path in lower case. -/
def folded : Location := { location with components := location.components.map Text.fold }

theorem fold_intercalate (names : List String) :
    Text.fold ("/".intercalate names) = "/".intercalate (names.map Text.fold) := by
  induction names with
  | nil => rw [List.map_nil, String.intercalate_nil, Text.fold_eq_iff (by decide)]
  | cons first rest ih =>
    cases rest with
    | nil => simp
    | cons second rest =>
      have slash : Text.fold "/" = "/" := (Text.fold_eq_iff (by decide)).mpr rfl
      rw [String.intercalate_cons_cons, Text.fold_append, Text.fold_append, slash, ih]
      exact String.intercalate_cons_cons.symm

theorem fold_path_folded : Text.fold location.folded.path = Text.fold location.path := by
  by_cases below : location.components = []
  · have same : location.folded.path = location.path := by
      unfold folded path
      rw [below]
      rfl
    rw [same]
  · have belowFolded : location.folded.components ≠ [] := by simpa [folded] using below
    have stem : location.folded.stem = location.stem := rfl
    rw [path_of_components belowFolded, path_of_components below, stem, Text.fold_append,
      Text.fold_append, fold_intercalate, fold_intercalate, folded, List.map_map]
    congr 2
    exact List.map_congr_left fun name _ => Text.fold_fold name

theorem ascend_folded (cluster : UInt32) :
    location.folded.ascend cluster = (location.ascend cluster).folded := by
  rw [ascend, ascend, folded, folded, List.map_dropLast]

/-- Folding keeps the number of bytes in a path, so one is too long where the other is. -/
theorem descend_folded (cluster : UInt32) (name : String) :
    location.folded.descend cluster (Text.fold name) =
      (location.descend cluster name).map folded := by
  let below : Location := { location with cluster, components := location.components ++ [name] }
  have deeper : { location.folded with
      cluster, components := location.folded.components ++ [Text.fold name] } = below.folded := by
    simp [folded, below]
  have size : below.folded.path.utf8ByteSize = below.path.utf8ByteSize := by
    rw [← Text.utf8ByteSize_fold, fold_path_folded, Text.utf8ByteSize_fold]
  unfold descend
  dsimp only
  rw [deeper, size]
  split <;> rfl

end Location

namespace Filesystem

variable (medium : Medium) (fs : Filesystem)

theorem stepOn_folded (location : Location) (move : Path.Move) :
    fs.stepOn medium location.folded move.folded =
      (fs.stepOn medium location move).map Location.folded := by
  cases move with
  | stay => rfl
  | up =>
    have cluster : location.folded.cluster = location.cluster := rfl
    unfold Path.Move.folded stepOn
    dsimp only
    rw [cluster]
    split
    · rfl
    · rcases fs.volume.firstOn medium location.cluster Entry.isParent with error | (_ | parent)
      · rfl
      · rfl
      · exact congrArg Except.ok (location.ascend_folded _)
  | down name =>
    have cluster : location.folded.cluster = location.cluster := rfl
    unfold Path.Move.folded stepOn
    dsimp only
    rw [cluster, Entry.isDirectoryNamed_fold]
    rcases fs.volume.firstOn medium location.cluster (Entry.isDirectoryNamed name)
      with error | (_ | entry)
    · rfl
    · rfl
    · exact location.descend_folded _ name

theorem walkOn_folded (location : Location) (moves : List Path.Move) :
    fs.walkOn medium location.folded (moves.map Path.Move.folded) =
      (fs.walkOn medium location moves).map Location.folded := by
  induction moves generalizing location with
  | nil => rfl
  | cons move rest ih =>
    rw [List.map_cons, walkOn, walkOn, stepOn_folded]
    cases fs.stepOn medium location move with
    | error error => rfl
    | ok next => exact ih next

section Relative

variable {medium fs} (mountable : Path.IsMountPoint fs.mountPoint) {path : String}
  (relative : path.toList.head? ≠ some '/')

include mountable relative

/-- Where a path leads is seen, up to case, from the path in lower case. -/
theorem resolveOn_folded :
    (fs.resolveOn medium path).map Location.folded =
      fs.walkOn medium fs.current.folded (Path.moves (Text.fold path)) := by
  rw [resolveOn_of_relative mountable.absolute relative, Path.moves_fold, walkOn_folded]

theorem lookupOn_fold : fs.lookupOn medium (Text.fold path) = fs.lookupOn medium path := by
  have stem : (Path.splitLast path).1.toList.head? ≠ some '/' := by
    intro starts
    apply relative
    rw [← Path.splitLast_append_eq path, String.toList_append, List.head?_append, starts]
    rfl
  have stemFolded : (Text.fold (Path.splitLast path).1).toList.head? ≠ some '/' :=
    mt (Path.head?_fold _).mp stem
  have same : (fs.resolveOn medium (Text.fold (Path.splitLast path).1)).map Location.folded = _ :=
    resolveOn_folded mountable stemFolded
  rw [Text.fold_fold, ← resolveOn_folded mountable stem] at same
  unfold lookupOn
  rw [Path.splitLast_fold, Path.isEntryName_fold, Entry.isNamed_fold]
  dsimp only
  generalize fs.resolveOn medium (Text.fold (Path.splitLast path).1) = left at same
  generalize fs.resolveOn medium (Path.splitLast path).1 = right at same
  cases left with
  | error error =>
    cases right with
    | error other =>
      cases same
      rfl
    | ok location => cases same
  | ok location =>
    cases right with
    | error error => cases same
    | ok other =>
      have folded : location.folded = other.folded := Except.ok.inj same
      have cluster : location.folded.cluster = other.folded.cluster := by rw [folded]
      change location.cluster = other.cluster at cluster
      dsimp only
      rw [cluster]

end Relative

end Filesystem

/-- Relative paths that differ in the case of ASCII letters only find the same entry, or fail in the
same way. They lead to the same directory as well, under paths that differ in case only. -/
theorem resolution_ignores_case (medium : Medium) {fs : Filesystem}
    (mountable : Path.IsMountPoint fs.mountPoint) {path other : String}
    (relative : path.toList.head? ≠ some '/') (same : Text.fold path = Text.fold other) :
    let found (path : String) := (fs.lookup path : Attempt Empty _).run.result medium
    let resolved (path : String) := (fs.resolve path : Attempt Empty _).run.result medium
    found path = found other ∧
      (resolved path).map (fun location => (location.cluster, Text.fold location.path)) =
        (resolved other).map fun location => (location.cluster, Text.fold location.path) := by
  have relativeToo : other.toList.head? ≠ some '/' := by
    rwa [Ne, ← Path.head?_fold, ← same, Path.head?_fold]
  intro found resolved
  have looked (path : String) : found path = fs.lookupOn medium path :=
    Filesystem.result_lookup medium fs path
  have leads (path : String) : resolved path = fs.resolveOn medium path :=
    Filesystem.result_resolve medium fs path
  simp only [looked, leads]
  constructor
  · rw [← Filesystem.lookupOn_fold mountable relative, same,
      Filesystem.lookupOn_fold mountable relativeToo]
  · have folded : (fs.resolveOn medium path).map Location.folded =
        (fs.resolveOn medium other).map Location.folded := by
      rw [Filesystem.resolveOn_folded mountable relative, same,
        Filesystem.resolveOn_folded mountable relativeToo]
    -- Folding keeps the cluster and the path in lower case, so they can be read off behind it.
    have kept (answer : Except Error Location) :
        answer.map (fun location => (location.cluster, Text.fold location.path)) =
          (answer.map Location.folded).map fun location =>
            (location.cluster, Text.fold location.path) := by
      cases answer with
      | error error => rfl
      | ok location =>
        exact congrArg (fun path => Except.ok (location.cluster, path))
          location.fold_path_folded.symm
    rw [kept, folded, ← kept]

/-- Two ways of writing the path to the file `a` below `b`, of which the last name spells the short
name of the file. It is also a way to the directory `a` behind that file. -/
theorem resolution_ignores_case_twins :
    let fs : Filesystem := ⟨.small, ⟨2, "/home", []⟩, .empty⟩
    let found (path : String) := (fs.lookup path : Attempt Empty _).run.result Volume.twinMedium
    let resolved (path : String) :=
      (fs.resolve path : Attempt Empty _).run.result Volume.twinMedium
    Path.IsMountPoint fs.mountPoint ∧ "B/a.".toList.head? ≠ some '/' ∧
      Text.fold "B/a." = Text.fold "b/A." ∧
      found "B/a." = .ok .twinFile ∧ found "b/A." = .ok .twinFile ∧
      resolved "B/a." = .ok ⟨3, "/home", ["B", "a."]⟩ ∧
      (resolved "b/A.").map (fun location => (location.cluster, Text.fold location.path)) =
        .ok (3, "/home/b/a.") := by
  intro fs found resolved
  have mountable : Path.IsMountPoint fs.mountPoint :=
    Filesystem.reachable_twins.proper_mountPoint.1
  have same : Text.fold "B/a." = Text.fold "b/A." := by
    rw [← String.toList_inj, Text.toList_fold, Text.toList_fold]
    decide
  have first : found "B/a." = .ok .twinFile := eq_ok_of_toOption (by decide +kernel)
  have leads : resolved "B/a." = .ok ⟨3, "/home", ["B", "a."]⟩ :=
    eq_ok_of_toOption (by decide +kernel)
  let shown (location : Location) := (location.cluster, Text.fold location.path)
  have agrees : found "B/a." = found "b/A." ∧
      (resolved "B/a.").map shown = (resolved "b/A.").map shown :=
    resolution_ignores_case Volume.twinMedium mountable (by decide) same
  have path : Text.fold (⟨3, "/home", ["B", "a."]⟩ : Location).path = "/home/b/a." := by
    rw [← String.toList_inj, Text.toList_fold]
    decide
  have lower : (resolved "B/a.").map shown = .ok (3, "/home/b/a.") :=
    (congrArg (Except.map shown) leads).trans (congrArg (fun path => Except.ok (3, path)) path)
  exact ⟨mountable, by decide, same, first, agrees.1.symm.trans first, leads,
    agrees.2.symm.trans lower⟩

end Fat32
