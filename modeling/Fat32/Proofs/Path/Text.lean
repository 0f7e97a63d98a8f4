import Mathlib.Data.List.Basic
import Fat32.Path.Basic

/-!
The texts of paths. Cutting a text at its slashes and joining the pieces again
are inverse to each other, so names that are joined by slashes read back as the
moves down to these names (`moves_intercalate`), and the name behind the last
slash is the last of them (`splitLast_append`).
-/

namespace Fat32.Path

/-- What can stand between two slashes of a path that makes no detours. -/
structure IsComponent (name : String) : Prop where
  nonempty : name ≠ ""
  slashless : '/' ∉ name.toList
  notSelf : name ≠ "."
  notParent : name ≠ ".."

/-- What `checkMountPoint` asks for. -/
structure IsMountPoint (text : String) : Prop where
  short : text.utf8ByteSize ≤ maxBytes
  absolute : ∃ rest, text.toList = '/' :: rest
  eq_slash : endsInSlash text = true → text = "/"

theorem isMountPoint_of_check {text : String} (accepted : checkMountPoint text = .ok ()) :
    IsMountPoint text := by
  unfold checkMountPoint at accepted
  split at accepted
  · cases accepted
  · rename_i short
    split at accepted
    · cases accepted
    · rename_i absolute
      split at accepted
      · cases accepted
      · rename_i bare
        have starts : text.toList.head? = some '/' := by simpa using absolute
        obtain ⟨rest, starts⟩ := List.head?_eq_some_iff.mp starts
        refine ⟨Nat.le_of_not_lt short, ⟨rest, starts⟩, fun ends => ?_⟩
        have single : text.length ≤ 1 := by simpa [ends] using bare
        rw [← String.length_toList, starts, List.length_cons] at single
        have nothing : rest = [] := List.length_eq_zero_iff.mp (by omega)
        rw [nothing] at starts
        exact String.toList_inj.mp starts

/-- A text with a slash at its end, behind which a name can be written. -/
def withSlash (text : String) : String := if endsInSlash text then text else text ++ "/"

section Pieces

theorem pieces_eq_splitOn (text : List Char) : pieces text = text.splitOn '/' := by
  induction text with
  | nil => rfl
  | cons c rest ih =>
    rw [pieces, List.splitOn_cons_eq_if_modifyHead, ih]
    by_cases slash : c = '/'
    · simp [slash]
    · obtain ⟨first, others, split⟩ :=
        List.exists_cons_of_ne_nil (List.splitOn_ne_nil '/' rest)
      simp [slash, split]

theorem slash_notMem_of_mem_pieces {text piece : List Char} (member : piece ∈ pieces text) :
    '/' ∉ piece := by
  induction text generalizing piece with
  | nil =>
    cases List.mem_singleton.mp member
    exact List.not_mem_nil
  | cons c rest ih =>
    unfold pieces at member
    by_cases slash : c = '/'
    · rw [if_pos slash] at member
      rcases List.mem_cons.mp member with rfl | later
      · exact List.not_mem_nil
      · exact ih later
    · rw [if_neg slash] at member
      cases split : pieces rest with
      | nil =>
        rw [split] at member
        cases List.mem_singleton.mp member
        simp [Ne.symm slash]
      | cons first others =>
        rw [split] at member ih
        rcases List.mem_cons.mp member with rfl | later
        · simp [Ne.symm slash, ih List.mem_cons_self]
        · exact ih (List.mem_cons_of_mem _ later)

theorem pieces_append_slash (front rest : List Char) :
    pieces (front ++ '/' :: rest) = pieces front ++ pieces rest := by
  induction front with
  | nil => rfl
  | cons c front ih =>
    rw [List.cons_append, pieces, pieces, ih]
    by_cases slash : c = '/'
    · rw [if_pos slash, if_pos slash, List.cons_append]
    · rw [if_neg slash, if_neg slash]
      have nonempty : pieces front ≠ [] := by
        rw [pieces_eq_splitOn]
        exact List.splitOn_ne_nil '/' front
      obtain ⟨first, others, cut⟩ := List.exists_cons_of_ne_nil nonempty
      rw [cut, List.cons_append, List.cons_append]

theorem toList_append_slash (front rest : String) :
    (front ++ "/" ++ rest).toList = front.toList ++ '/' :: rest.toList := by
  rw [String.toList_append, String.toList_append, List.append_assoc]
  rfl

theorem moves_append_slash (front rest : String) :
    moves (front ++ "/" ++ rest) = moves front ++ moves rest := by
  rw [moves, toList_append_slash, pieces_append_slash, List.map_append]
  rfl

theorem Move.ofPiece_of_isComponent {name : String} (component : IsComponent name) :
    Move.ofPiece name.toList = .down name := by
  have nonempty : name.toList ≠ [] := fun same => component.nonempty (String.toList_inj.mp same)
  have notSelf : name.toList ≠ ['.'] := fun same => component.notSelf (String.toList_inj.mp same)
  have notParent : name.toList ≠ ['.', '.'] :=
    fun same => component.notParent (String.toList_inj.mp same)
  simp [ofPiece, nonempty, notSelf, notParent]

theorem isComponent_of_mem_moves {path name : String} (member : .down name ∈ moves path) :
    IsComponent name := by
  obtain ⟨piece, inPath, moved⟩ := List.mem_map.mp member
  have slashless := slash_notMem_of_mem_pieces inPath
  unfold Move.ofPiece at moved
  split at moved
  · cases moved
  · rename_i notStay
    split at moved
    · cases moved
    · rename_i notUp
      cases moved
      obtain ⟨nonempty, notSelf⟩ : piece ≠ [] ∧ piece ≠ ['.'] := by simpa using notStay
      constructor
      · exact fun same => nonempty (String.ofList_inj.mp same)
      · rwa [String.toList_ofList]
      · exact fun same => notSelf (String.ofList_inj.mp same)
      · exact fun same => notUp (String.ofList_inj.mp same)

/-- Names that are joined by slashes read back as the moves down to them. -/
theorem moves_intercalate {components : List String} (nonempty : components ≠ [])
    (proper : ∀ name ∈ components, IsComponent name) :
    moves ("/".intercalate components) = components.map .down := by
  have slashless : ∀ piece ∈ components.map String.toList, '/' ∉ piece := by
    intro piece member
    obtain ⟨name, inPath, rfl⟩ := List.mem_map.mp member
    exact (proper name inPath).slashless
  have cut : pieces ("/".intercalate components).toList = components.map String.toList := by
    rw [pieces_eq_splitOn, String.toList_intercalate]
    exact List.splitOn_intercalate '/' slashless (by simpa using nonempty)
  rw [moves, cut, List.map_map]
  apply List.map_congr_left
  intro name member
  exact Move.ofPiece_of_isComponent (proper name member)

end Pieces

section Ends

variable {text name : String}

theorem endsInSlash_append (nonempty : name ≠ "") :
    endsInSlash (text ++ name) = endsInSlash name := by
  have some : name.toList ≠ [] := fun same => nonempty (String.toList_inj.mp same)
  unfold endsInSlash
  rw [String.toList_append, List.getLast?_append, List.getLast?_eq_some_getLast some]
  rfl

theorem endsInSlash_withSlash (text : String) : endsInSlash (withSlash text) = true := by
  unfold withSlash
  by_cases ends : endsInSlash text = true
  · rwa [if_pos ends]
  · rw [if_neg ends, endsInSlash_append (by decide)]
    decide

theorem utf8ByteSize_le_withSlash (text : String) :
    text.utf8ByteSize ≤ (withSlash text).utf8ByteSize := by
  unfold withSlash
  split
  · exact Nat.le_refl _
  · rw [String.utf8ByteSize_append]
    exact Nat.le_add_right _ _

theorem IsComponent.not_endsInSlash (component : IsComponent name) : endsInSlash name = false := by
  rw [Bool.eq_false_iff]
  intro ends
  have last := eq_of_beq ends
  exact component.slashless (List.mem_of_getLast? last)

theorem splitLast_of_stem (stem : text = "" ∨ endsInSlash text = true)
    (slashless : '/' ∉ name.toList) : splitLast (text ++ name) = (text, name) := by
  have passes : ∀ c ∈ name.toList.reverse, (c != '/') = true := by
    intro c member
    rw [bne_iff_ne]
    rintro rfl
    exact slashless (List.mem_reverse.mp member)
  have reversed : (text ++ name).toList.reverse = name.toList.reverse ++ text.toList.reverse := by
    rw [String.toList_append, List.reverse_append]
  unfold splitLast
  dsimp only
  rw [reversed, List.dropWhile_append_of_pos passes, List.takeWhile_append_of_pos passes]
  rcases stem with rfl | ends
  · simp
  · obtain ⟨front, same⟩ := List.getLast?_eq_some_iff.mp (eq_of_beq ends)
    have first : text.toList.reverse = '/' :: front.reverse := by
      rw [same, List.reverse_append]
      rfl
    rw [first]
    simp [← same]

theorem splitLast_append (ends : endsInSlash text = true) (slashless : '/' ∉ name.toList) :
    splitLast (text ++ name) = (text, name) :=
  splitLast_of_stem (.inr ends) slashless

theorem exists_moves_append (stem : text = "" ∨ endsInSlash text = true)
    (component : IsComponent name) :
    ∃ before, moves text = before ++ [.stay] ∧ moves (text ++ name) = before ++ [.down name] := by
  have last : moves name = [.down name] := by
    rw [moves, pieces_eq_splitOn, List.splitOn_eq_singleton component.slashless]
    exact congrArg ([·]) (Move.ofPiece_of_isComponent component)
  rcases stem with rfl | ends
  · exact ⟨[], rfl, by rw [String.empty_append, last, List.nil_append]⟩
  · obtain ⟨front, same⟩ := List.getLast?_eq_some_iff.mp (eq_of_beq ends)
    have written : text = .ofList front ++ "/" := by
      rw [← String.toList_inj, same, String.toList_append, String.toList_ofList]
      rfl
    refine ⟨moves (.ofList front), ?_, ?_⟩
    · have trailing := moves_append_slash (.ofList front) ""
      rwa [String.append_empty, ← written] at trailing
    · rw [written, moves_append_slash, last]

end Ends

section Root

variable {mountPoint : String}

/-- A path that starts with the mount point is absolute, if a component of it ends there. -/
theorem splitRoot_append {rest : String}
    (apart : (rest.toList.isEmpty || rest.toList.head? == some '/' || endsInSlash mountPoint) =
      true) : splitRoot (mountPoint ++ rest) mountPoint = (true, rest) := by
  have cut : mountPoint.toList.isPrefixOf? (mountPoint ++ rest).toList = some rest.toList :=
    List.isPrefixOf?_eq_some_iff_append_eq.mpr String.toList_append.symm
  unfold splitRoot afterMountPoint?
  rw [cut, Option.filter_some, if_pos apart]
  simp

theorem splitRoot_of_relative (absolute : ∃ rest, mountPoint.toList = '/' :: rest) {path : String}
    (relative : path.toList.head? ≠ some '/') : splitRoot path mountPoint = (false, path) := by
  obtain ⟨rest, starts⟩ := absolute
  have apart : mountPoint.toList.isPrefixOf? path.toList = none := by
    rw [Option.eq_none_iff_forall_ne_some]
    intro behind cut
    rw [List.isPrefixOf?_eq_some_iff_append_eq, starts] at cut
    exact relative (cut ▸ rfl)
  unfold splitRoot afterMountPoint?
  rw [apart, Option.filter_none]
  split
  · contradiction
  · rename_i written
    exact absurd (written ▸ rfl) relative
  · rfl

theorem splitRoot_of_slashless (absolute : ∃ rest, mountPoint.toList = '/' :: rest) {name : String}
    (slashless : '/' ∉ name.toList) : splitRoot name mountPoint = (false, name) :=
  splitRoot_of_relative absolute fun starts => slashless (List.mem_of_head? starts)

section Single

variable {name : List Char} (single : mountPoint.toList = '/' :: name) (slashless : '/' ∉ name)
  {path : String} (nonempty : path.toList ≠ []) (further : String)

include single slashless nonempty

/-- Where the only slash of a mount point is its first character, a slash behind a path does not
complete the mount point. -/
theorem afterMountPoint?_append_slash :
    afterMountPoint? (path ++ "/" ++ further) mountPoint =
      (afterMountPoint? path mountPoint).map (· ++ '/' :: further.toList) := by
  unfold afterMountPoint?
  rw [toList_append_slash]
  cases cut : mountPoint.toList.isPrefixOf? path.toList with
  | some rest =>
    have whole := List.isPrefixOf?_eq_some_iff_append_eq.mp cut
    have longer : mountPoint.toList.isPrefixOf? (path.toList ++ '/' :: further.toList) =
        some (rest ++ '/' :: further.toList) := by
      rw [List.isPrefixOf?_eq_some_iff_append_eq, ← whole, List.append_assoc]
    rw [longer, Option.filter_some, Option.filter_some]
    cases rest with
    | nil => simp
    | cons first others =>
      by_cases apart : (first == '/' || endsInSlash mountPoint) = true <;> simp [apart]
  | none =>
    have still : mountPoint.toList.isPrefixOf? (path.toList ++ '/' :: further.toList) = none := by
      rw [Option.eq_none_iff_forall_ne_some]
      intro behind longer
      rw [List.isPrefixOf?_eq_some_iff_append_eq] at longer
      have apart (rest : List Char) : mountPoint.toList ++ rest ≠ path.toList := by
        intro same
        rw [← List.isPrefixOf?_eq_some_iff_append_eq, cut] at same
        cases same
      rcases List.append_eq_append_iff.mp longer with ⟨middle, inPath, -⟩ | ⟨middle, inside, more⟩
      · exact apart middle inPath.symm
      · cases middle with
        | nil => exact apart [] (by rw [inside, List.append_nil, List.append_nil])
        | cons c middle =>
          obtain ⟨first, others, written⟩ := List.exists_cons_of_ne_nil nonempty
          rw [single, written, List.cons_append] at inside
          cases (List.cons.inj more).1
          exact slashless ((List.cons.inj inside).2 ▸ List.mem_append_right _ List.mem_cons_self)
    rw [still]
    rfl

theorem splitRoot_append_slash :
    splitRoot (path ++ "/" ++ further) mountPoint =
      ((splitRoot path mountPoint).1, (splitRoot path mountPoint).2 ++ "/" ++ further) := by
  obtain ⟨first, others, written⟩ := List.exists_cons_of_ne_nil nonempty
  by_cases slash : first = '/'
  · have joined (rest : List Char) : String.ofList (rest ++ '/' :: further.toList) =
        String.ofList rest ++ "/" ++ further := by
      rw [← String.toList_inj, toList_append_slash, String.toList_ofList, String.toList_ofList]
    unfold splitRoot
    rw [afterMountPoint?_append_slash single slashless nonempty, toList_append_slash, written,
      slash]
    cases afterMountPoint? path mountPoint with
    | some rest => exact congrArg (Prod.mk true) (joined rest)
    | none => exact congrArg (Prod.mk true) (joined others)
  · have relative : path.toList.head? ≠ some '/' := by simpa [written] using slash
    have still : (path ++ "/" ++ further).toList.head? ≠ some '/' := by
      simpa [toList_append_slash, written] using slash
    rw [splitRoot_of_relative ⟨name, single⟩ relative, splitRoot_of_relative ⟨name, single⟩ still]

end Single

end Root

end Fat32.Path
