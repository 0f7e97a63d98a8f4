import Fat32.Proofs.Path.Canonical
import Fat32.Proofs.Text

/-!
The path of a position as a text that is edited in place. A name is written
behind it, with a slash in front unless there is one already (`Path.push`), and
is cut off again at the last slash, but never into the mount point (`Path.pop`).
What every move makes of the names of a position, these edits make of its path.
-/

namespace Fat32

namespace Path

/-- The number of bytes in front of the last slash. -/
def lastSlash? (text : String) : Option Nat :=
  let (front, _) := splitLast text
  if front = "" then none else some (front.utf8ByteSize - 1)

/-- Characters from the start on, as many as take at most so many bytes. -/
def takeBytes : Nat → List Char → List Char
  | _, [] => []
  | bytes, c :: rest => if c.utf8Size ≤ bytes then c :: takeBytes (bytes - c.utf8Size) rest else []

def truncate (text : String) (bytes : Nat) : String := .ofList (takeBytes bytes text.toList)

def push (path name : String) : Except Error String :=
  let separator := if endsInSlash path then "" else "/"
  if maxBytes < path.utf8ByteSize + separator.utf8ByteSize + name.utf8ByteSize then
    .error .nameTooLong
  else .ok (path ++ separator ++ name)

/-- Cut off the last name, but none of the first `rootBytes` bytes. -/
def pop (path : String) (rootBytes : Nat) : String :=
  truncate path <|
    match lastSlash? path with
    | some place => if rootBytes ≤ place then place else rootBytes
    | none => rootBytes

theorem takeBytes_append (front rest : List Char) :
    takeBytes (Text.utf8Size front) (front ++ rest) = front := by
  induction front with
  | nil =>
    cases rest with
    | nil => rfl
    | cons c rest => exact if_neg (Nat.not_le_of_lt c.utf8Size_pos)
  | cons c front ih =>
    rw [List.cons_append, takeBytes, Text.utf8Size, if_pos (Nat.le_add_right _ _),
      Nat.add_sub_cancel_left, ih]

theorem truncate_append (front rest : String) :
    truncate (front ++ rest) front.utf8ByteSize = front := by
  rw [truncate, String.toList_append, ← Text.utf8Size_toList, takeBytes_append,
    String.ofList_toList]

theorem truncate_self (text : String) : truncate text text.utf8ByteSize = text := by
  have cut := truncate_append text ""
  rwa [String.append_empty] at cut

theorem push_eq (path name : String) :
    push path name =
      if maxBytes < (withSlash path ++ name).utf8ByteSize then .error .nameTooLong
      else .ok (withSlash path ++ name) := by
  have separated : withSlash path = path ++ if endsInSlash path then "" else "/" := by
    unfold withSlash
    split
    · rw [String.append_empty]
    · rfl
  rw [separated, String.utf8ByteSize_append, String.utf8ByteSize_append]
  rfl

theorem lastSlash?_withSlash {path name : String} (slashless : '/' ∉ name.toList) :
    lastSlash? (withSlash path ++ name) = some ((withSlash path).utf8ByteSize - 1) := by
  have ends := endsInSlash_withSlash path
  have nonempty : withSlash path ≠ "" := by
    intro empty
    rw [empty] at ends
    exact Bool.noConfusion ends
  rw [lastSlash?, splitLast_append ends slashless]
  exact if_neg nonempty

theorem splitLast_append_self (path : String) : (splitLast path).1 ++ (splitLast path).2 = path := by
  rw [← String.toList_inj, String.toList_append]
  unfold splitLast
  dsimp only
  rw [String.toList_ofList, String.toList_ofList, ← List.reverse_append,
    List.takeWhile_append_dropWhile, List.reverse_reverse]

theorem lastSlash?_lt {path : String} {place : Nat} (found : lastSlash? path = some place) :
    place < path.utf8ByteSize := by
  have whole := congrArg String.utf8ByteSize (splitLast_append_self path)
  rw [String.utf8ByteSize_append] at whole
  unfold lastSlash? at found
  dsimp only at found
  split at found
  · cases found
  · rename_i nonempty
    have positive : (splitLast path).1.utf8ByteSize ≠ 0 := by
      rwa [Ne, String.utf8ByteSize_eq_zero_iff]
    cases found
    omega

theorem pop_withSlash {path name : String} {rootBytes : Nat} (slashless : '/' ∉ name.toList)
    (inside : rootBytes ≤ path.utf8ByteSize)
    (whole : endsInSlash path = true → rootBytes = path.utf8ByteSize) :
    pop (withSlash path ++ name) rootBytes = path := by
  rw [pop, lastSlash?_withSlash slashless]
  dsimp only
  unfold withSlash
  by_cases ends : endsInSlash path = true
  · have positive : path.utf8ByteSize ≠ 0 := by
      rw [Ne, String.utf8ByteSize_eq_zero_iff]
      rintro rfl
      exact Bool.noConfusion ends
    rw [if_pos ends, if_neg (by have := whole ends; omega), whole ends, truncate_append]
  · have slash : "/".utf8ByteSize = 1 := rfl
    rw [if_neg ends, String.utf8ByteSize_append, slash, Nat.add_sub_cancel, if_pos inside,
      String.append_assoc, truncate_append]

end Path

namespace Location.Proper

variable {mountPoint name : String} {location : Location}

theorem push_path (proper : location.Proper mountPoint) (cluster : UInt32) (name : String) :
    Path.push location.path name = (location.descend cluster name).map Location.path := by
  rw [Path.push_eq, ← path_snoc proper.names cluster name]
  unfold Location.descend
  dsimp only
  split <;> rfl

theorem pop_path (proper : location.Proper mountPoint) (mountable : Path.IsMountPoint mountPoint)
    (cluster : UInt32) :
    Path.pop location.path mountPoint.utf8ByteSize = (location.ascend cluster).path := by
  by_cases below : location.components = []
  · have here : location.path = mountPoint := by
      unfold path
      rw [below]
      exact proper.mounted
    have stays : (location.ascend cluster).path = mountPoint := by
      unfold Location.ascend path
      rw [below]
      exact proper.mounted
    -- Every slash lies within the mount point, so the cut is at its end and takes nothing away.
    rw [here, stays, Path.pop]
    split
    · rename_i place found
      have inside := Path.lastSlash?_lt found
      rw [if_neg (Nat.not_le_of_lt inside), Path.truncate_self]
    · exact Path.truncate_self mountPoint
  · have slashless := (proper.names _ (List.getLast_mem below)).slashless
    have above := proper.ascend cluster
    obtain ⟨rest, begins⟩ := (above.canonical mountable).uncut
    have sizes := congrArg Text.utf8Size begins
    rw [Text.utf8Size_append, Text.utf8Size_toList, Text.utf8Size_toList] at sizes
    -- The last slash stands in front of the last name, or it is the end of the mount point itself.
    rw [path_eq_ascend proper.names below cluster]
    refine Path.pop_withSlash slashless (by omega) fun ends => ?_
    by_cases root : (location.ascend cluster).components = []
    · unfold path
      rw [root]
      exact congrArg _ above.mounted.symm
    · rw [not_endsInSlash_path above.names root] at ends
      cases ends

end Location.Proper

namespace Path

/-- What a move may make of the path of a position. -/
def Edits (mountPoint before : String) : Move → String → Prop
  | .stay, after => after = before
  | .up, after => after = before ∨ after = pop before mountPoint.utf8ByteSize
  | .down name, after => push before name = .ok after

/-- The same for moves one after the other. -/
def EditsAll (mountPoint : String) : String → List Move → String → Prop
  | before, [], after => after = before
  | before, move :: rest, after =>
    ∃ between, Edits mountPoint before move between ∧ EditsAll mountPoint between rest after

end Path

namespace Filesystem

variable {ι : Type} {mountPoint : String} {fs : Filesystem} {location : Location}

theorem step_edits (proper : location.Proper mountPoint) (mountable : Path.IsMountPoint mountPoint)
    (move : Path.Move) :
    (fs.step location move : Attempt ι _).Gives fun next =>
      Path.Edits mountPoint location.path move next.path := by
  cases move with
  | stay => exact .pure rfl
  | up =>
    change (fs.ascend location).Gives _
    unfold ascend
    split
    · exact .pure (.inl rfl)
    · refine .bind (Attempt.gives_true _) fun parent _ => ?_
      cases parent with
      | none => exact .throw _
      | some parent =>
        exact .bind (.note _) fun _ _ => .pure (.inr (proper.pop_path mountable _).symm)
  | down name =>
    change (fs.descend location name).Gives _
    unfold descend
    refine .bind (Attempt.gives_true _) fun found _ => ?_
    cases found with
    | none => exact .failWith _ _
    | some entry =>
      refine .ofExcept fun below went => ?_
      rw [Path.Edits, proper.push_path, went]
      rfl

/-- Whatever a device answers, a walk edits the path as its moves say, one after the other. -/
theorem walk_edits {moves : List Path.Move} (proper : location.Proper mountPoint)
    (mountable : Path.IsMountPoint mountPoint)
    (components : ∀ name, .down name ∈ moves → Path.IsComponent name) :
    (fs.walk location moves : Attempt ι _).Gives fun last =>
      Path.EditsAll mountPoint location.path moves last.path := by
  induction moves generalizing location with
  | nil => exact .pure rfl
  | cons move rest ih =>
    have named : ∀ name, move = .down name → Path.IsComponent name := by
      rintro name rfl
      exact components name List.mem_cons_self
    refine .bind (.and (step_gives proper named) (step_edits proper mountable move)) ?_
    intro between ⟨kept, edited⟩
    have rest := ih kept fun name later => components name (List.mem_cons_of_mem _ later)
    exact Scan.Ensures.mono rest (fun _ known => known) fun _ ended last same =>
      ⟨between.path, edited, ended last same⟩

end Filesystem

end Fat32
