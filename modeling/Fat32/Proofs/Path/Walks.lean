import Fat32.Filesystem.Navigation
import Fat32.Proofs.Scan.Views

/-!
Walks through the directories of a fixed device. There a search finds what it
finds, so each move takes a position to another one or fails (`stepOn`), and a
path leads where its moves lead one after the other (`walkOn`). No walk hands
anything out.
-/

namespace Fat32

namespace Attempt

variable {ι κ : Type} (medium : Medium) (scan : Attempt ι Unit) (test : ι → Bool)

/-- A search stops at the first item that passes, so an error behind it is not met. -/
theorem result_find? :
    (scan.find? test : Attempt κ _).run.result medium =
      match (scan.run.itemsOn medium).find? test with
      | some value => .ok (some value)
      | none => (scan.run.result medium).map fun _ => none := by
  unfold find?
  rw [result_bind, result_visit]
  generalize scan.run.itemsOn medium = items
  generalize scan.run.result medium = last
  induction items with
  | nil => cases last <;> rfl
  | cons value rest ih =>
    rw [visitList, List.find?_cons]
    cases test value with
    | true => rfl
    | false => exact ih

theorem itemsOn_find? : (scan.find? test : Attempt κ _).run.itemsOn medium = [] := by
  unfold find?
  rw [itemsOn_bind, itemsOn_visit, visitItems_eq_nil medium _ fun _ _ => rfl]
  split
  · split <;> rfl
  · rfl

end Attempt

/-- The first entry of a directory that passes the test, unless an error comes before it. -/
def Volume.firstOn (volume : Volume) (medium : Medium) (cluster : UInt32) (test : Entry → Bool) :
    Except Error (Option Entry) :=
  match ((Directory.entries volume cluster).run.itemsOn medium).find? test with
  | some entry => .ok (some entry)
  | none => ((Directory.entries volume cluster).run.result medium).map fun _ => none

namespace Volume

variable {volume : Volume} {medium : Medium} {cluster : UInt32} {test : Entry → Bool}

theorem firstOn_eq_ok_some_iff {entry : Entry} :
    volume.firstOn medium cluster test = .ok (some entry) ↔
      ((Directory.entries volume cluster).run.itemsOn medium).find? test = some entry := by
  unfold firstOn
  cases ((Directory.entries volume cluster).run.itemsOn medium).find? test with
  | some first => simp
  | none => cases (Directory.entries volume cluster).run.result medium <;> simp [Except.map]

theorem firstOn_of_none
    (nothing : ((Directory.entries volume cluster).run.itemsOn medium).find? test = none) :
    volume.firstOn medium cluster test =
      ((Directory.entries volume cluster).run.result medium).map fun _ => none := by
  unfold firstOn
  rw [nothing]

theorem mem_of_firstOn {entry : Entry}
    (found : volume.firstOn medium cluster test = .ok (some entry)) :
    entry ∈ (Directory.entries volume cluster).run.itemsOn medium ∧ test entry = true := by
  have first := firstOn_eq_ok_some_iff.mp found
  exact ⟨List.mem_of_find?_eq_some first, List.find?_some first⟩

end Volume

/-- A directory of that name. -/
def Entry.isDirectoryNamed (name : String) (entry : Entry) : Bool :=
  entry.isDirectory && entry.isNamed name

namespace Filesystem

variable {ι : Type} (medium : Medium) (fs : Filesystem)

def stepOn (location : Location) : Path.Move → Except Error Location
  | .stay => .ok location
  | .up =>
    if location.cluster = fs.volume.rootCluster then .ok location
    else
      match fs.volume.firstOn medium location.cluster Entry.isParent with
      | .ok (some parent) => .ok (location.ascend (fs.target parent))
      | .ok none => .error .notFound
      | .error error => .error error
  | .down name =>
    match fs.volume.firstOn medium location.cluster (Entry.isDirectoryNamed name) with
    | .ok (some entry) => location.descend (fs.target entry) name
    | .ok none => .error .notFound
    | .error error => .error error

inductive Steps (location : Location) : Path.Move → Location → Prop
  | stay : Steps location .stay location
  | top (atRoot : location.cluster = fs.volume.rootCluster) : Steps location .up location
  | up {parent : Entry} (away : location.cluster ≠ fs.volume.rootCluster)
      (found : fs.volume.firstOn medium location.cluster Entry.isParent = .ok (some parent)) :
      Steps location .up (location.ascend (fs.target parent))
  | down {name : String} {entry : Entry} {next : Location}
      (found : fs.volume.firstOn medium location.cluster (Entry.isDirectoryNamed name) =
        .ok (some entry))
      (went : location.descend (fs.target entry) name = .ok next) :
      Steps location (.down name) next

variable {medium fs} in
theorem stepOn_eq_ok_iff {location next : Location} {move : Path.Move} :
    fs.stepOn medium location move = .ok next ↔ fs.Steps medium location move next := by
  constructor
  · intro stepped
    cases move with
    | stay =>
      cases stepped
      exact .stay
    | up =>
      unfold stepOn at stepped
      dsimp only at stepped
      split at stepped
      · rename_i atRoot
        cases stepped
        exact .top atRoot
      · rename_i away
        split at stepped <;> cases stepped
        rename_i found
        exact .up away found
    | down name =>
      unfold stepOn at stepped
      dsimp only at stepped
      split at stepped
      · rename_i found
        exact .down found stepped
      · cases stepped
      · cases stepped
  · rintro (_ | atRoot | ⟨away, found⟩ | ⟨found, went⟩) <;> unfold stepOn
    · rfl
    · rw [if_pos atRoot]
    · rw [if_neg away, found]
    · dsimp only
      rw [found]
      exact went

def walkOn (location : Location) : List Path.Move → Except Error Location
  | [] => .ok location
  | move :: rest =>
    match fs.stepOn medium location move with
    | .ok next => walkOn next rest
    | .error error => .error error

theorem walkOn_singleton (location : Location) (move : Path.Move) :
    fs.walkOn medium location [move] = fs.stepOn medium location move := by
  rw [walkOn]
  cases fs.stepOn medium location move <;> rfl

theorem walkOn_append (location : Location) (moves more : List Path.Move) :
    fs.walkOn medium location (moves ++ more) =
      match fs.walkOn medium location moves with
      | .ok next => fs.walkOn medium next more
      | .error error => .error error := by
  induction moves generalizing location with
  | nil => rfl
  | cons move rest ih =>
    rw [List.cons_append, walkOn, walkOn]
    cases fs.stepOn medium location move with
    | error error => rfl
    | ok next => exact ih next

variable {medium fs} in
theorem walkOn_invariant {Holds : Location → Prop} {moves : List Path.Move}
    (kept : ∀ move ∈ moves, ∀ location next, Holds location →
      fs.Steps medium location move next → Holds next)
    {start last : Location} (holds : Holds start)
    (walked : fs.walkOn medium start moves = .ok last) : Holds last := by
  induction moves generalizing start with
  | nil =>
    cases walked
    exact holds
  | cons move rest ih =>
    rw [walkOn] at walked
    split at walked
    · rename_i next stepped
      refine ih (fun later member => kept later (List.mem_cons_of_mem _ member)) ?_ walked
      exact kept move List.mem_cons_self start next holds (stepOn_eq_ok_iff.mp stepped)
    · cases walked

theorem walkOn_current (location start : Location) (moves : List Path.Move) :
    { fs with current := location }.walkOn medium start moves =
      fs.walkOn medium start moves := by
  induction moves generalizing start with
  | nil => rfl
  | cons move rest ih =>
    have same : { fs with current := location }.stepOn medium start move =
      fs.stepOn medium start move := rfl
    rw [walkOn, walkOn, same]
    cases fs.stepOn medium start move with
    | error error => rfl
    | ok next => exact ih next

def origin (path : String) : Except Error Location :=
  if (Path.splitRoot path fs.mountPoint).1 then fs.rootLocation else .ok fs.current

def resolveOn (path : String) : Except Error Location :=
  match fs.origin path with
  | .ok location => fs.walkOn medium location (Path.moves (Path.splitRoot path fs.mountPoint).2)
  | .error error => .error error

variable {medium fs} in
theorem resolveOn_invariant {Holds : Location → Prop} {path : String}
    (kept : ∀ move ∈ Path.moves (Path.splitRoot path fs.mountPoint).2, ∀ location next,
      Holds location → fs.Steps medium location move next → Holds next)
    (current : Holds fs.current) (root : ∀ start, fs.rootLocation = .ok start → Holds start)
    {last : Location} (resolved : fs.resolveOn medium path = .ok last) : Holds last := by
  unfold resolveOn origin at resolved
  split at resolved
  · rename_i start made
    refine walkOn_invariant kept ?_ resolved
    split at made
    · exact root start made
    · cases made
      exact current
  · cases resolved

def lookupOn (path : String) : Except Error Entry :=
  if Path.isEntryName (Path.splitLast path).2 then
    match fs.resolveOn medium (Path.splitLast path).1 with
    | .ok location =>
      match fs.volume.firstOn medium location.cluster (·.isNamed (Path.splitLast path).2) with
      | .ok (some entry) => .ok entry
      | .ok none => .error .notFound
      | .error error => .error error
    | .error error => .error error
  else .error .notAFile

def lookupFileOn (path : String) : Except Error Entry :=
  match fs.lookupOn medium path with
  | .ok entry => if entry.isDirectory then .error .notAFile else .ok entry
  | .error error => .error error

@[simp] theorem result_find? (cluster : UInt32) (test : Entry → Bool) :
    (fs.find? cluster test : Attempt ι _).run.result medium =
      fs.volume.firstOn medium cluster test := by
  unfold find? directory Volume.firstOn
  rw [Attempt.result_find?]
  cases ((Directory.entries fs.volume cluster).run.itemsOn medium).find? test <;> rfl

@[simp] theorem itemsOn_find? (cluster : UInt32) (test : Entry → Bool) :
    (fs.find? cluster test : Attempt ι _).run.itemsOn medium = [] :=
  Attempt.itemsOn_find? medium (fs.directory cluster) test

@[simp] theorem result_ascend (location : Location) :
    (fs.ascend location : Attempt ι _).run.result medium = fs.stepOn medium location .up := by
  unfold ascend stepOn
  by_cases atRoot : location.cluster = fs.volume.rootCluster
  · simp [atRoot]
  · simp only [atRoot, if_false]
    rw [Attempt.result_bind, result_find?]
    rcases fs.volume.firstOn medium location.cluster Entry.isParent
      with error | (_ | parent) <;> rfl

@[simp] theorem itemsOn_ascend (location : Location) :
    (fs.ascend location : Attempt ι _).run.itemsOn medium = [] := by
  unfold ascend
  by_cases atRoot : location.cluster = fs.volume.rootCluster
  · simp [atRoot]
  · simp only [atRoot, if_false]
    rw [Attempt.itemsOn_bind, itemsOn_find?, result_find?]
    rcases fs.volume.firstOn medium location.cluster Entry.isParent
      with error | (_ | parent) <;> rfl

@[simp] theorem result_descend (location : Location) (name : String) :
    (fs.descend location name : Attempt ι _).run.result medium =
      fs.stepOn medium location (.down name) := by
  have test : (fun entry : Entry => entry.isDirectory && entry.answers (.ofString name)) =
    Entry.isDirectoryNamed name := rfl
  unfold descend stepOn
  rw [Attempt.result_bind, result_find?, test]
  dsimp only
  rcases fs.volume.firstOn medium location.cluster (Entry.isDirectoryNamed name)
    with error | (_ | entry) <;> rfl

@[simp] theorem itemsOn_descend (location : Location) (name : String) :
    (fs.descend location name : Attempt ι _).run.itemsOn medium = [] := by
  unfold descend
  rw [Attempt.itemsOn_bind, itemsOn_find?, result_find?]
  rcases fs.volume.firstOn medium location.cluster _ with error | (_ | entry) <;> rfl

@[simp] theorem result_step (location : Location) (move : Path.Move) :
    (fs.step location move : Attempt ι _).run.result medium = fs.stepOn medium location move := by
  cases move with
  | stay => rfl
  | up => exact result_ascend medium fs location
  | down name => exact result_descend medium fs location name

@[simp] theorem itemsOn_step (location : Location) (move : Path.Move) :
    (fs.step location move : Attempt ι _).run.itemsOn medium = [] := by
  cases move with
  | stay => rfl
  | up => exact itemsOn_ascend medium fs location
  | down name => exact itemsOn_descend medium fs location name

@[simp] theorem result_walk (location : Location) (moves : List Path.Move) :
    (fs.walk location moves : Attempt ι _).run.result medium =
      fs.walkOn medium location moves := by
  induction moves generalizing location with
  | nil => rfl
  | cons move rest ih =>
    simp only [walk, walkOn, Attempt.result_bind, result_step, ih]
    cases fs.stepOn medium location move <;> rfl

@[simp] theorem itemsOn_walk (location : Location) (moves : List Path.Move) :
    (fs.walk location moves : Attempt ι _).run.itemsOn medium = [] := by
  induction moves generalizing location with
  | nil => rfl
  | cons move rest ih =>
    simp only [walk, Attempt.itemsOn_bind, itemsOn_step, List.nil_append, ih]
    cases (fs.step location move : Attempt ι _).run.result medium <;> rfl

@[simp] theorem result_resolve (path : String) :
    (fs.resolve path : Attempt ι _).run.result medium = fs.resolveOn medium path := by
  unfold resolve resolveOn origin
  obtain ⟨absolute, rest⟩ := Path.splitRoot path fs.mountPoint
  cases absolute with
  | false => exact result_walk medium fs fs.current _
  | true =>
    simp only [if_true, Attempt.result_bind, Attempt.result_ofExcept, result_walk]
    cases fs.rootLocation <;> rfl

@[simp] theorem itemsOn_resolve (path : String) :
    (fs.resolve path : Attempt ι _).run.itemsOn medium = [] := by
  unfold resolve
  obtain ⟨absolute, rest⟩ := Path.splitRoot path fs.mountPoint
  cases absolute with
  | false => exact itemsOn_walk medium fs fs.current _
  | true =>
    simp only [if_true, Attempt.itemsOn_bind, itemsOn_walk, Attempt.result_ofExcept]
    cases fs.rootLocation <;> rfl

theorem result_changeDirectory (path : String) :
    (fs.changeDirectory path : Attempt ι _).run.result medium =
      (fs.resolveOn medium path).map fun location => { fs with current := location } := by
  unfold changeDirectory
  simp only [Attempt.result_bind, Attempt.result_note, Attempt.result_pure, result_resolve]
  cases fs.resolveOn medium path <;> rfl

@[simp] theorem result_lookup (path : String) :
    (fs.lookup path : Attempt ι _).run.result medium = fs.lookupOn medium path := by
  unfold lookup lookupOn
  obtain ⟨directory, name⟩ := Path.splitLast path
  dsimp only
  cases Path.isEntryName name with
  | false => rfl
  | true =>
    have test : (fun entry : Entry => entry.answers (.ofString name)) = (·.isNamed name) := rfl
    simp only [if_true]
    rw [Attempt.result_bind, result_resolve]
    cases fs.resolveOn medium directory with
    | error error => rfl
    | ok location =>
      dsimp only
      rw [Attempt.result_bind, result_find?, test]
      rcases fs.volume.firstOn medium location.cluster (·.isNamed name)
        with error | (_ | entry) <;> rfl

@[simp] theorem itemsOn_lookup (path : String) :
    (fs.lookup path : Attempt ι _).run.itemsOn medium = [] := by
  unfold lookup
  obtain ⟨directory, name⟩ := Path.splitLast path
  dsimp only
  cases Path.isEntryName name with
  | false => rfl
  | true =>
    simp only [if_true, Attempt.itemsOn_bind, itemsOn_resolve, itemsOn_find?, List.nil_append]
    cases (fs.resolve directory : Attempt ι _).run.result medium with
    | error error => rfl
    | ok location =>
      dsimp only
      rw [result_find?]
      rcases fs.volume.firstOn medium location.cluster _ with error | (_ | entry) <;> rfl

@[simp] theorem result_lookupFile (path : String) :
    (fs.lookupFile path : Attempt ι _).run.result medium = fs.lookupFileOn medium path := by
  unfold lookupFile lookupFileOn
  rw [Attempt.result_bind, result_lookup]
  cases fs.lookupOn medium path with
  | error error => rfl
  | ok entry =>
    dsimp only
    cases entry.isDirectory <;> rfl

@[simp] theorem itemsOn_lookupFile (path : String) :
    (fs.lookupFile path : Attempt ι _).run.itemsOn medium = [] := by
  unfold lookupFile
  rw [Attempt.itemsOn_bind, itemsOn_lookup, result_lookup]
  cases fs.lookupOn medium path with
  | error error => rfl
  | ok entry =>
    dsimp only
    cases entry.isDirectory <;> rfl

end Filesystem

end Fat32
