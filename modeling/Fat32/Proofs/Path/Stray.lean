import Fat32.Proofs.Path.Tree
import Fat32.Proofs.Volume.Walk

/-!
Records that lead out of the volume. A position takes its cluster from a record
and does not check it, so a record may name a number that is no cluster. Such a
number is noticed where a directory is searched: the way on from there fails, and
so does a listing. Only a path that ends there leads to it.
-/

namespace Fat32

theorem Directory.entries_of_isCluster_eq_false {volume : Volume} {start : UInt32}
    (outside : volume.isCluster start = false) (named : start ≠ 0) :
    Directory.entries volume start = Attempt.failWith (.chainStart start) .corruptChain := by
  unfold Directory.entries Volume.chain
  rw [if_neg named, outside, if_neg Bool.false_ne_true]
  rfl

namespace Volume

variable {volume : Volume} {medium : Medium} {cluster : UInt32} {test : Entry → Bool}

/-- A record of a directory, for a directory or for the one above, names a number that is no
cluster of the volume and does not stand for the root directory. -/
structure Stray (volume : Volume) (medium : Medium) (cluster : UInt32) : Prop where
  outside : volume.isCluster cluster = false
  ne_zero : cluster ≠ 0
  named : ∃ directory entry, volume.isCluster directory = true ∧
    entry ∈ (Directory.entries volume directory).run.itemsOn medium ∧
    (entry.isDirectory = true ∨ entry.isParent = true) ∧ entry.cluster = cluster

/-- A position at a cluster of the volume, or at a number that some record names as one. -/
def Sited (volume : Volume) (medium : Medium) (location : Location) : Prop :=
  volume.isCluster location.cluster = true ∨ volume.Stray medium location.cluster

theorem Sited.ne_zero {location : Location} (sited : volume.Sited medium location)
    (outside : volume.isCluster location.cluster = false) : location.cluster ≠ 0 := by
  rcases sited with inside | stray
  · rw [outside] at inside
    cases inside
  · exact stray.ne_zero

theorem firstOn_of_isCluster_eq_false (outside : volume.isCluster cluster = false)
    (named : cluster ≠ 0) : volume.firstOn medium cluster test = .error .corruptChain := by
  unfold firstOn
  rw [Directory.entries_of_isCluster_eq_false outside named]
  rfl

theorem isCluster_of_firstOn {entry : Entry}
    (found : volume.firstOn medium cluster test = .ok (some entry)) :
    volume.isCluster cluster = true := by
  by_contra outside
  rw [Bool.not_eq_true] at outside
  by_cases zero : cluster = 0
  · subst zero
    cases found
  · rw [firstOn_of_isCluster_eq_false outside zero] at found
    cases found

theorem WellFormed.isCluster_rootCluster (wellFormed : volume.WellFormed) :
    volume.isCluster volume.rootCluster = true :=
  wellFormed.isCluster_iff.mpr ⟨wellFormed.root_ge, wellFormed.root_le⟩

end Volume

namespace Filesystem

variable {medium : Medium} {fs : Filesystem} {location next : Location} {move : Path.Move}
  {entry : Entry} {reached : Except Error Location}

/-- A move that follows a record, and where that leads. The path of the new position may be too
long. -/
inductive Follows (medium : Medium) (fs : Filesystem) (location : Location) :
    Path.Move → Entry → Except Error Location → Prop
  | up {parent : Entry} (away : location.cluster ≠ fs.volume.rootCluster)
      (found : fs.volume.firstOn medium location.cluster Entry.isParent = .ok (some parent)) :
      Follows medium fs location .up parent (.ok (location.ascend (fs.target parent)))
  | down {name : String} {entry : Entry}
      (found : fs.volume.firstOn medium location.cluster (Entry.isDirectoryNamed name) =
        .ok (some entry)) :
      Follows medium fs location (.down name) entry (location.descend (fs.target entry) name)

/-- On the way along a path a record is followed, and some moves are left behind it. -/
def Meets (medium : Medium) (fs : Filesystem) (path : String) (entry : Entry)
    (reached : Except Error Location) (behind : List Path.Move) : Prop :=
  ∃ origin before move location,
    fs.origin path = .ok origin ∧
    Path.moves (Path.splitRoot path fs.mountPoint).2 = before ++ move :: behind ∧
    fs.walkOn medium origin before = .ok location ∧
    fs.Follows medium location move entry reached

theorem Follows.stepOn_eq (follows : fs.Follows medium location move entry reached) :
    fs.stepOn medium location move = reached := by
  cases follows with
  | up away found =>
    unfold stepOn
    dsimp only
    rw [if_neg away, found]
  | down found =>
    unfold stepOn
    dsimp only
    rw [found]

theorem Follows.cluster_eq (follows : fs.Follows medium location move entry (.ok next)) :
    next.cluster = fs.target entry := by
  generalize ended : (Except.ok next : Except Error Location) = reached at follows
  cases follows with
  | up away found =>
    cases ended
    rfl
  | down found =>
    obtain ⟨-, rfl⟩ := Location.descend_eq_ok_iff.mp ended.symm
    rfl

theorem Follows.error_eq {error : Error}
    (follows : fs.Follows medium location move entry (.error error)) : error = .nameTooLong := by
  generalize ended : (Except.error error : Except Error Location) = reached at follows
  cases follows with
  | up away found => cases ended
  | down found =>
    unfold Location.descend at ended
    dsimp only at ended
    split at ended <;> cases ended
    rfl

theorem Meets.follows {path : String} {behind : List Path.Move}
    (meets : fs.Meets medium path entry reached behind) :
    ∃ location move, fs.Follows medium location move entry reached := by
  obtain ⟨-, -, move, location, -, -, -, follows⟩ := meets
  exact ⟨location, move, follows⟩

section WellFormed

variable (wellFormed : fs.volume.WellFormed)

include wellFormed

theorem target_ne_zero (entry : Entry) : fs.target entry ≠ 0 := by
  unfold target
  split
  · exact wellFormed.ne_zero_of_isCluster wellFormed.isCluster_rootCluster
  · assumption

theorem sited_target {directory : UInt32} {test : Entry → Bool}
    (found : fs.volume.firstOn medium directory test = .ok (some entry))
    (kind : entry.isDirectory = true ∨ entry.isParent = true)
    (here : location.cluster = fs.target entry) : fs.volume.Sited medium location := by
  unfold Volume.Sited
  rw [here]
  by_cases inside : fs.volume.isCluster (fs.target entry) = true
  · exact .inl inside
  · have named : entry.cluster ≠ 0 := by
      intro zero
      apply inside
      rw [target, if_pos zero]
      exact wellFormed.isCluster_rootCluster
    rw [target, if_neg named] at inside ⊢
    exact .inr ⟨eq_false_of_ne_true inside, named, directory, entry,
      Volume.isCluster_of_firstOn found, (Volume.mem_of_firstOn found).1, kind, rfl⟩

theorem Steps.sited (steps : fs.Steps medium location move next)
    (sited : fs.volume.Sited medium location) : fs.volume.Sited medium next := by
  cases steps with
  | stay => exact sited
  | top => exact sited
  | up away found => exact sited_target wellFormed found (.inr (Volume.mem_of_firstOn found).2) rfl
  | down found went =>
    obtain ⟨-, rfl⟩ := Location.descend_eq_ok_iff.mp went
    have passes := (Volume.mem_of_firstOn found).2
    rw [Entry.isDirectoryNamed, Bool.and_eq_true] at passes
    exact sited_target wellFormed found (.inl passes.1) rfl

theorem walkOn_of_isCluster_eq_false (outside : fs.volume.isCluster location.cluster = false)
    (named : location.cluster ≠ 0) (moves : List Path.Move) :
    fs.walkOn medium location moves =
      if ∀ move ∈ moves, move = .stay then .ok location else .error .corruptChain := by
  have away : location.cluster ≠ fs.volume.rootCluster := by
    intro atRoot
    rw [atRoot, wellFormed.isCluster_rootCluster] at outside
    cases outside
  induction moves with
  | nil => rfl
  | cons move rest ih =>
    rw [walkOn]
    simp only [List.forall_mem_cons]
    cases move with
    | stay => simpa [stepOn] using ih
    | up => simp [stepOn, away, Volume.firstOn_of_isCluster_eq_false outside named]
    | down name => simp [stepOn, Volume.firstOn_of_isCluster_eq_false outside named]

theorem resolveOn_of_isCluster_eq_false
    (outside : fs.volume.isCluster fs.current.cluster = false) (named : fs.current.cluster ≠ 0)
    {path : String} (relative : (Path.splitRoot path fs.mountPoint).1 = false) :
    fs.resolveOn medium path =
      if ∀ move ∈ Path.moves (Path.splitRoot path fs.mountPoint).2, move = .stay
      then .ok fs.current else .error .corruptChain := by
  unfold resolveOn origin
  rw [relative, if_neg Bool.false_ne_true]
  exact walkOn_of_isCluster_eq_false wellFormed outside named _

/-- A path along which a stray record is followed leads there, or nowhere. -/
theorem Meets.resolveOn_eq {path : String} {behind : List Path.Move}
    (meets : fs.Meets medium path entry reached behind)
    (outside : fs.volume.isCluster (fs.target entry) = false) :
    fs.resolveOn medium path = reached.bind fun next =>
      if ∀ move ∈ behind, move = .stay then .ok next else .error .corruptChain := by
  obtain ⟨origin, before, move, location, starts, moves, walked, follows⟩ := meets
  unfold resolveOn
  rw [starts]
  dsimp only
  rw [moves, walkOn_append, walked]
  dsimp only
  rw [walkOn, follows.stepOn_eq]
  cases reached with
  | error error => rfl
  | ok next =>
    have here := follows.cluster_eq
    rw [← here] at outside
    exact walkOn_of_isCluster_eq_false wellFormed outside
      (here ▸ target_ne_zero wellFormed entry) behind

theorem resolveOn_sited (sited : fs.volume.Sited medium fs.current) {path : String}
    (resolved : fs.resolveOn medium path = .ok next) : fs.volume.Sited medium next := by
  refine resolveOn_invariant ?_ sited ?_ resolved
  · intro move _ location next here steps
    exact steps.sited wellFormed here
  · intro start made
    obtain ⟨-, rfl⟩ := Location.root_eq_ok_iff.mp made
    exact .inl wellFormed.isCluster_rootCluster

end WellFormed

end Filesystem

/-- The current directory of a state that calls reach is a cluster, or a record says it is one. -/
theorem Reachable.sited {medium : Medium} {fs : Filesystem} {ledger : Ledger}
    (reachable : Reachable medium fs ledger) : fs.volume.Sited medium fs.current := by
  refine current_invariant (motive := fun volume => volume.Sited medium) ?_ ?_ reachable
  · intro volume start wellFormed atRoot _
    exact .inl (atRoot ▸ wellFormed.isCluster_rootCluster)
  · intro fs path next wellFormed sited resolved
    exact Filesystem.resolveOn_sited wellFormed sited resolved

/-- A record may name a number that is no cluster, and a change of directory whose path ends with it
leads there, so the current directory is a cluster or such a number. Any move from there fails, on
the same path or on a later one, and so does a listing. A change of directory that fails changes
nothing. -/
theorem strays_fail_once_searched {medium : Medium} {fs : Filesystem} {ledger : Ledger}
    (reachable : Reachable medium fs ledger) :
    (fs.volume.isCluster fs.current.cluster = true ∨
      fs.volume.Stray medium fs.current.cluster) ∧
    (fs.volume.isCluster fs.current.cluster = false →
      fs.list.run.itemsOn medium = [] ∧ fs.list.run.result medium = .error .corruptChain) ∧
    ∀ path,
      let outcome := ((Call.changeDirectory path).run fs : Scan Empty _).result medium
      (∀ error, outcome.2 = .error error → outcome.1 = fs) ∧
      (fs.volume.isCluster fs.current.cluster = false →
        (Path.splitRoot path fs.mountPoint).1 = false →
        (∃ move ∈ Path.moves (Path.splitRoot path fs.mountPoint).2, move ≠ .stay) →
        outcome = (fs, .error .corruptChain)) ∧
      ∀ entry reached behind, fs.Meets medium path entry reached behind →
        fs.volume.isCluster (fs.target entry) = false →
        (∀ error, reached = .error error →
          error = .nameTooLong ∧ outcome = (fs, .error .nameTooLong)) ∧
        ∀ next, reached = .ok next →
          next.cluster = fs.target entry ∧
          outcome = if ∀ move ∈ behind, move = .stay then ({ fs with current := next }, .ok ())
            else (fs, .error .corruptChain) := by
  have wellFormed := reachable.kept.wellFormed
  have sited := reachable.sited
  refine ⟨sited, fun outside => ?_, fun path => ?_⟩
  · unfold Filesystem.list Filesystem.directory
    rw [Directory.entries_of_isCluster_eq_false outside (sited.ne_zero outside)]
    exact ⟨rfl, rfl⟩
  rw [Filesystem.result_run_changeDirectory]
  refine ⟨fun error failed => ?_, fun outside relative ⟨move, onWay, moves⟩ => ?_,
    fun entry reached behind meets outside => ?_⟩
  · cases resolved : fs.resolveOn medium path with
    | error error => rfl
    | ok location =>
      rw [resolved] at failed
      cases failed
  · rw [Filesystem.resolveOn_of_isCluster_eq_false wellFormed outside (sited.ne_zero outside)
      relative, if_neg fun stays => moves (stays move onWay)]
  · obtain ⟨location, move, follows⟩ := meets.follows
    rw [meets.resolveOn_eq wellFormed outside]
    constructor
    · rintro error rfl
      obtain rfl := follows.error_eq
      exact ⟨rfl, rfl⟩
    · rintro next rfl
      refine ⟨follows.cluster_eq, ?_⟩
      by_cases stays : ∀ move ∈ behind, move = .stay
      · simp only [Except.bind, if_pos stays]
      · simp only [Except.bind, if_neg stays]

/-- A device with the small volume. The only record in its root directory is that of the directory
`A`, which names cluster 99. -/
def Volume.strayMedium : Medium := fun lba =>
  match lba.toNat with
  | 0 => .ok smallBoot
  | 1 => .ok (.ofList 512 [0xF8, 0xFF, 0xFF, 0x0F, 0xFF, 0xFF, 0xFF, 0x0F, 0xFF, 0xFF, 0xFF, 0x0F])
  | 2 => .ok (.ofList 512 [0x41, 0x20, 0x20, 0x20, 0x20, 0x20, 0x20, 0x20, 0x20, 0x20, 0x20, 0x10,
      0, 0, 0, 0, 0, 0, 0, 0, 0, 0, 0, 0, 0, 0, 99])
  | _ => .error .readError

theorem Filesystem.meets_stray (path : String) (rest : List Path.Move)
    (relative : (Path.splitRoot path "/home").1 = false)
    (moves : Path.moves (Path.splitRoot path "/home").2 = .down "a" :: rest) :
    let fs : Filesystem := ⟨.small, ⟨2, "/home", []⟩, .empty⟩
    ∃ entry, fs.Meets Volume.strayMedium path entry (.ok ⟨99, "/home", ["a"]⟩) rest ∧
      fs.volume.isCluster (fs.target entry) = false := by
  intro fs
  have listed : ∀ entry ∈ (Directory.entries .small 2).run.itemsOn Volume.strayMedium,
      entry.cluster = 99 := by decide +kernel
  have present : (((Directory.entries .small 2).run.itemsOn Volume.strayMedium).find?
      (Entry.isDirectoryNamed "a")).isSome = true := by decide +kernel
  obtain ⟨entry, first⟩ := Option.isSome_iff_exists.mp present
  have found := Volume.firstOn_eq_ok_some_iff.mpr first
  have names : fs.target entry = 99 := by
    rw [target, listed entry (List.mem_of_find?_eq_some first)]
    rfl
  have fits : (⟨2, "/home", []⟩ : Location).descend 99 "a" = .ok ⟨99, "/home", ["a"]⟩ :=
    eq_ok_of_toOption (by decide +kernel)
  have follows : fs.Follows Volume.strayMedium fs.current (.down "a") entry _ := .down found
  rw [names, fits] at follows
  refine ⟨entry, ⟨fs.current, [], .down "a", fs.current, ?_, moves, rfl, follows⟩, ?_⟩
  · unfold origin
    change (if (Path.splitRoot path "/home").1 then _ else _) = _
    rw [relative, if_neg Bool.false_ne_true]
  · rw [names]
    decide

/-- A path that goes on behind the stray directory fails. One that ends with it leads to a position
without entries. -/
theorem strays_fail_once_searched_small :
    let fs : Filesystem := ⟨.small, ⟨2, "/home", []⟩, .empty⟩
    let inside : Filesystem := ⟨.small, ⟨99, "/home", ["a"]⟩, .empty⟩
    ∃ ledger later entry,
      Reachable Volume.strayMedium fs ledger ∧
      fs.Meets Volume.strayMedium "a/b" entry (.ok inside.current) [.down "b"] ∧
      fs.volume.isCluster (fs.target entry) = false ∧
      ((Call.changeDirectory "a/b").run fs : Scan Empty _).result Volume.strayMedium =
        (fs, .error .corruptChain) ∧
      Reachable Volume.strayMedium inside later ∧
      Volume.small.Stray Volume.strayMedium 99 ∧
      inside.list.run.itemsOn Volume.strayMedium = [] ∧
      inside.list.run.result Volume.strayMedium = .error .corruptChain := by
  intro fs inside
  have mounted : Reachable Volume.strayMedium fs .empty :=
    .small rfl rfl (by decide)
  have entered : (((Call.changeDirectory "a").run fs : Scan Empty _).result
    Volume.strayMedium).1 = inside := by decide +kernel
  have reachable := entered ▸ mounted.called (.changeDirectory "a")
  obtain ⟨entry, meets, outside⟩ :=
    Filesystem.meets_stray "a/b" [.down "b"] (by decide) (by decide)
  obtain ⟨-, -, onFoot⟩ := strays_fail_once_searched mounted
  have failed := (((onFoot "a/b").2.2 entry _ _ meets outside).2 _ rfl).2
  obtain ⟨sited, empty, -⟩ := strays_fail_once_searched reachable
  have away : Volume.small.isCluster 99 = false := by decide
  refine ⟨_, _, entry, mounted, meets, outside, ?_, reachable, ?_, empty away⟩
  · rw [failed, if_neg (by simp)]
  · exact sited.resolve_left (ne_true_of_eq_false away)

/-- A change of directory that meets a record for a number that is no cluster can succeed, and the
current directory is no cluster then. -/
theorem strays_entered :
    let fs : Filesystem := ⟨.small, ⟨2, "/home", []⟩, .empty⟩
    let inside : Filesystem := ⟨.small, ⟨99, "/home", ["a"]⟩, .empty⟩
    ∃ ledger later entry,
      Reachable Volume.strayMedium fs ledger ∧
      fs.Meets Volume.strayMedium "a" entry (.ok inside.current) [] ∧
      fs.volume.isCluster (fs.target entry) = false ∧
      ((Call.changeDirectory "a").run fs : Scan Empty _).result Volume.strayMedium =
        (inside, .ok ()) ∧
      Reachable Volume.strayMedium inside later ∧
      inside.volume.isCluster inside.current.cluster = false := by
  intro fs inside
  have mounted : Reachable Volume.strayMedium fs .empty :=
    .small rfl rfl (by decide)
  have moved : (fs.changeDirectory "a" : Attempt Empty _).run.result Volume.strayMedium =
    .ok inside := eq_ok_of_toOption (by decide +kernel)
  have entered : ((Call.changeDirectory "a").run fs : Scan Empty _).result Volume.strayMedium =
      (inside, .ok ()) := by
    rw [Call.run, Filesystem.result_advance, moved]
    rfl
  have reachable := mounted.called (.changeDirectory "a")
  rw [entered] at reachable
  obtain ⟨entry, meets, outside⟩ := Filesystem.meets_stray "a" [] (by decide) (by decide)
  exact ⟨_, _, entry, mounted, meets, outside, entered, reachable, by decide⟩

end Fat32
