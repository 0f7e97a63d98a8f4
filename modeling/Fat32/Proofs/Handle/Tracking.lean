import Fat32.Proofs.Filling
import Fat32.Proofs.Handle.Mounts
import Fat32.Proofs.Handle.Readers

/-!
The invariant of open files, said of the links that the reader follows and of
the sectors that it reads. A position is what the links lead to from the first
cluster of the file, and a cached cluster lies on the way there and holds what
the device holds. Every read leaves its own file like that, the reads that fail
included, and the other files alone.
-/

namespace Fat32

namespace Volume

variable {volume : Volume} {medium : Medium}

/-- The clusters that links lead to, from the first cluster of a file on. -/
inductive Reaches (volume : Volume) (medium : Medium) (start : UInt32) : Nat → UInt32 → Prop
  | start : Reaches volume medium start 0 start
  | link {index : Nat} {cluster next : UInt32} :
      Reaches volume medium start index cluster →
      (volume.successor cluster : Attempt Empty _).run.result medium = .ok (some next) →
      Reaches volume medium start (index + 1) next

theorem reaches_iff_pathOn {start cluster : UInt32} {index : Nat} :
    volume.Reaches medium start index cluster ↔
      volume.pathOn medium start index = some cluster := by
  constructor
  · intro reaches
    induction reaches with
    | start => rfl
    | link _ linked ih =>
      rw [result_successor] at linked
      exact (pathOn_succ ih _).mpr linked
  · intro here
    induction index generalizing cluster with
    | zero =>
      cases here
      exact .start
    | succ index ih =>
      cases before : volume.pathOn medium start index with
      | none =>
        rw [pathOn, before] at here
        cases here
      | some previous =>
        refine .link (ih before) ?_
        rw [result_successor]
        exact (pathOn_succ before cluster).mp here

end Volume

namespace OpenFile

variable {volume : Volume} {medium : Medium} {file : OpenFile}

/-- What an open file remembers is on its chain and on the device. -/
structure Tracks (volume : Volume) (medium : Medium) (file : OpenFile) : Prop where
  reaches : volume.Reaches medium file.startCluster file.position.index file.position.cluster
  isCluster : 0 < file.position.index → volume.isCluster file.position.cluster = true
  inside : file.size ≠ 0 →
    file.position.index * volume.bytesPerCluster.toNat < file.size.toNat
  cached : ∀ cache, file.cache = some cache →
    volume.isCluster cache.cluster = true ∧
    (∃ index ≤ file.position.index,
      volume.Reaches medium file.startCluster index cache.cluster) ∧
    ∃ sectors : List Sector, sectors.length = volume.sectorsPerCluster.toNat ∧
      cache.bytes = sectors.flatMap (·.toList) ∧
      ∀ index sector, sectors[index]? = some sector →
        medium (volume.clusterStart cache.cluster + .ofNat index) = .ok sector

theorem Sound.tracks {start size : UInt32} (sound : file.Sound volume medium start size) :
    file.Tracks volume medium := by
  obtain ⟨rfl, rfl, onPath, -, inside, cached⟩ := sound
  constructor
  case reaches => exact Volume.reaches_iff_pathOn.mpr onPath
  case isCluster => exact fun moved => Volume.isCluster_of_pathOn moved onPath
  case inside =>
    intro nonempty
    rcases Nat.eq_zero_or_pos file.position.index with atStart | moved
    · rw [atStart, Nat.zero_mul]
      exact Nat.pos_of_ne_zero fun zero => nonempty (UInt32.toNat_inj.mp zero)
    · exact inside moved
  case cached =>
    intro cache held
    obtain ⟨valid, loaded, index, behind, located⟩ := cached cache held
    exact ⟨valid, ⟨index, behind, Volume.reaches_iff_pathOn.mpr located⟩,
      Volume.exists_sectors_of_contentOn loaded⟩

end OpenFile

/-- Every open file of a state that calls reach tracks its chain. A read leaves it like that,
however it ends, keeps its first cluster and its size, and changes nothing else. -/
theorem open_files_track_chains {medium : Medium} {fs : Filesystem} {ledger : Ledger}
    (reachable : Reachable medium fs ledger) :
    (∀ handle file, fs.files.get? handle = some file → file.Tracks fs.volume medium) ∧
    ∀ handle offset buffer,
      let reading := (fs.readInto handle offset buffer : Scan Empty _).result medium
      let after := reading.2.1
      after.volume = fs.volume ∧ after.current = fs.current ∧
      (∀ other, other ≠ handle → after.files.get? other = fs.files.get? other) ∧
      (fs.files.get? handle = none → after = fs ∧ reading.2.2 = .error .badHandle) ∧
      ∀ file, fs.files.get? handle = some file →
        ∃ next, after.files.get? handle = some next ∧
          next.startCluster = file.startCluster ∧ next.size = file.size ∧
          next.Tracks fs.volume medium := by
  have kept := reachable.kept
  refine ⟨fun handle file isOpen => ?_, fun handle offset buffer => ?_⟩
  · obtain ⟨entry, -, sound⟩ := kept.sound handle file isOpen
    exact sound.tracks
  cases isOpen : fs.files.get? handle with
  | none =>
    rw [Filesystem.readInto_of_shut isOpen]
    refine ⟨rfl, rfl, fun _ _ => rfl, fun _ => ⟨rfl, rfl⟩, fun file impossible => ?_⟩
    cases impossible
  | some file =>
    obtain ⟨entry, -, sound⟩ := kept.sound handle file isOpen
    obtain ⟨next, moved, still⟩ :=
      Filesystem.readInto_of_sound (κ := Empty) isOpen sound offset buffer
    dsimp only
    rw [moved]
    refine ⟨rfl, rfl, fun other apart => ?_, fun impossible => ?_, ?_⟩
    · exact HandleTable.get?_put_of_ne fs.files next apart
    · cases impossible
    · rintro _ ⟨⟩
      exact ⟨next, HandleTable.get?_put_self _ _ (HandleTable.lt_of_get? _ isOpen),
        still.start_eq.trans sound.start_eq.symm, still.size_eq.trans sound.size_eq.symm,
        still.tracks⟩

/-- The first cluster of the file is cached. A read behind it follows the link and fails then. -/
theorem open_files_track_chains_torn :
    let mounted : Filesystem := ⟨.small, ⟨2, "/", []⟩, .empty⟩
    let opened := (((Call.openFile "a.txt").run mounted : Scan Empty _).result Volume.tornMedium).1
    let fs := (((Call.readAt 0 0 1).run opened : Scan Empty _).result Volume.tornMedium).1
    let file : OpenFile := ⟨3, 600, ⟨0, 3⟩, some ⟨3, .replicate 512 1⟩⟩
    let left : OpenFile := ⟨3, 600, ⟨1, 4⟩, none⟩
    let reading := (fs.readInto 0 510 [7, 7, 7, 7] : Scan Empty _).result Volume.tornMedium
    ∃ ledger,
      Reachable Volume.tornMedium fs ledger ∧
      fs.files.get? 0 = some file ∧ file.Tracks .small Volume.tornMedium ∧
      reading.2.2 = .error (.device .readError) ∧
      reading.2.1.files.get? 0 = some left ∧ left.Tracks .small Volume.tornMedium := by
  intro mounted opened fs file left reading
  have start : Reachable Volume.tornMedium mounted .empty :=
    .small rfl rfl (by decide)
  have reachable : ∃ ledger, Reachable Volume.tornMedium fs ledger :=
    ⟨_, (start.called (.openFile "a.txt")).called (.readAt 0 0 1)⟩
  have state : fs = ⟨.small, ⟨2, "/", []⟩, HandleTable.empty.put 0 file⟩ := by decide +kernel
  -- How the state was reached is not needed any more, and evaluating it again is slow.
  clear_value fs
  subst state
  obtain ⟨ledger, reachable⟩ := reachable
  have failed : reading.2.2 = .error (.device .readError) := by decide +kernel
  have moved : reading.2.1.files.get? 0 = some left := by decide +kernel
  obtain ⟨tracked, reads⟩ := open_files_track_chains reachable
  obtain ⟨-, -, -, -, again⟩ := reads 0 510 [7, 7, 7, 7]
  obtain ⟨next, here, -, -, tracks⟩ := again file rfl
  cases here.symm.trans moved
  exact ⟨ledger, reachable, rfl, tracked 0 file rfl, failed, moved, tracks⟩

end Fat32
