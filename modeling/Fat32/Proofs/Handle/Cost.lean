import Mathlib.Data.Set.Operations
import Mathlib.Tactic.IntervalCases
import Fat32.Proofs.Handle.Readers
import Fat32.Proofs.Volume.Cost

/-!
What a read from an open file costs. The links behind the position of the file
are read up to the cluster of the last byte, and every cluster of the read is
loaded once, but not one that is cached (`handle_reads_cost`). A file behind the
first byte starts over, and then nothing is cached.
-/

namespace Fat32

/-- The clusters of a file, as far as a place of its path. -/
structure Volume.Trail (volume : Volume) (medium : Medium) (start : UInt32) (path : Nat → UInt32)
    (last : Nat) : Prop where
  entered : volume.isCluster start = true
  onPath : ∀ place ≤ last, volume.pathOn medium start place = some (path place)

namespace Volume.Trail

variable {volume : Volume} {medium : Medium} {start : UInt32} {path : Nat → UInt32} {last : Nat}

theorem exists_of_clusterAt {cluster : UInt32}
    (located : volume.clusterAt medium start last = .ok cluster) :
    ∃ path, volume.Trail medium start path last := by
  have onWay : ∀ place ≤ last, ∃ cluster, volume.pathOn medium start place = some cluster := by
    intro place before
    obtain ⟨cluster, reached⟩ := clusterAt_ok_of_le before located
    exact ⟨cluster, (pathOn_of_clusterAt reached).2⟩
  choose! path onPath using onWay
  exact ⟨path, (pathOn_of_clusterAt located).1, onPath⟩

variable (trail : volume.Trail medium start path last)

include trail

theorem head_eq : path 0 = start := (Option.some.inj (trail.onPath 0 (Nat.zero_le _))).symm

theorem isCluster {place : Nat} (before : place ≤ last) : volume.isCluster (path place) = true := by
  cases place with
  | zero =>
    rw [trail.head_eq]
    exact trail.entered
  | succ place => exact isCluster_of_pathOn (Nat.succ_pos place) (trail.onPath _ before)

theorem linkOn_eq {place : Nat} (before : place < last) :
    volume.linkOn medium (path place) = .ok (some (path (place + 1))) :=
  (pathOn_succ (trail.onPath place (Nat.le_of_lt before)) _).mp (trail.onPath _ before)

theorem upTo {sooner : Nat} (before : sooner ≤ last) :
    volume.Trail medium start path sooner :=
  ⟨trail.entered, fun place within => trail.onPath place (Nat.le_trans within before)⟩

end Volume.Trail

namespace OpenFile

def cachedCluster (file : OpenFile) : Option UInt32 := file.cache.map (·.cluster)

section Steps

variable {ι : Type} {volume : Volume} {medium : Medium} {start : UInt32} {path : Nat → UInt32}
  {file : OpenFile}

theorem seek_rewind {index : Nat} (behind : index < file.position.index) :
    (file.seek volume index : Scan ι _) = file.rewind.seek volume index := by
  have atStart : ¬ index < file.rewind.position.index := Nat.not_lt_zero index
  unfold seek
  rw [if_pos behind, if_neg atStart]

theorem follow_along (file : OpenFile) (index hops : Nat) {origin : Nat}
    (here : file.position = ⟨origin, path origin⟩)
    (trail : volume.Trail medium start path (origin + hops)) :
    (file.follow volume index hops : Scan ι _).result medium =
        ({ file with position := ⟨origin + hops, path (origin + hops)⟩ }, .ok ()) ∧
      (file.follow volume index hops : Scan ι _).readsOn medium =
        (List.range' origin hops).map fun place => volume.linkAddress (path place) := by
  induction hops generalizing file origin with
  | zero =>
    rw [Nat.add_zero, ← here]
    exact ⟨rfl, rfl⟩
  | succ hops ih =>
    have linked := trail.linkOn_eq (Nat.lt_add_of_pos_right (Nat.succ_pos hops))
    rw [Nat.add_comm hops 1, ← Nat.add_assoc] at trail
    obtain ⟨arrived, cost⟩ := ih { file with position := ⟨origin + 1, path (origin + 1)⟩ } rfl trail
    rw [follow, Scan.bind_eq, Scan.result_bind, Scan.readsOn_bind, Volume.result_successor,
      Volume.readsOn_successor, here]
    dsimp only
    rw [linked, List.range'_succ, List.map_cons, Nat.add_comm hops 1, ← Nat.add_assoc]
    exact ⟨arrived, congrArg (_ :: ·) cost⟩

theorem seek_along {index origin : Nat} (here : file.position = ⟨origin, path origin⟩)
    (forwards : origin ≤ index) (trail : volume.Trail medium start path index) :
    (file.seek volume index : Scan ι _).result medium =
        ({ file with position := ⟨index, path index⟩ }, .ok ()) ∧
      (file.seek volume index : Scan ι _).readsOn medium =
        (List.range' origin (index - origin)).map fun place => volume.linkAddress (path place) := by
  have index_eq : file.position.index = origin := congrArg Position.index here
  have valid : volume.isCluster file.position.cluster = true := by
    rw [here]
    exact trail.isCluster forwards
  have arrives : origin + (index - origin) = index := Nat.add_sub_of_le forwards
  have followed := follow_along (ι := ι) file index (index - origin) here (by rwa [arrives])
  rw [arrives] at followed
  have notBehind : ¬ index < file.position.index := by
    rw [index_eq]
    exact Nat.not_lt_of_le forwards
  unfold seek
  rw [if_neg notBehind, if_neg (by simp [valid]), index_eq]
  exact followed

theorem load_along (file : OpenFile) {bytes : List UInt8}
    (content : volume.contentOn medium file.position.cluster = .ok bytes) :
    (∃ next bytes, (file.load volume : Scan ι _).result medium = (next, .ok bytes) ∧
      next.position = file.position ∧ next.cachedCluster = some file.position.cluster) ∧
    (file.load volume : Scan ι _).readsOn medium =
      if file.cachedCluster = some file.position.cluster then []
      else volume.addresses file.position.cluster := by
  unfold load
  dsimp only
  cases held : file.cache.filter (·.cluster == file.position.cluster) with
  | some cache =>
    obtain ⟨present, same⟩ := Option.filter_eq_some_iff.mp held
    have cached : file.cachedCluster = some file.position.cluster := by
      rw [cachedCluster, present, Option.map_some, eq_of_beq same]
    rw [if_pos cached]
    exact ⟨⟨file, cache.bytes, rfl, rfl, cached⟩, rfl⟩
  | none =>
    have absent : file.cachedCluster ≠ some file.position.cluster := by
      intro cached
      obtain ⟨cache, present, same⟩ := Option.map_eq_some_iff.mp cached
      rw [present, Option.filter_eq_none_iff] at held
      exact held cache rfl (beq_iff_eq.mpr same)
    have cost := Volume.readsOn_content content
    rw [if_neg absent]
    simp only [Scan.bind_eq, Scan.result_bind, Scan.readsOn_bind, Scan.result_toList,
      Scan.readsOn_toList, cost]
    unfold Volume.contentOn at content
    dsimp only at content
    cases answered : (Scan.sectors (volume.clusterStart file.position.cluster).toNat
        volume.sectorsPerCluster.toNat).result medium with
    | error cause =>
      rw [answered] at content
      cases content
    | ok => exact ⟨⟨_, _, rfl, rfl, rfl⟩, List.append_nil _⟩

end Steps

section Spans

variable {volume : Volume} {medium : Medium} {start : UInt32} {path : Nat → UInt32}
  {file : OpenFile} (wellFormed : volume.WellFormed) (faultless : volume.Faultless medium)

include wellFormed faultless

theorem readSpans_along {origin index : Nat} (span : Span) (named : span.index = index)
    (rest : List Span) (here : file.position = ⟨origin, path origin⟩) (forwards : origin ≤ index)
    (trail : volume.Trail medium start path index) :
    ∃ next : OpenFile, next.position = ⟨index, path index⟩ ∧
      next.cachedCluster = some (path index) ∧
      (file.readSpans volume (span :: rest)).readsOn medium =
        ((List.range' origin (index - origin)).map fun place => volume.linkAddress (path place)) ++
          ((if file.cachedCluster = some (path index) then [] else volume.addresses (path index)) ++
          (next.readSpans volume rest).readsOn medium) := by
  have valid := trail.isCluster (Nat.le_refl _)
  obtain ⟨bytes, content⟩ := Volume.contentOn_faultless wellFormed faultless valid
  obtain ⟨arrived, links⟩ := seek_along (ι := List UInt8) here forwards trail
  obtain ⟨⟨next, _, loaded, placed, cached⟩, sectors⟩ := load_along (ι := List UInt8)
    { file with position := ⟨index, path index⟩ } content
  refine ⟨next, placed, cached, ?_⟩
  simp only [readSpans, named, Scan.bind_eq, Scan.readsOn_bind, arrived, links, loaded, sectors]
  rfl

/-- Behind a cluster that was just loaded, every further cluster costs its link and its sectors. -/
theorem costs_onward (offset stop : Nat) {index count : Nat} (here : file.position = ⟨index, path index⟩)
    (cached : file.cachedCluster = some (path index))
    (trail : volume.Trail medium start path (index + count))
    (apart : ∀ place < index + count, path place ≠ path (place + 1)) :
    volume.Costs
      ((file.readSpans volume ((List.range' (index + 1) count).map
        (Span.within volume.bytesPerCluster.toNat offset stop))).readsOn medium)
      ((List.range' index count).map fun place => volume.linkAddress (path place))
      ((List.range' (index + 1) count).flatMap fun place => volume.addresses (path place)) := by
  induction count generalizing file index with
  | zero => exact .nil volume
  | succ count ih =>
    have onward : index + (count + 1) = index + 1 + count := by omega
    rw [onward] at trail apart
    have further := trail.upTo (Nat.le_add_right (index + 1) count)
    rw [List.range'_succ, List.map_cons, List.range'_succ, List.map_cons, List.flatMap_cons]
    obtain ⟨next, placed, kept, reads⟩ := readSpans_along wellFormed faultless
      (Span.within volume.bytesPerCluster.toNat offset stop (index + 1)) (show _ = index + 1 from rfl)
      ((List.range' (index + 1 + 1) count).map
        (Span.within volume.bytesPerCluster.toNat offset stop)) here (Nat.le_succ index) further
    have fresh : file.cachedCluster ≠ some (path (index + 1)) := by
      rw [cached]
      exact fun same => apart index (by omega) (Option.some.inj same)
    have one : List.range' index (index + 1 - index) = [index] := by
      rw [Nat.add_sub_cancel_left]
      rfl
    rw [reads, if_neg fresh, one]
    have link := wellFormed.costs_link (trail.isCluster (show index ≤ index + 1 + count by omega))
    have loads := wellFormed.costs_sectors (trail.isCluster (Nat.le_add_right (index + 1) count))
      (List.Subset.refl _)
    exact link.append (loads.append (ih placed kept trail apart))

theorem costs_readSpans (offset stop : Nat) {origin index count : Nat}
    (here : file.position = ⟨origin, path origin⟩) (forwards : origin ≤ index)
    (trail : volume.Trail medium start path (index + count))
    (apart : ∀ place < index + count, path place ≠ path (place + 1)) :
    let spared := if file.cachedCluster = some (path index) then 1 else 0
    volume.Costs
      ((file.readSpans volume ((List.range' index (count + 1)).map
        (Span.within volume.bytesPerCluster.toNat offset stop))).readsOn medium)
      ((List.range' origin (index + count - origin)).map fun place =>
        volume.linkAddress (path place))
      ((List.range' (index + spared) (count + 1 - spared)).flatMap fun place =>
        volume.addresses (path place)) := by
  intro spared
  have within := trail.upTo (Nat.le_add_right index count)
  obtain ⟨next, placed, kept, reads⟩ := readSpans_along wellFormed faultless
    (Span.within volume.bytesPerCluster.toNat offset stop index) (show _ = index from rfl)
    ((List.range' (index + 1) count).map
      (Span.within volume.bytesPerCluster.toNat offset stop)) here forwards within
  have links : List.range' origin (index - origin) ++ List.range' index count =
      List.range' origin (index + count - origin) := by
    rw [Nat.sub_add_comm forwards, ← List.range'_append_1, Nat.add_sub_of_le forwards]
  have walked : volume.Costs
      ((List.range' origin (index - origin)).map fun place => volume.linkAddress (path place))
      ((List.range' origin (index - origin)).map fun place => volume.linkAddress (path place))
      [] := by
    refine .ofLinks fun lba member => ?_
    obtain ⟨place, inRange, rfl⟩ := List.mem_map.mp member
    have before := (List.mem_range'_1.mp inRange).2
    exact wellFormed.linkAddress_inTable (within.isCluster (by omega))
  have loaded : volume.Costs
      (if file.cachedCluster = some (path index) then [] else volume.addresses (path index)) []
      (if file.cachedCluster = some (path index) then [] else volume.addresses (path index)) := by
    refine wellFormed.costs_sectors (within.isCluster (Nat.le_refl _)) ?_
    split
    · exact List.nil_subset _
    · exact List.Subset.refl _
  have sectors : (if file.cachedCluster = some (path index) then []
      else volume.addresses (path index)) ++
        (List.range' (index + 1) count).flatMap (fun place => volume.addresses (path place)) =
      (List.range' (index + spared) (count + 1 - spared)).flatMap fun place =>
        volume.addresses (path place) := by
    unfold spared
    split
    · rfl
    · rw [Nat.sub_zero, List.range'_succ, List.flatMap_cons]
      rfl
  have onward := costs_onward wellFormed faultless offset stop placed kept trail apart
  have all := walked.append (loaded.append onward)
  rw [List.range'_succ, List.map_cons, reads, ← links, List.map_append, ← sectors]
  exact all

end Spans

/-- The place from which a read goes on to the cluster at `index`. -/
def origin (file : OpenFile) (index : Nat) : Nat :=
  if file.position.index ≤ index then file.position.index else 0

/-- The number of clusters that a read from the cluster at `index` on finds in the cache: one if
it holds that cluster and the file does not start over, and else none. -/
def spared (volume : Volume) (medium : Medium) (file : OpenFile) (index : Nat) : Nat :=
  if file.position.index ≤ index ∧
    file.cachedCluster = volume.pathOn medium file.startCluster index then 1 else 0

theorem spared_le_one (volume : Volume) (medium : Medium) (file : OpenFile) (index : Nat) :
    file.spared volume medium index ≤ 1 := by
  unfold spared
  split
  · exact Nat.le_refl 1
  · exact Nat.zero_le 1

section Reads

variable {volume : Volume} {medium : Medium} {start size : UInt32} {path : Nat → UInt32}
  {file : OpenFile}

theorem readsOn_read {offset count : Nat} (wanted : 0 < count)
    (inFile : offset < file.size.toNat) :
    (file.read volume offset count).readsOn medium =
      (file.readSpans volume (Span.cover volume.bytesPerCluster.toNat offset
        (min file.size.toNat (offset + count)))).readsOn medium := by
  unfold read
  rw [if_neg (Nat.ne_of_gt wanted), if_neg (Nat.not_le_of_lt inFile), Scan.bind_eq,
    Scan.readsOn_bind]
  exact List.append_nil _

theorem readSpans_rewind {span : Span} (rest : List Span)
    (behind : span.index < file.position.index) :
    file.readSpans volume (span :: rest) = file.rewind.readSpans volume (span :: rest) := by
  rw [readSpans, seek_rewind behind, readSpans]

/-- What the spans of clusters in a row cost, wherever the file is. -/
theorem costs_cover (wellFormed : volume.WellFormed) (faultless : volume.Faultless medium)
    (sound : file.Sound volume medium start size) (offset stop : Nat) {index count : Nat}
    (trail : volume.Trail medium start path (index + count))
    (apart : ∀ place < index + count, path place ≠ path (place + 1)) :
    volume.Costs
      ((file.readSpans volume ((List.range' index (count + 1)).map
        (Span.within volume.bytesPerCluster.toNat offset stop))).readsOn medium)
      ((List.range' (file.origin index) (index + count - file.origin index)).map fun place =>
        volume.linkAddress (path place))
      ((List.range' (index + file.spared volume medium index)
        (count + 1 - file.spared volume medium index)).flatMap fun place =>
          volume.addresses (path place)) := by
  have located := trail.onPath index (Nat.le_add_right index count)
  by_cases forwards : file.position.index ≤ index
  · have here : file.position = ⟨file.position.index, path file.position.index⟩ := by
      have onPath := trail.onPath file.position.index (Nat.le_trans forwards (Nat.le_add_right _ _))
      rw [sound.onPath] at onPath
      rw [← Option.some.inj onPath]
    have spares : file.spared volume medium index =
        if file.cachedCluster = some (path index) then 1 else 0 := by
      simp [spared, sound.start_eq, located, forwards]
    rw [origin, if_pos forwards, spares]
    exact costs_readSpans wellFormed faultless offset stop here forwards trail apart
  · have behind := Nat.lt_of_not_le forwards
    have spares : file.spared volume medium index = 0 := if_neg fun both => forwards both.1
    have here : file.rewind.position = ⟨0, path 0⟩ := by
      rw [trail.head_eq, ← sound.start_eq]
      rfl
    have nothing : file.rewind.cachedCluster ≠ some (path index) := by
      intro cached
      cases cached
    have costs := costs_readSpans wellFormed faultless offset stop here (Nat.zero_le index) trail
      apart
    rw [if_neg nothing] at costs
    rw [origin, if_neg forwards, spares, List.range'_succ, List.map_cons, readSpans_rewind _ behind]
    exact costs

/-- A cluster that is cached and not behind the file is the one that the file is at. -/
theorem Sound.index_eq_of_spared (sound : file.Sound volume medium start size) {index last : Nat}
    (trail : volume.Trail medium start path last)
    (distinct : Set.InjOn (volume.pathOn medium start) (Set.Iic last)) (within : index ≤ last)
    (spares : file.spared volume medium index = 1) : file.position.index = index := by
  have located := trail.onPath index within
  unfold spared at spares
  split at spares
  · rename_i both
    obtain ⟨forwards, cached⟩ := both
    rw [sound.start_eq, located] at cached
    obtain ⟨cache, present, same⟩ := Option.map_eq_some_iff.mp cached
    obtain ⟨-, -, earlier, behind, there⟩ := sound.cached cache present
    rw [same, ← located] at there
    have met := distinct (Set.mem_Iic.mpr (by omega)) (Set.mem_Iic.mpr within) there
    omega
  · cases spares

end Reads

end OpenFile

theorem Filesystem.exists_trail {medium : Medium} {fs : Filesystem} {handle : Handle}
    {file : OpenFile} {start size : UInt32} (wellFormed : fs.volume.WellFormed)
    (faultless : fs.volume.Faultless medium) (held : fs.files.get? handle = some file)
    (sound : file.Sound fs.volume medium start size) {offset count : Nat} {buffer : List UInt8}
    (wanted : buffer ≠ [])
    (succeeded : ((fs.readInto handle offset buffer : Scan Empty _).result medium).2.2 =
      .ok count) :
    offset < size.toNat ∧ 0 < count ∧
      offset + count = min size.toNat (offset + buffer.length) ∧
      ∃ path, fs.volume.Trail medium start path
        ((offset + count - 1) / fs.volume.bytesPerCluster.toNat) := by
  have positive := List.length_pos_iff.mpr wanted
  rw [(readInto_eq_readOn held sound offset buffer).2] at succeeded
  have counted := (OpenFile.readOn_eq_ok wellFormed wanted succeeded).1
  have inFile : offset < size.toNat := by
    by_contra behind
    unfold OpenFile.readOn at succeeded
    rw [if_neg (Nat.ne_of_gt positive), if_pos (Nat.le_of_not_lt behind)] at succeeded
    cases succeeded
  rw [OpenFile.result_readOn wellFormed faultless start positive inFile] at succeeded
  have stop : offset + count = min size.toNat (offset + buffer.length) := by omega
  rw [← stop] at succeeded
  refine ⟨inFile, by omega, stop, ?_⟩
  cases located : fs.volume.clusterAt medium start
      ((offset + count - 1) / fs.volume.bytesPerCluster.toNat) with
  | error error =>
    rw [located] at succeeded
    cases succeeded
  | ok cluster => exact Volume.Trail.exists_of_clusterAt located

theorem Filesystem.readsOn_readInto {κ : Type} {medium : Medium} {fs : Filesystem}
    {handle : Handle} {file : OpenFile} (held : fs.files.get? handle = some file) (offset : Nat)
    (buffer : List UInt8) :
    (fs.readInto handle offset buffer : Scan κ _).readsOn medium =
      (file.read fs.volume offset buffer.length).readsOn medium := by
  rw [readInto, Scan.readsOn_fill, readAt, (HandleTable.get_eq_ok_iff _).mpr held]
  dsimp only
  rw [Scan.bind_eq, Scan.readsOn_bind]
  exact List.append_nil _

/-- On a device that answers, a read from an open file asks for the sector of every link between
its origin and the last cluster of the read, and for all the sectors of the clusters of the read
but of one that is spared, provided that the chain does not come back to a cluster on the way. A
read within the cluster that is spared asks for nothing, and no read asks for a sector of a cluster
that it passes over. -/
theorem handle_reads_cost {medium : Medium} {fs : Filesystem} {ledger : Ledger}
    (reachable : Reachable medium fs ledger) (faultless : fs.volume.Faultless medium)
    {handle : Handle} {file : OpenFile} (held : fs.files.get? handle = some file)
    {offset count : Nat} {buffer : List UInt8} (wanted : buffer ≠ [])
    (succeeded : ((fs.readInto handle offset buffer : Scan Empty _).result medium).2.2 = .ok count)
    (distinct : Set.InjOn (fs.volume.pathOn medium file.startCluster)
      (Set.Iic (max file.position.index
        ((offset + count - 1) / fs.volume.bytesPerCluster.toNat)))) :
    let volume := fs.volume
    let first := offset / volume.bytesPerCluster.toNat
    let last := (offset + count - 1) / volume.bytesPerCluster.toNat
    let origin := file.origin first
    let spared := file.spared volume medium first
    let reads := (fs.readInto handle offset buffer : Scan Empty _).readsOn medium
    (∃ path : Nat → UInt32,
      (∀ place ≤ last, volume.pathOn medium file.startCluster place = some (path place)) ∧
      volume.Costs reads
        ((List.range' origin (last - origin)).map fun place => volume.linkAddress (path place))
        ((List.range' (first + spared) (last - first + 1 - spared)).flatMap fun place =>
          volume.addresses (path place))) ∧
    volume.Counts reads (last - origin)
      (volume.sectorsPerCluster.toNat * (last - first + 1 - spared)) ∧
    (∀ lba ∈ reads, ∃ sector, medium lba = .ok sector) ∧
    (first = last → spared = 1 → reads = []) ∧
    ∀ place < first, ∀ cluster,
      volume.pathOn medium file.startCluster place = some cluster →
      ∀ lba ∈ reads, lba.toNat ∉ volume.extent cluster := by
  intro volume first last origin spared reads
  have wellFormed : volume.WellFormed := reachable.kept.wellFormed
  obtain ⟨entry, -, sound⟩ := reachable.kept.sound handle file held
  rw [sound.start_eq] at distinct ⊢
  obtain ⟨inFile, positive, stop, path, trail⟩ :=
    Filesystem.exists_trail wellFormed faultless held sound wanted succeeded
  have inOrder : first ≤ last := Nat.div_le_div_right (by omega)
  have onward : first + (last - first) = last := Nat.add_sub_of_le inOrder
  have different : ∀ one ≤ last, ∀ other ≤ last, path one = path other → one = other := by
    intro one oneWithin other otherWithin same
    refine distinct (Set.mem_Iic.mpr ?_) (Set.mem_Iic.mpr ?_) ?_
    · exact Nat.le_trans oneWithin (Nat.le_max_right _ _)
    · exact Nat.le_trans otherWithin (Nat.le_max_right _ _)
    · rw [trail.onPath one oneWithin, trail.onPath other otherWithin, same]
  have costs : volume.Costs reads
      ((List.range' origin (last - origin)).map fun place => volume.linkAddress (path place))
      ((List.range' (first + spared) (last - first + 1 - spared)).flatMap fun place =>
        volume.addresses (path place)) := by
    have spans := OpenFile.costs_cover wellFormed faultless sound offset (offset + count)
      (show volume.Trail medium entry.cluster path (first + (last - first)) by rwa [onward])
      fun place before same => by
        have equal := different place (by omega) (place + 1) (by omega) same
        omega
    unfold reads
    rw [Filesystem.readsOn_readInto held, OpenFile.readsOn_read (List.length_pos_iff.mpr wanted)
      (by rwa [sound.size_eq]), sound.size_eq, ← stop, Span.cover_eq]
    change volume.Costs ((file.readSpans volume ((List.range' first (last + 1 - first)).map
      _)).readsOn medium) _ _
    rw [Nat.sub_add_comm inOrder]
    rw [onward] at spans
    exact spans
  have counts : volume.Counts reads (last - origin)
      (volume.sectorsPerCluster.toNat * (last - first + 1 - spared)) := by
    have counted := costs.counts wellFormed
    rwa [List.length_map, List.length_range',
      length_flatMap_eq_mul (fun place => volume.length_addresses _), List.length_range',
      Nat.mul_comm] at counted
  refine ⟨⟨path, trail.onPath, costs⟩, counts, costs.served wellFormed faultless, ?_, ?_⟩
  · intro oneCluster cached
    have atFirst : file.position.index = first := by
      refine sound.index_eq_of_spared (trail.upTo inOrder) ?_ (Nat.le_refl first) cached
      exact distinct.mono (Set.Iic_subset_Iic.mpr (Nat.le_trans inOrder (Nat.le_max_right _ _)))
    have atOrigin : origin = first := by
      rw [← atFirst]
      exact if_pos (Nat.le_of_eq atFirst)
    have total := counts.length_eq
    rw [cached, atOrigin, oneCluster] at total
    exact List.length_eq_zero_iff.mp (by rw [total]; simp)
  · intro place before cluster located
    have within : place ≤ last := Nat.le_trans (Nat.le_of_lt before) inOrder
    rw [trail.onPath place within] at located
    cases located
    rw [← List.flatMap_map] at costs
    refine costs.not_mem_extent wellFormed (trail.isCluster within) fun other among => ?_
    obtain ⟨later, inRange, rfl⟩ := List.mem_map.mp among
    have placed := List.mem_range'_1.mp inRange
    have atMost : spared ≤ 1 := file.spared_le_one volume medium first
    have laterWithin : later ≤ last := by omega
    refine ⟨trail.isCluster laterWithin, fun same => ?_⟩
    have equal := different later laterWithin place within same
    omega

/-- The first cluster of the file was read and is cached, so that a read across the border of its
two clusters costs one link and the one sector of the second cluster. -/
theorem handle_reads_cost_cached :
    let medium := Volume.answeringMedium
    let fs : Filesystem := ⟨.small, ⟨2, "/", []⟩, .empty⟩
    let opened := (((Call.openFile "a.txt").run fs : Scan Empty _).result medium).1
    let visited := (((Call.readAt 0 0 4).run opened : Scan Empty _).result medium).1
    let reading := (visited.readInto 0 510 [7, 7, 7, 7] : Scan Empty _)
    ∃ ledger file,
      Reachable medium visited ledger ∧
      visited.volume.Faultless medium ∧
      visited.files.get? 0 = some file ∧
      [7, 7, 7, 7] ≠ ([] : List UInt8) ∧
      (reading.result medium).2.2 = .ok 4 ∧
      Set.InjOn (visited.volume.pathOn medium file.startCluster) (Set.Iic (max file.position.index
        ((510 + 4 - 1) / visited.volume.bytesPerCluster.toNat))) ∧
      file.position = ⟨0, 3⟩ ∧
      file.cachedCluster = some 3 ∧
      visited.volume.Counts (reading.readsOn medium) 1 1 := by
  intro medium fs opened visited reading
  have mounted : Reachable medium fs .empty :=
    .small rfl rfl (by decide)
  have reachable : ∃ ledger, Reachable medium visited ledger :=
    ⟨_, (mounted.called (.openFile "a.txt")).called (.readAt 0 0 4)⟩
  have volume_eq : visited.volume = .small := by decide +kernel
  have placed : (visited.files.get? 0).map (fun file => (file.startCluster, file.position,
    file.cachedCluster)) = some (3, ⟨0, 3⟩, some 3) := by decide +kernel
  have counted : (reading.result medium).2.2.toOption = some 4 := by decide +kernel
  -- The state itself is not needed any more, and evaluating it is slow.
  clear_value visited
  obtain ⟨ledger, reachable⟩ := reachable
  obtain ⟨file, held, known⟩ := Option.map_eq_some_iff.mp placed
  obtain ⟨start_eq, position_eq, cached⟩ : file.startCluster = 3 ∧ file.position = ⟨0, 3⟩ ∧
    file.cachedCluster = some 3 := by simpa using known
  have faultless : visited.volume.Faultless medium := by
    intro lba _
    unfold medium Volume.answeringMedium
    split <;> exact ⟨_, rfl⟩
  have distinct : Set.InjOn (visited.volume.pathOn medium file.startCluster)
      (Set.Iic (max file.position.index
        ((510 + 4 - 1) / visited.volume.bytesPerCluster.toNat))) := by
    rw [volume_eq, start_eq, position_eq]
    have apart : Volume.small.pathOn medium 3 0 ≠ Volume.small.pathOn medium 3 1 := by
      decide +kernel
    rintro one (oneWithin : one ≤ 1) other (otherWithin : other ≤ 1) same
    interval_cases one <;> interval_cases other
    · rfl
    · exact absurd same apart
    · exact absurd same.symm apart
    · rfl
  have answered := eq_ok_of_toOption counted
  obtain ⟨-, counts, -⟩ :=
    handle_reads_cost reachable faultless held (List.cons_ne_nil 7 _) answered distinct
  have origin : file.origin 0 = 0 := by
    rw [OpenFile.origin, position_eq]
    rfl
  have spared : file.spared visited.volume medium 0 = 1 := by
    rw [OpenFile.spared, position_eq, cached, start_eq]
    rfl
  have bytes : visited.volume.bytesPerCluster.toNat = 512 := by
    rw [volume_eq]
    rfl
  have perCluster : visited.volume.sectorsPerCluster.toNat = 1 := by
    rw [volume_eq]
    rfl
  rw [bytes, perCluster, show 510 / 512 = 0 from rfl, origin, spared] at counts
  exact ⟨ledger, file, reachable, faultless, held, List.cons_ne_nil 7 _, answered, distinct,
    position_eq, cached, counts⟩

end Fat32
