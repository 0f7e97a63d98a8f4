import Fat32.Proofs.Volume.Geometry
import Fat32.Proofs.Volume.Path

/-!
Which links between clusters can be followed. An entry of the table keeps 28
bits and its greatest eight values mark the end of a chain, while clusters are
counted as far as 32 bits of sectors and the size of the table go. A layout with
small clusters can count past the mark (`exists_cluster_ge_endOfChain_iff`), and
a link to a cluster from there on is lost: it ends the chain, or it leads to the
cluster with the same low bits.
-/

namespace Fat32.Volume

variable {volume : Volume} {medium : Medium}

theorem entry_inside (cluster : UInt32) : cluster.toNat % 128 * 4 + 3 < 512 := by
  omega

/-- All 32 bits stored for a cluster in a sector of the table, of which `entryIn` keeps 28. -/
def wordIn (sector : Sector) (cluster : UInt32) : UInt32 :=
  sector.word32 (cluster.toNat % 128 * 4) (entry_inside cluster)

theorem entryIn_eq (sector : Sector) (cluster : UInt32) :
    entryIn sector cluster = wordIn sector cluster &&& 0x0FFFFFFF :=
  rfl

theorem toNat_entryBits (stored : UInt32) :
    (stored &&& 0x0FFFFFFF).toNat = stored.toNat % 0x10000000 := by
  rw [UInt32.toNat_and]
  exact Nat.and_two_pow_sub_one_eq_mod _ 28

theorem entryBits_eq_self {stored : UInt32} (below : stored < endOfChain) :
    stored &&& 0x0FFFFFFF = stored := by
  have bound : stored.toNat < 0x0FFFFFF8 := UInt32.lt_iff_toNat_lt.mp below
  apply UInt32.toNat_inj.mp
  rw [toNat_entryBits]
  omega

theorem linkOn_of_ok {cluster : UInt32} {sector : Sector}
    (answered : medium (volume.fatStart + cluster / entriesPerFatSector) = .ok sector) :
    volume.linkOn medium cluster =
      if endOfChain ≤ entryIn sector cluster then .ok none
      else if volume.isCluster (entryIn sector cluster) then .ok (some (entryIn sector cluster))
      else .error .corruptChain := by
  rw [linkOn, answered]

namespace WellFormed

variable (wellFormed : volume.WellFormed)

include wellFormed

/-- What is left of a cluster number in an entry is a cluster number unless it is reserved. -/
theorem isCluster_entryBits {next : UInt32} (valid : volume.isCluster next = true) :
    volume.isCluster (next &&& 0x0FFFFFFF) = decide (2 ≤ next &&& 0x0FFFFFFF) := by
  have atMost := (wellFormed.isCluster_iff.mp valid).2
  have fewer : (next &&& 0x0FFFFFFF).toNat ≤ next.toNat := by
    rw [toNat_entryBits]
    exact Nat.mod_le _ _
  rw [Bool.eq_iff_iff, wellFormed.isCluster_iff, decide_eq_true_eq, UInt32.le_iff_toNat_le]
  exact and_iff_left (by omega)

theorem sectors_lt {cluster : UInt32} (valid : volume.isCluster cluster = true) :
    cluster.toNat / 128 + (cluster.toNat - 1) * volume.sectorsPerCluster.toNat < Word.limit := by
  have inFirst := (wellFormed.toNat_tableSector valid).2
  have tables := wellFormed.tables_le wellFormed.fatCount_pos
  have ends := wellFormed.extent_end_le valid
  have inWord := wellFormed.inWord
  omega

/-- Clusters of sixteen sectors are too few to be mistaken for the mark of an end. -/
theorem lt_endOfChain {cluster : UInt32} (valid : volume.isCluster cluster = true)
    (large : 16 ≤ volume.sectorsPerCluster.toNat) : cluster < endOfChain := by
  have sectors := wellFormed.sectors_lt valid
  have limit := Word.limit_eq
  have counted : (cluster.toNat - 1) * 16 ≤
      (cluster.toNat - 1) * volume.sectorsPerCluster.toNat := Nat.mul_le_mul_left _ large
  rw [UInt32.lt_iff_toNat_lt]
  change cluster.toNat < 0x0FFFFFF8
  omega

end WellFormed

/-- A header that lays out more clusters than an entry of the table can name. -/
def wideHeader (perCluster : UInt8) : Header where
  bytesPerSector := 512
  sectorsPerCluster := perCluster
  reservedSectors := 1
  fatCount := 1
  totalSectors := 0xFFFFFFFF
  sectorsPerFat := 0x200001
  rootCluster := 2

theorem wideHeader_counts : ∀ perCluster < 16, 1 ≤ perCluster →
    ∃ volume, ofHeader 0 (wideHeader (.ofNat perCluster)) = .ok volume ∧
      volume.isCluster endOfChain = true := by
  have counted : ∀ perCluster < 16, 1 ≤ perCluster →
      ((ofHeader 0 (wideHeader (.ofNat perCluster))).toOption.any (·.isCluster endOfChain)) =
        true := by
    decide +kernel
  intro perCluster small positive
  have counts := counted perCluster small positive
  cases laidOut : ofHeader 0 (wideHeader (.ofNat perCluster)) with
  | error fault =>
    rw [laidOut] at counts
    cases counts
  | ok volume =>
    rw [laidOut] at counts
    exact ⟨volume, rfl, counts⟩

/-- Some layout with clusters of a given size has a cluster whose number marks the end of a
chain, just when the size is less than sixteen sectors. -/
theorem exists_cluster_ge_endOfChain_iff (perCluster : UInt8) :
    (∃ start header volume, ofHeader start header = .ok volume ∧
        header.sectorsPerCluster = perCluster ∧
        ∃ cluster, volume.isCluster cluster = true ∧ endOfChain ≤ cluster) ↔
      1 ≤ perCluster.toNat ∧ perCluster.toNat < 16 := by
  constructor
  · rintro ⟨start, header, volume, accepted, rfl, cluster, valid, marked⟩
    have wellFormed := ofHeader_wellFormed accepted
    have size : volume.sectorsPerCluster.toNat = header.sectorsPerCluster.toNat := by
      rw [sectorsPerCluster, (ofHeader_eq accepted).1, UInt8.toNat_toUInt32]
    rw [← size]
    refine ⟨wellFormed.perCluster_pos, Nat.lt_of_not_le fun large => ?_⟩
    exact UInt32.not_lt.mpr marked (wellFormed.lt_endOfChain valid large)
  · rintro ⟨positive, small⟩
    obtain ⟨volume, accepted, valid⟩ := wideHeader_counts _ small positive
    rw [UInt8.ofNat_toNat] at accepted
    exact ⟨0, _, volume, accepted, rfl, endOfChain, valid, UInt32.le_refl _⟩

/-- How the table leads on from a cluster whose entry stores the number of another cluster. The
entry keeps the low 28 bits of it. From the mark on they end the chain, below they are the next
cluster unless they are one of the two reserved numbers. So a link is followed just when it is
below the mark, as all links are where a cluster has sixteen sectors or more. -/
theorem link_followed_iff_lt_endOfChain {ι : Type} {start : UInt32} {boot : Sector}
    (accepted : (ofBootSector start boot : Attempt ι Volume) = pure volume)
    {cluster next : UInt32} (valid : volume.isCluster next = true) {sector : Sector}
    (answered : medium (volume.fatStart + cluster / entriesPerFatSector) = .ok sector)
    (stored : wordIn sector cluster = next) :
    let kept := next &&& 0x0FFFFFFF
    let answer := (volume.successor cluster : Attempt ι (Option UInt32)).run.result medium
    kept.toNat = next.toNat % 0x10000000 ∧
      answer = (if endOfChain ≤ kept then .ok none
        else if 2 ≤ kept then .ok (some kept) else .error .corruptChain) ∧
      (answer = .ok (some next) ↔ next < endOfChain) ∧
      (16 ≤ volume.sectorsPerCluster.toNat → answer = .ok (some next)) := by
  intro kept answer
  have wellFormed := ofHeader_wellFormed (ofBootSector_eq_pure_iff.mp accepted)
  have reads : answer = if endOfChain ≤ kept then .ok none
      else if 2 ≤ kept then .ok (some kept) else .error .corruptChain := by
    have entry : entryIn sector cluster = kept := by rw [entryIn_eq, stored]
    simp only [answer, result_successor, linkOn_of_ok answered, entry, kept,
      wellFormed.isCluster_entryBits valid, decide_eq_true_eq]
  have followed : answer = .ok (some next) ↔ next < endOfChain := by
    rw [reads]
    constructor
    · intro same
      split at same
      · cases same
      · rename_i unmarked
        split at same
        · rw [← Option.some.inj (Except.ok.inj same)]
          exact UInt32.not_le.mp unmarked
        · cases same
    · intro below
      have whole : kept = next := entryBits_eq_self below
      have numbered : 2 ≤ next :=
        UInt32.le_iff_toNat_le.mpr (wellFormed.isCluster_iff.mp valid).1
      rw [whole, if_neg (UInt32.not_le.mpr below), if_pos numbered]
  exact ⟨toNat_entryBits next, reads, followed,
    fun large => followed.mpr (wellFormed.lt_endOfChain valid large)⟩

def markedTable (low : UInt8) : Sector :=
  .ofList 512 [0, 0, 0, 0, 0, 0, 0, 0, 0, 0, 0, 0, low, 0xFF, 0xFF, 0x0F]

def markedMedium (low : UInt8) : Medium := fun lba =>
  .ok (if lba = 1 then markedTable low else .zero 512)

def wideBoot : Sector := .ofList 512 [0xEB, 0, 0, 0, 0, 0, 0, 0, 0, 0, 0, 0, 2, 1, 1, 0, 1, 0, 0,
  0, 0, 0, 0, 0, 0, 0, 0, 0, 0, 0, 0, 0, 0xFF, 0xFF, 0xFF, 0xFF, 1, 0, 0x20, 0, 0, 0, 0, 0, 2]

def wide : Volume where
  header := wideHeader 1
  start := 0
  fatStart := 1
  dataStart := 0x200002
  bytesPerCluster := 512
  clusterCount := 0x1000007E

theorem ofBootSector_wideBoot {ι : Type} :
    (ofBootSector 0 wideBoot : Attempt ι Volume) = pure wide := by
  apply ofBootSector_eq_pure_iff.mpr
  have fields : Header.ofSector wideBoot = wideHeader 1 := by decide +kernel
  rw [fields]
  rfl

theorem link_followed_iff_lt_endOfChain_wide :
    ((ofBootSector 0 wideBoot : Attempt Empty Volume) = pure wide ∧
      wide.isCluster 0x0FFFFFF7 = true) ∧
    (wide.successor 3 : Attempt Empty _).run.result (markedMedium 0xF7) =
      .ok (some 0x0FFFFFF7) := by
  have valid : wide.isCluster 0x0FFFFFF7 = true := by decide
  have answered : markedMedium 0xF7 (wide.fatStart + 3 / entriesPerFatSector) =
      .ok (markedTable 0xF7) := rfl
  have stored : wordIn (markedTable 0xF7) 3 = 0x0FFFFFF7 := by decide +kernel
  obtain ⟨-, -, followed, -⟩ :=
    link_followed_iff_lt_endOfChain ofBootSector_wideBoot valid answered stored
  exact ⟨⟨ofBootSector_wideBoot, valid⟩, followed.mpr (by decide)⟩

/-- A link to cluster `0x0FFFFFF8` of an accepted volume is taken for the end of the chain. -/
theorem links_lost_from_endOfChain : ¬ ∀ (start : UInt32) (boot : Sector) (volume : Volume),
    (ofBootSector start boot : Attempt Empty Volume) = pure volume →
    ∀ (medium : Medium) (cluster next : UInt32) (sector : Sector),
      volume.isCluster cluster = true → volume.isCluster next = true →
      medium (volume.fatStart + cluster / entriesPerFatSector) = .ok sector →
      wordIn sector cluster = next →
      (volume.successor cluster : Attempt Empty _).run.result medium = .ok (some next) := by
  intro follows
  have stored : wordIn (markedTable 0xF8) 3 = 0x0FFFFFF8 := by decide +kernel
  have followed := follows 0 wideBoot wide ofBootSector_wideBoot (markedMedium 0xF8) 3 0x0FFFFFF8
    (markedTable 0xF8) (by decide) (by decide) rfl stored
  have ended : wide.linkOn (markedMedium 0xF8) 3 = .ok none := by decide +kernel
  rw [result_successor, ended] at followed
  cases followed

end Fat32.Volume
