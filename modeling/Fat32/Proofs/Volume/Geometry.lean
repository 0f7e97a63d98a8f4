import Mathlib.Order.Interval.Set.Basic
import Fat32.Proofs.Word
import Fat32.Volume.Chain

/-!
The layout of an accepted volume in exact numbers. `WellFormed` says what the
checks of `ofHeader` establish, and everything else about addresses follows
from it: no address computation wraps around, the clusters lie behind all
tables and apart from each other, and every cluster has its entry in the first
table.
-/

namespace Fat32

theorem Header.fault?_eq_none_iff (header : Header) :
    header.fault? = none ↔
      header.bytesPerSector.toNat = sectorSize ∧ header.sectorsPerCluster ≠ 0 ∧
        header.fatCount ≠ 0 ∧ header.sectorsPerCluster.toNat ≤ maxClusterSectors ∧
        header.sectorsPerFat ≠ 0 ∧ ¬ header.rootCluster < 2 := by
  unfold Header.fault?
  repeat' split
  all_goals simp_all

namespace Volume

/-- What the checks of a header establish about the volume that it lays out. -/
structure WellFormed (volume : Volume) : Prop where
  perCluster_pos : 0 < volume.sectorsPerCluster.toNat
  perCluster_le : volume.sectorsPerCluster.toNat ≤ maxClusterSectors
  clusterBytes : volume.bytesPerCluster.toNat = volume.sectorsPerCluster.toNat * sectorSize
  fatCount_pos : 0 < volume.header.fatCount.toNat
  fatStart_eq : volume.fatStart.toNat = volume.start.toNat + volume.header.reservedSectors.toNat
  dataStart_eq : volume.dataStart.toNat = volume.fatStart.toNat +
    volume.header.fatCount.toNat * volume.header.sectorsPerFat.toNat
  /-- The clusters fit behind the tables. -/
  inTotal : volume.dataStart.toNat + volume.clusterCount.toNat * volume.sectorsPerCluster.toNat ≤
    volume.start.toNat + volume.header.totalSectors.toNat
  /-- Every cluster has an entry in a table, behind the two that belong to none. -/
  inTable : volume.clusterCount.toNat + 2 ≤ volume.header.sectorsPerFat.toNat * 128
  inWord : volume.start.toNat + volume.header.totalSectors.toNat < Word.limit
  root_ge : 2 ≤ volume.rootCluster.toNat
  root_le : volume.rootCluster.toNat ≤ volume.clusterCount.toNat + 1

theorem toNat_countClusters (header : Header) (metadata : UInt32)
    (room : metadata < header.totalSectors) :
    (countClusters header metadata).toNat =
      min ((header.totalSectors.toNat - metadata.toNat) / header.sectorsPerCluster.toNat)
        (min (header.sectorsPerFat.toNat * 128) (Word.limit - 1) - 2) := by
  rw [UInt32.lt_iff_toNat_lt] at room
  have ordered : metadata ≤ header.totalSectors := UInt32.le_iff_toNat_le.mpr room.le
  rw [countClusters, Word.toNat_min, Word.toNat_subClamped, Word.toNat_mulClamped,
    UInt32.toNat_div, UInt32.toNat_sub_of_le _ _ ordered, UInt8.toNat_toUInt32]
  rfl

/-- The count is bounded twice: by the sectors behind the tables and by the entries of a table. -/
theorem countClusters_le {header : Header} {metadata : UInt32}
    (room : metadata < header.totalSectors) (perCluster : 0 < header.sectorsPerCluster.toNat)
    (some : countClusters header metadata ≠ 0) :
    (countClusters header metadata).toNat * header.sectorsPerCluster.toNat ≤
        header.totalSectors.toNat - metadata.toNat ∧
      (countClusters header metadata).toNat + 2 ≤ header.sectorsPerFat.toNat * 128 ∧
      (countClusters header metadata).toNat + 1 < Word.limit := by
  have counted := toNat_countClusters header metadata room
  have limit := Word.limit_eq
  have positive : (countClusters header metadata).toNat ≠ 0 := by
    intro zero
    exact some (UInt32.toNat_inj.mp zero)
  refine ⟨?_, by omega, by omega⟩
  apply (Nat.le_div_iff_mul_le perCluster).mp
  omega

/-- The checks of a header, and the volume that it lays out when they pass. -/
theorem ofHeader_eq_ok {start : UInt32} {header : Header} {volume : Volume}
    (accepted : ofHeader start header = .ok volume) :
    ∃ tables metadata fatStart dataStart,
      header.fault? = none ∧
      Word.mul? header.fatCount.toUInt32 header.sectorsPerFat = some tables ∧
      Word.add? tables header.reservedSectors.toUInt32 = some metadata ∧
      Word.add? start header.reservedSectors.toUInt32 = some fatStart ∧
      Word.add? start metadata = some dataStart ∧
      metadata < header.totalSectors ∧
      Word.add? start header.totalSectors ≠ none ∧
      countClusters header metadata ≠ 0 ∧
      header.rootCluster ≤ countClusters header metadata + 1 ∧
      volume = {
        header, start, fatStart, dataStart
        bytesPerCluster := header.sectorsPerCluster.toUInt32 * 512
        clusterCount := countClusters header metadata } := by
  simp only [ofHeader, bind, Except.bind, pure, Except.pure, throw, throwThe,
    MonadExceptOf.throw] at accepted
  repeat' split at accepted
  all_goals try contradiction
  rename_i faultless _ tables tablesFit _ metadata metadataFits _ fatStart fatFits _ dataStart
    dataFits room count
  simp only [Bool.or_eq_true, decide_eq_true_eq, Option.isNone_iff_eq_none, not_or,
    UInt32.not_le, UInt32.not_lt] at room count
  have sound : header.fault? = none := Option.eq_none_iff_forall_not_mem.mpr faultless
  cases accepted
  exact ⟨tables, metadata, fatStart, dataStart, sound, tablesFit, metadataFits, fatFits, dataFits,
    room.1, room.2, count.1, count.2, rfl⟩

theorem ofHeader_eq {start : UInt32} {header : Header} {volume : Volume}
    (accepted : ofHeader start header = .ok volume) :
    volume.header = header ∧ volume.start = start := by
  obtain ⟨_, _, _, _, _, _, _, _, _, _, _, _, _, rfl⟩ := ofHeader_eq_ok accepted
  exact ⟨rfl, rfl⟩

theorem ofHeader_wellFormed {start : UInt32} {header : Header} {volume : Volume}
    (accepted : ofHeader start header = .ok volume) : volume.WellFormed := by
  rcases ofHeader_eq_ok accepted with
    ⟨tables, metadata, fatStart, dataStart, sound, tablesFit, metadataFits, fatFits, dataFits,
      room, totalFits, some, rootInside, rfl⟩
  obtain ⟨-, perClusterNe, fatCountNe, perClusterLe, -, rootReserved⟩ :=
    (Header.fault?_eq_none_iff header).mp sound
  have tablesEq := Word.toNat_of_mul? tablesFit
  have metadataEq := Word.toNat_of_add? metadataFits
  have fatStartEq := Word.toNat_of_add? fatFits
  have dataStartEq := Word.toNat_of_add? dataFits
  have totalLt : start.toNat + header.totalSectors.toNat < Word.limit := by
    rw [Ne, Word.add?_eq_none_iff] at totalFits
    omega
  have roomLt := UInt32.lt_iff_toNat_lt.mp room
  simp only [UInt8.toNat_toUInt32, UInt16.toNat_toUInt32] at tablesEq metadataEq fatStartEq
  have perClusterPos : 0 < header.sectorsPerCluster.toNat := by
    apply Nat.pos_of_ne_zero
    intro zero
    exact perClusterNe (UInt8.toNat_inj.mp zero)
  obtain ⟨byData, byTable, inWord⟩ := countClusters_le room perClusterPos some
  have countSucc : (countClusters header metadata + 1).toNat =
      (countClusters header metadata).toNat + 1 := Word.toNat_add_of_lt inWord
  rw [UInt32.le_iff_toNat_le, countSucc] at rootInside
  have perClusterBytes : (header.sectorsPerCluster.toUInt32 * 512).toNat =
      header.sectorsPerCluster.toNat * 512 := by
    apply Word.toNat_mul_of_lt
    change header.sectorsPerCluster.toNat * 512 < Word.limit
    unfold maxClusterSectors at perClusterLe
    rw [Word.limit_eq]
    omega
  constructor
  case perCluster_pos => simpa [sectorsPerCluster] using perClusterPos
  case perCluster_le => simpa [sectorsPerCluster] using perClusterLe
  case clusterBytes => simpa [sectorsPerCluster] using perClusterBytes
  case fatCount_pos => exact Nat.pos_of_ne_zero fun zero => fatCountNe (UInt8.toNat_inj.mp zero)
  case fatStart_eq => exact fatStartEq
  case dataStart_eq => simp only; omega
  case inTotal => simp only [sectorsPerCluster, UInt8.toNat_toUInt32]; omega
  case inTable => exact byTable
  case inWord => exact totalLt
  case root_ge => exact UInt32.le_iff_toNat_le.mp (UInt32.not_lt.mp rootReserved)
  case root_le => exact rootInside

theorem ofBootSector_eq_pure_iff {ι : Type} {start : UInt32} {sector : Sector} {volume : Volume} :
    (ofBootSector start sector : Attempt ι Volume) = pure volume ↔
      ofHeader start (.ofSector sector) = .ok volume := by
  unfold ofBootSector
  split
  · rename_i laidOut found
    rw [found, Except.ok.injEq]
    constructor
    · intro same
      cases same
      rfl
    · rintro rfl
      rfl
  · rename_i fault found
    rw [found]
    refine ⟨fun same => ?_, fun same => by cases same⟩
    unfold refuse at same
    split at same <;> cases same

theorem div_entriesPerFatSector (cluster : UInt32) :
    cluster / entriesPerFatSector = .ofNat (cluster.toNat / 128) := by
  have below : cluster.toNat < Word.limit := cluster.toNat_lt
  apply UInt32.toNat_inj.mp
  rw [UInt32.toNat_div, Word.toNat_ofNat_of_lt (by omega)]
  rfl

/-- The sectors of a cluster, by their exact numbers. -/
def extent (volume : Volume) (cluster : UInt32) : Set Nat :=
  Set.Ico (volume.dataStart.toNat + (cluster.toNat - 2) * volume.sectorsPerCluster.toNat)
    (volume.dataStart.toNat + (cluster.toNat - 1) * volume.sectorsPerCluster.toNat)

/-- The sectors of one of the tables, which are counted from 0. -/
def tableExtent (volume : Volume) (copy : Nat) : Set Nat :=
  Set.Ico (volume.fatStart.toNat + copy * volume.header.sectorsPerFat.toNat)
    (volume.fatStart.toNat + (copy + 1) * volume.header.sectorsPerFat.toNat)

def wholeExtent (volume : Volume) : Set Nat :=
  Set.Ico volume.start.toNat (volume.start.toNat + volume.header.totalSectors.toNat)

namespace WellFormed

variable {volume : Volume} (wellFormed : volume.WellFormed)

include wellFormed

theorem bytesPerCluster_pos : 0 < volume.bytesPerCluster.toNat := by
  rw [wellFormed.clusterBytes]
  exact Nat.mul_pos wellFormed.perCluster_pos (by decide)

theorem tables_le {copy : Nat} (numbered : copy < volume.header.fatCount.toNat) :
    volume.fatStart.toNat + (copy + 1) * volume.header.sectorsPerFat.toNat ≤
      volume.dataStart.toNat := by
  have tables : (copy + 1) * volume.header.sectorsPerFat.toNat ≤
      volume.header.fatCount.toNat * volume.header.sectorsPerFat.toNat :=
    Nat.mul_le_mul_right _ numbered
  have dataStart := wellFormed.dataStart_eq
  omega

theorem clusters_le : volume.dataStart.toNat + volume.clusterCount.toNat ≤
    volume.start.toNat + volume.header.totalSectors.toNat := by
  have counted : volume.clusterCount.toNat * 1 ≤
      volume.clusterCount.toNat * volume.sectorsPerCluster.toNat :=
    Nat.mul_le_mul_left _ wellFormed.perCluster_pos
  have inTotal := wellFormed.inTotal
  omega

theorem firstTable_le : volume.fatStart.toNat + volume.header.sectorsPerFat.toNat +
    volume.clusterCount.toNat ≤ volume.start.toNat + volume.header.totalSectors.toNat := by
  have tables := wellFormed.tables_le wellFormed.fatCount_pos
  have clusters := wellFormed.clusters_le
  omega

theorem toNat_maxCluster : volume.maxCluster.toNat = volume.clusterCount.toNat + 1 := by
  apply Word.toNat_add_of_lt
  have inTable := wellFormed.inTable
  have fits := wellFormed.firstTable_le
  have inWord := wellFormed.inWord
  change volume.clusterCount.toNat + 1 < Word.limit
  omega

theorem isCluster_iff {cluster : UInt32} :
    volume.isCluster cluster = true ↔
      2 ≤ cluster.toNat ∧ cluster.toNat ≤ volume.clusterCount.toNat + 1 := by
  unfold isCluster
  rw [Bool.and_eq_true, decide_eq_true_eq, decide_eq_true_eq, UInt32.le_iff_toNat_le,
    UInt32.le_iff_toNat_le, wellFormed.toNat_maxCluster]
  rfl

theorem extent_end_le {cluster : UInt32} (valid : volume.isCluster cluster = true) :
    volume.dataStart.toNat + (cluster.toNat - 1) * volume.sectorsPerCluster.toNat ≤
      volume.start.toNat + volume.header.totalSectors.toNat := by
  have numbered := (wellFormed.isCluster_iff.mp valid).2
  have counted : (cluster.toNat - 1) * volume.sectorsPerCluster.toNat ≤
      volume.clusterCount.toNat * volume.sectorsPerCluster.toNat :=
    Nat.mul_le_mul_right _ (by omega)
  have inTotal := wellFormed.inTotal
  omega

theorem extent_length {cluster : UInt32} (valid : volume.isCluster cluster = true) :
    (cluster.toNat - 1) * volume.sectorsPerCluster.toNat =
      (cluster.toNat - 2) * volume.sectorsPerCluster.toNat + volume.sectorsPerCluster.toNat := by
  have numbered := (wellFormed.isCluster_iff.mp valid).1
  have next : cluster.toNat - 1 = cluster.toNat - 2 + 1 := by omega
  rw [next, Nat.succ_mul]

theorem toNat_clusterStart {cluster : UInt32} (valid : volume.isCluster cluster = true) :
    (volume.clusterStart cluster).toNat =
      volume.dataStart.toNat + (cluster.toNat - 2) * volume.sectorsPerCluster.toNat := by
  have numbered := (wellFormed.isCluster_iff.mp valid).1
  have ends := wellFormed.extent_end_le valid
  have length := wellFormed.extent_length valid
  have inWord := wellFormed.inWord
  have behindTwo : (cluster - 2).toNat = cluster.toNat - 2 :=
    UInt32.toNat_sub_of_le _ _ (UInt32.le_iff_toNat_le.mpr numbered)
  have product : ((cluster - 2) * volume.sectorsPerCluster).toNat =
      (cluster.toNat - 2) * volume.sectorsPerCluster.toNat := by
    rw [← behindTwo]
    apply Word.toNat_mul_of_lt
    rw [behindTwo]
    omega
  unfold clusterStart
  rw [← product]
  apply Word.toNat_add_of_lt
  rw [product]
  omega

theorem toNat_clusterStart_add {cluster : UInt32} (valid : volume.isCluster cluster = true)
    {index : Nat} (inCluster : index < volume.sectorsPerCluster.toNat) :
    (volume.clusterStart cluster + .ofNat index).toNat =
      volume.dataStart.toNat + (cluster.toNat - 2) * volume.sectorsPerCluster.toNat + index := by
  have ends := wellFormed.extent_end_le valid
  have length := wellFormed.extent_length valid
  have inWord := wellFormed.inWord
  have start := wellFormed.toNat_clusterStart valid
  have indexed : (UInt32.ofNat index).toNat = index := Word.toNat_ofNat_of_lt (by omega)
  rw [Word.toNat_add_of_lt (by omega), start, indexed]

theorem mem_extent {cluster : UInt32} (valid : volume.isCluster cluster = true)
    {index : Nat} (inCluster : index < volume.sectorsPerCluster.toNat) :
    (volume.clusterStart cluster + .ofNat index).toNat ∈ volume.extent cluster := by
  rw [wellFormed.toNat_clusterStart_add valid inCluster, extent, wellFormed.extent_length valid]
  constructor <;> omega

theorem toNat_fatStart_add {index : Nat} (used : index ≤ volume.maxCluster.toNat / 128) :
    (volume.fatStart + .ofNat index).toNat = volume.fatStart.toNat + index ∧
      index < volume.header.sectorsPerFat.toNat := by
  have inTable := wellFormed.inTable
  have inWord := wellFormed.inWord
  have fits := wellFormed.firstTable_le
  rw [wellFormed.toNat_maxCluster] at used
  have inside : index < volume.header.sectorsPerFat.toNat := by omega
  have indexed : (UInt32.ofNat index).toNat = index := Word.toNat_ofNat_of_lt (by omega)
  refine ⟨?_, inside⟩
  rw [Word.toNat_add_of_lt (by omega), indexed]

theorem toNat_tableSector {cluster : UInt32} (valid : volume.isCluster cluster = true) :
    (volume.fatStart + cluster / entriesPerFatSector).toNat =
        volume.fatStart.toNat + cluster.toNat / 128 ∧
      cluster.toNat / 128 < volume.header.sectorsPerFat.toNat := by
  have numbered := (wellFormed.isCluster_iff.mp valid).2
  rw [← wellFormed.toNat_maxCluster] at numbered
  rw [div_entriesPerFatSector]
  exact wellFormed.toNat_fatStart_add (Nat.div_le_div_right numbered)

theorem extent_apart {first second : UInt32} (firstValid : volume.isCluster first = true)
    (secondValid : volume.isCluster second = true) (different : first ≠ second) :
    ∀ lba ∈ volume.extent first, lba ∉ volume.extent second := by
  have firstLow := (wellFormed.isCluster_iff.mp firstValid).1
  have secondLow := (wellFormed.isCluster_iff.mp secondValid).1
  have numbersApart : first.toNat ≠ second.toNat :=
    fun same => different (UInt32.toNat_inj.mp same)
  rintro lba ⟨firstStart, firstEnd⟩ ⟨secondStart, secondEnd⟩
  rcases Nat.lt_or_gt_of_ne numbersApart with before | behind
  · have ordered : (first.toNat - 1) * volume.sectorsPerCluster.toNat ≤
        (second.toNat - 2) * volume.sectorsPerCluster.toNat :=
      Nat.mul_le_mul_right _ (by omega)
    omega
  · have ordered : (second.toNat - 1) * volume.sectorsPerCluster.toNat ≤
        (first.toNat - 2) * volume.sectorsPerCluster.toNat :=
      Nat.mul_le_mul_right _ (by omega)
    omega

theorem extent_apart_tableExtent (cluster : UInt32) {copy : Nat}
    (exists_copy : copy < volume.header.fatCount.toNat) :
    ∀ lba ∈ volume.extent cluster, lba ∉ volume.tableExtent copy := by
  have tables := wellFormed.tables_le exists_copy
  rintro lba ⟨clusterStart, clusterEnd⟩ ⟨tableStart, tableEnd⟩
  omega

theorem extent_subset_wholeExtent {cluster : UInt32} (valid : volume.isCluster cluster = true) :
    volume.extent cluster ⊆ volume.wholeExtent := by
  have ends := wellFormed.extent_end_le valid
  have dataStart := wellFormed.dataStart_eq
  have fatStart := wellFormed.fatStart_eq
  apply Set.Ico_subset_Ico <;> omega

theorem tableExtent_subset_wholeExtent {copy : Nat}
    (exists_copy : copy < volume.header.fatCount.toNat) :
    volume.tableExtent copy ⊆ volume.wholeExtent := by
  have tables := wellFormed.tables_le exists_copy
  have fatStart := wellFormed.fatStart_eq
  have inTotal := wellFormed.inTotal
  apply Set.Ico_subset_Ico <;> omega

theorem toNat_scanned {index slot : Nat} (used : index ≤ volume.maxCluster.toNat / 128)
    (inSector : slot < 128) :
    (UInt32.ofNat (index * 128 + slot)).toNat = index * 128 + slot := by
  have clusters := wellFormed.clusters_le
  have inTable := wellFormed.inTable
  have fits := wellFormed.firstTable_le
  have inWord := wellFormed.inWord
  have limit := Word.limit_eq
  apply Word.toNat_ofNat_of_lt
  rw [wellFormed.toNat_maxCluster] at used
  omega

end WellFormed

/-- No computation of an address or of a cluster number wraps around: each of
the words is the number that exact arithmetic gives. -/
structure Exact (volume : Volume) : Prop where
  fatStart : volume.fatStart.toNat = volume.start.toNat + volume.header.reservedSectors.toNat
  dataStart : volume.dataStart.toNat = volume.start.toNat + volume.header.reservedSectors.toNat +
    volume.header.fatCount.toNat * volume.header.sectorsPerFat.toNat
  bytesPerCluster : volume.bytesPerCluster.toNat = volume.sectorsPerCluster.toNat * sectorSize
  maxCluster : volume.maxCluster.toNat = volume.clusterCount.toNat + 1
  clusterSector : ∀ cluster, volume.isCluster cluster = true →
    ∀ index < volume.sectorsPerCluster.toNat,
      (volume.clusterStart cluster + .ofNat index).toNat =
        volume.dataStart.toNat + (cluster.toNat - 2) * volume.sectorsPerCluster.toNat + index
  tableSector : ∀ cluster, volume.isCluster cluster = true →
    (volume.fatStart + cluster / entriesPerFatSector).toNat =
      volume.fatStart.toNat + cluster.toNat / 128
  scannedSector : ∀ index ≤ volume.maxCluster.toNat / 128,
    (volume.fatStart + .ofNat index).toNat = volume.fatStart.toNat + index
  scannedCluster : ∀ index ≤ volume.maxCluster.toNat / 128, ∀ slot < 128,
    (UInt32.ofNat (index * 128 + slot)).toNat = index * 128 + slot

theorem WellFormed.exact {volume : Volume} (wellFormed : volume.WellFormed) : volume.Exact where
  fatStart := wellFormed.fatStart_eq
  dataStart := by rw [wellFormed.dataStart_eq, wellFormed.fatStart_eq]
  bytesPerCluster := wellFormed.clusterBytes
  maxCluster := wellFormed.toNat_maxCluster
  clusterSector _ valid _ inCluster := wellFormed.toNat_clusterStart_add valid inCluster
  tableSector _ valid := (wellFormed.toNat_tableSector valid).1
  scannedSector _ used := (wellFormed.toNat_fatStart_add used).1
  scannedCluster _ used _ inSector := wellFormed.toNat_scanned used inSector

/-- The boot sector of a volume of ten sectors with one table and clusters of one sector. -/
def smallBoot : Sector := .ofList 512 [0xEB, 0, 0, 0, 0, 0, 0, 0, 0, 0, 0, 0, 2, 1, 1, 0, 1, 0, 0,
  10, 0, 0, 0, 0, 0, 0, 0, 0, 0, 0, 0, 0, 0, 0, 0, 0, 1, 0, 0, 0, 0, 0, 0, 0, 2]

/-- The volume of `smallBoot` at the start of a device: its eight clusters are sectors 2 to 9. -/
def small : Volume where
  header := ⟨512, 1, 1, 1, 10, 1, 2⟩
  start := 0
  fatStart := 1
  dataStart := 2
  bytesPerCluster := 512
  clusterCount := 8

theorem ofSector_smallBoot : Header.ofSector smallBoot = small.header := by decide +kernel

theorem ofHeader_small : ofHeader 0 (.ofSector smallBoot) = .ok small := by
  rw [ofSector_smallBoot]
  rfl

end Volume

end Fat32
