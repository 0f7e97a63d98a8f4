import Mathlib.Data.Nat.Digits.Defs
import Mathlib.Tactic.MkIffOfInductiveProp
import Fat32.Proofs.Scan.Views
import Fat32.Proofs.Volume.Geometry

/-!
Which boot sectors are accepted, in exact numbers. The numbers of a sector have
no width (`Bytes.number`), so `Usable` says what a layout needs without a word
about overflow. The reader computes in 32 bits and is right to do so: where one
of its computations does not fit, the layout lacks something anyway.
-/

namespace Fat32

namespace Bytes

variable {n : Nat}

/-- The number in `width` bytes from `offset` on, low byte first. -/
def number (bytes : Bytes n) (offset width : Nat) : Nat :=
  Nat.ofDigits 0x100 (((bytes.toList.drop offset).take width).map UInt8.toNat)

theorem number_zero (bytes : Bytes n) (offset : Nat) : bytes.number offset 0 = 0 := rfl

theorem number_succ (bytes : Bytes n) {offset : Nat} (inside : offset < n) (width : Nat) :
    bytes.number offset (width + 1) =
      bytes[offset].toNat + 0x100 * bytes.number (offset + 1) width := by
  have first : bytes.toList.drop offset = bytes[offset] :: bytes.toList.drop (offset + 1) := by
    simp [List.drop_eq_getElem_cons, inside]
  simp [number, first, Nat.ofDigits_cons]

theorem toNat_word16 (bytes : Bytes n) {offset : Nat} (inside : offset + 1 < n) :
    (bytes.word16 offset).toNat = bytes.number offset 2 := by
  have low := bytes[offset].toNat_lt
  have high := bytes[offset + 1].toNat_lt
  rw [number_succ bytes (by omega), number_succ bytes inside, number_zero, word16,
    UInt16.toNat_ofNat']
  omega

theorem toNat_word32 (bytes : Bytes n) {offset : Nat} (inside : offset + 3 < n) :
    (bytes.word32 offset).toNat = bytes.number offset 4 := by
  have first := bytes[offset].toNat_lt
  have second := bytes[offset + 1].toNat_lt
  have third := bytes[offset + 2].toNat_lt
  have fourth := bytes[offset + 3].toNat_lt
  have number : bytes.number offset 4 = bytes[offset].toNat + 0x100 * (bytes[offset + 1].toNat +
      0x100 * (bytes[offset + 2].toNat + 0x100 * (bytes[offset + 3].toNat + 0x100 * 0))) := by
    rw [number_succ bytes (by omega), number_succ bytes (by omega), number_succ bytes (by omega),
      number_succ bytes inside]
    rfl
  rw [number, word32, UInt32.toNat_ofNat']
  omega

end Bytes

namespace Sector

variable (sector : Sector)

def bytesPerSector : Nat := Bytes.number sector 11 2

def sectorsPerCluster : Nat := Bytes.number sector 13 1

def reservedSectors : Nat := Bytes.number sector 14 2

def fatCount : Nat := Bytes.number sector 16 1

def sectorsPerFat : Nat := Bytes.number sector 36 4

def rootCluster : Nat := Bytes.number sector 44 4

def totalSectors : Nat :=
  if Bytes.number sector 19 2 = 0 then Bytes.number sector 32 4 else Bytes.number sector 19 2

def metadataSectors : Nat := sector.reservedSectors + sector.fatCount * sector.sectorsPerFat

/-- The clusters that there is room for, behind the tables and in a table. -/
def clusterCount : Nat :=
  min ((sector.totalSectors - sector.metadataSectors) / sector.sectorsPerCluster)
    (128 * sector.sectorsPerFat - 2)

/-- A boot sector lays out a volume that starts at `start`. -/
@[mk_iff] structure Usable (start : Nat) : Prop where
  bytesPerSector_eq : sector.bytesPerSector = 512
  perCluster_pos : 1 ≤ sector.sectorsPerCluster
  perCluster_le : sector.sectorsPerCluster ≤ 64
  fatCount_pos : 1 ≤ sector.fatCount
  perFat_pos : 1 ≤ sector.sectorsPerFat
  room : sector.metadataSectors < sector.totalSectors
  inWord : start + sector.totalSectors ≤ 0xFFFFFFFF
  clusters_pos : 1 ≤ sector.clusterCount
  root_ge : 2 ≤ sector.rootCluster
  root_le : sector.rootCluster ≤ sector.clusterCount + 1

instance (start : Nat) : Decidable (sector.Usable start) :=
  decidable_of_iff' _ (sector.usable_iff start)

end Sector

theorem Header.toNat_ofSector (sector : Sector) :
    let header := Header.ofSector sector
    header.bytesPerSector.toNat = sector.bytesPerSector ∧
      header.sectorsPerCluster.toNat = sector.sectorsPerCluster ∧
      header.reservedSectors.toNat = sector.reservedSectors ∧
      header.fatCount.toNat = sector.fatCount ∧
      header.totalSectors.toNat = sector.totalSectors ∧
      header.sectorsPerFat.toNat = sector.sectorsPerFat ∧
      header.rootCluster.toNat = sector.rootCluster := by
  intro header
  have byte {offset : Nat} (inside : offset < 512) :
      sector[offset].toNat = Bytes.number sector offset 1 := by
    rw [Bytes.number_succ _ inside, Bytes.number_zero]
    rfl
  refine ⟨Bytes.toNat_word16 _ _, byte _, Bytes.toNat_word16 _ _, byte _, ?_,
    Bytes.toNat_word32 _ _, Bytes.toNat_word32 _ _⟩
  have short : (Bytes.word16 sector 19).toNat = Bytes.number sector 19 2 := Bytes.toNat_word16 _ _
  have unset : Bytes.word16 sector 19 = 0 ↔ Bytes.number sector 19 2 = 0 := by
    rw [← short, ← UInt16.toNat_inj]
    rfl
  change (if Bytes.word16 sector 19 = 0 then _ else _ : UInt32).toNat = _
  unfold Sector.totalSectors
  by_cases zero : Bytes.word16 sector 19 = 0
  · rw [if_pos zero, if_pos (unset.mp zero)]
    exact Bytes.toNat_word32 _ _
  · rw [if_neg zero, if_neg fun none => zero (unset.mpr none), UInt16.toNat_toUInt32]
    exact short

theorem Header.fault?_eq_none_iff_toNat (header : Header) :
    header.fault? = none ↔
      header.bytesPerSector.toNat = 512 ∧ 1 ≤ header.sectorsPerCluster.toNat ∧
        1 ≤ header.fatCount.toNat ∧ header.sectorsPerCluster.toNat ≤ 64 ∧
        1 ≤ header.sectorsPerFat.toNat ∧ 2 ≤ header.rootCluster.toNat := by
  have byte (value : UInt8) : value ≠ 0 ↔ 1 ≤ value.toNat := by
    rw [Nat.one_le_iff_ne_zero, Ne, Ne, ← UInt8.toNat_inj]
    rfl
  have word (value : UInt32) : value ≠ 0 ↔ 1 ≤ value.toNat := by
    rw [Nat.one_le_iff_ne_zero, Ne, Ne, ← UInt32.toNat_inj]
    rfl
  rw [fault?_eq_none_iff, byte, byte, word, UInt32.not_lt, UInt32.le_iff_toNat_le]
  rfl

namespace Volume

theorem ofHeader_of_checks {start : UInt32} {header : Header}
    {tables metadata fatStart dataStart : UInt32} (sound : header.fault? = none)
    (tablesFit : Word.mul? header.fatCount.toUInt32 header.sectorsPerFat = some tables)
    (metadataFits : Word.add? tables header.reservedSectors.toUInt32 = some metadata)
    (fatFits : Word.add? start header.reservedSectors.toUInt32 = some fatStart)
    (dataFits : Word.add? start metadata = some dataStart)
    (room : metadata < header.totalSectors)
    (totalFits : Word.add? start header.totalSectors ≠ none)
    (counted : countClusters header metadata ≠ 0)
    (rootInside : header.rootCluster ≤ countClusters header metadata + 1) :
    ∃ volume, ofHeader start header = .ok volume := by
  simp [ofHeader, pure, Except.pure, sound, tablesFit, metadataFits, fatFits, dataFits,
    UInt32.not_le.mpr room, totalFits, counted, UInt32.not_lt.mpr rootInside]

theorem toNat_metadata {sector : Sector} {tables metadata : UInt32}
    (tablesFit : Word.mul? (Header.ofSector sector).fatCount.toUInt32
      (Header.ofSector sector).sectorsPerFat = some tables)
    (metadataFits : Word.add? tables (Header.ofSector sector).reservedSectors.toUInt32 =
      some metadata) :
    metadata.toNat = sector.metadataSectors := by
  obtain ⟨-, -, reserved, fatCount, -, perFat, -⟩ := Header.toNat_ofSector sector
  have tablesEq := Word.toNat_of_mul? tablesFit
  have metadataEq := Word.toNat_of_add? metadataFits
  rw [UInt8.toNat_toUInt32, fatCount, perFat] at tablesEq
  rw [UInt16.toNat_toUInt32, tablesEq, reserved, Nat.add_comm] at metadataEq
  exact metadataEq

/-- The greatest word stands for the entries of a table that are too many to count. A volume whose
tables are that large has fewer clusters than that behind them, so the word is never seen. -/
theorem toNat_countClusters_ofSector {sector : Sector} {metadata : UInt32}
    (room : metadata < (Header.ofSector sector).totalSectors)
    (measured : metadata.toNat = sector.metadataSectors) (fatCountPos : 1 ≤ sector.fatCount) :
    (countClusters (.ofSector sector) metadata).toNat = sector.clusterCount := by
  obtain ⟨-, perCluster, -, -, total, perFat, -⟩ := Header.toNat_ofSector sector
  have limit := Word.limit_eq
  have inWord : sector.totalSectors < Word.limit :=
    total ▸ (Header.ofSector sector).totalSectors.toNat_lt
  have fewer : (sector.totalSectors - sector.metadataSectors) / sector.sectorsPerCluster ≤
      sector.totalSectors - sector.metadataSectors := Nat.div_le_self _ _
  have inFront : sector.sectorsPerFat ≤ sector.metadataSectors :=
    Nat.le_add_left_of_le (Nat.le_mul_of_pos_left _ fatCountPos)
  rw [toNat_countClusters _ metadata room, total, measured, perCluster, perFat, Sector.clusterCount]
  omega

/-- Every sum and product of a layout is a part of the total, so all of them are words. -/
theorem exists_layout {start : UInt32} {sector : Sector} (usable : sector.Usable start.toNat) :
    let header := Header.ofSector sector
    ∃ tables metadata fatStart dataStart stop,
      Word.mul? header.fatCount.toUInt32 header.sectorsPerFat = some tables ∧
      Word.add? tables header.reservedSectors.toUInt32 = some metadata ∧
      Word.add? start header.reservedSectors.toUInt32 = some fatStart ∧
      Word.add? start metadata = some dataStart ∧
      Word.add? start header.totalSectors = some stop := by
  obtain ⟨-, -, reserved, fatCount, total, perFat, -⟩ := Header.toNat_ofSector sector
  dsimp only
  generalize Header.ofSector sector = header at *
  have limit := Word.limit_eq
  have inWord := usable.inWord
  have room : sector.reservedSectors + sector.fatCount * sector.sectorsPerFat <
    sector.totalSectors := usable.room
  rw [← UInt8.toNat_toUInt32] at fatCount
  rw [← UInt16.toNat_toUInt32] at reserved
  obtain ⟨tables, tablesFit, tablesEq⟩ :=
    Word.exists_mul? (a := header.fatCount.toUInt32) (b := header.sectorsPerFat)
      (by rw [fatCount, perFat]; omega)
  rw [fatCount, perFat] at tablesEq
  obtain ⟨metadata, metadataFits, metadataEq⟩ :=
    Word.exists_add? (a := tables) (b := header.reservedSectors.toUInt32) (by omega)
  obtain ⟨fatStart, fatFits, -⟩ :=
    Word.exists_add? (a := start) (b := header.reservedSectors.toUInt32) (by omega)
  obtain ⟨dataStart, dataFits, -⟩ :=
    Word.exists_add? (a := start) (b := metadata) (by omega)
  obtain ⟨stop, totalFits, -⟩ :=
    Word.exists_add? (a := start) (b := header.totalSectors) (by omega)
  exact ⟨tables, metadata, fatStart, dataStart, stop, tablesFit, metadataFits, fatFits, dataFits,
    totalFits⟩

theorem ofHeader_of_usable {start : UInt32} {sector : Sector}
    (usable : sector.Usable start.toNat) :
    ∃ volume, ofHeader start (.ofSector sector) = .ok volume := by
  obtain ⟨sectorBytes, perCluster, -, fatCount, total, perFat, root⟩ := Header.toNat_ofSector sector
  obtain ⟨tables, metadata, fatStart, dataStart, stop, tablesFit, metadataFits, fatFits, dataFits,
    totalFits⟩ := exists_layout usable
  have measured := toNat_metadata tablesFit metadataFits
  have room : metadata < (Header.ofSector sector).totalSectors := by
    rw [UInt32.lt_iff_toNat_lt, measured, total]
    exact usable.room
  have counted := toNat_countClusters_ofSector room measured usable.fatCount_pos
  have sound : (Header.ofSector sector).fault? = none := by
    rw [Header.fault?_eq_none_iff_toNat, sectorBytes, perCluster, fatCount, perFat, root]
    exact ⟨usable.bytesPerSector_eq, usable.perCluster_pos, usable.fatCount_pos,
      usable.perCluster_le, usable.perFat_pos, usable.root_ge⟩
  have some : countClusters (.ofSector sector) metadata ≠ 0 := by
    intro none
    have clusters := usable.clusters_pos
    rw [← counted, none] at clusters
    exact absurd clusters (by decide)
  have rootInside : (Header.ofSector sector).rootCluster ≤
      countClusters (.ofSector sector) metadata + 1 := by
    have fewer := (countClusters_le room (perCluster ▸ usable.perCluster_pos) some).2.2
    rw [UInt32.le_iff_toNat_le, Word.toNat_add_of_lt fewer, counted, root]
    exact usable.root_le
  exact ofHeader_of_checks sound tablesFit metadataFits fatFits dataFits room
    (totalFits ▸ Option.some_ne_none _) some rootInside

theorem usable_of_ofHeader {start : UInt32} {sector : Sector} {volume : Volume}
    (accepted : ofHeader start (.ofSector sector) = .ok volume) :
    sector.Usable start.toNat ∧
      volume.fatStart.toNat = start.toNat + sector.reservedSectors ∧
      volume.dataStart.toNat = start.toNat + sector.metadataSectors ∧
      volume.clusterCount.toNat = sector.clusterCount ∧
      volume.bytesPerCluster.toNat = 512 * sector.sectorsPerCluster := by
  have clusterBytes := (ofHeader_wellFormed accepted).clusterBytes
  have rootLe := (ofHeader_wellFormed accepted).root_le
  obtain ⟨sectorBytes, perCluster, reserved, fatCount, total, perFat, root⟩ :=
    Header.toNat_ofSector sector
  obtain ⟨tables, metadata, fatStart, dataStart, sound, tablesFit, metadataFits, fatFits, dataFits,
    room, totalFits, some, rootInside, rfl⟩ := ofHeader_eq_ok accepted
  rw [Header.fault?_eq_none_iff_toNat, sectorBytes, perCluster, fatCount, perFat, root] at sound
  obtain ⟨bytes, perClusterPos, fatCountPos, perClusterLe, perFatPos, rootGe⟩ := sound
  have measured := toNat_metadata tablesFit metadataFits
  have counted := toNat_countClusters_ofSector room measured fatCountPos
  have fatStartEq := Word.toNat_of_add? fatFits
  have dataStartEq := Word.toNat_of_add? dataFits
  rw [UInt16.toNat_toUInt32, reserved] at fatStartEq
  rw [measured] at dataStartEq
  rw [rootCluster, root, counted] at rootLe
  rw [UInt32.lt_iff_toNat_lt, measured, total] at room
  rw [Ne, Word.add?_eq_none_iff, total] at totalFits
  refine ⟨⟨bytes, perClusterPos, perClusterLe, fatCountPos, perFatPos, room, ?_, ?_, rootGe, rootLe⟩,
    fatStartEq, dataStartEq, counted, ?_⟩
  · have limit := Word.limit_eq
    omega
  · apply Nat.one_le_iff_ne_zero.mpr
    intro none
    rw [← counted] at none
    exact some (UInt32.toNat_inj.mp none)
  · rw [clusterBytes, sectorsPerCluster, UInt8.toNat_toUInt32, perCluster]
    exact Nat.mul_comm _ _

theorem result_refuse {ι α : Type} (medium : Medium) (fault : HeaderFault) :
    (refuse fault : Attempt ι α).run.result medium = .error .invalidVolume := by
  unfold refuse
  split <;> rfl

/-- A boot sector is accepted exactly when its numbers lay out a volume. The volume has these
numbers, and nothing but an invalid volume is ever reported. -/
theorem accepted_iff_usable {ι : Type} (medium : Medium) (start : UInt32) (sector : Sector) :
    let outcome := (ofBootSector start sector : Attempt ι Volume).run.result medium
    ((∃ volume, outcome = .ok volume) ↔ sector.Usable start.toNat) ∧
      (¬ sector.Usable start.toNat → outcome = .error .invalidVolume) ∧
      ∀ volume, outcome = .ok volume →
        volume.header = .ofSector sector ∧ volume.start = start ∧
        volume.fatStart.toNat = start.toNat + sector.reservedSectors ∧
        volume.dataStart.toNat = start.toNat + sector.metadataSectors ∧
        volume.clusterCount.toNat = sector.clusterCount ∧
        volume.bytesPerCluster.toNat = 512 * sector.sectorsPerCluster := by
  intro outcome
  cases laidOut : ofHeader start (.ofSector sector) with
  | ok volume =>
    have accepted : outcome = .ok volume := by simp [outcome, ofBootSector, laidOut]
    obtain ⟨usable, numbers⟩ := usable_of_ofHeader laidOut
    refine ⟨⟨fun _ => usable, fun _ => ⟨volume, accepted⟩⟩, fun unusable => absurd usable unusable,
      ?_⟩
    intro other same
    rw [accepted] at same
    cases same
    obtain ⟨header, starts⟩ := ofHeader_eq laidOut
    exact ⟨header, starts, numbers⟩
  | error fault =>
    have refused : outcome = .error .invalidVolume := by
      simp [outcome, ofBootSector, laidOut, result_refuse]
    have unusable : ¬ sector.Usable start.toNat := by
      intro usable
      obtain ⟨volume, accepted⟩ := ofHeader_of_usable usable
      rw [laidOut] at accepted
      cases accepted
    refine ⟨⟨?_, fun usable => absurd usable unusable⟩, fun _ => refused, ?_⟩
    · rintro ⟨volume, accepted⟩
      rw [refused] at accepted
      cases accepted
    · intro volume accepted
      rw [refused] at accepted
      cases accepted

/-- A table with 2 ^ 32 entries, one more than the greatest word counts, and 300 sectors behind it
in clusters of three. The root directory is the last of them. -/
def tableBoot : Sector := .ofList 512 [0xEB, 0, 0, 0, 0, 0, 0, 0, 0, 0, 0, 0, 2, 3, 1, 0, 1, 0, 0,
  0, 0, 0, 0, 0, 0, 0, 0, 0, 0, 0, 0, 0, 0x2D, 1, 0, 2, 0, 0, 0, 2, 0, 0, 0, 0, 101, 0, 0, 0]

/-- The volume is accepted when its last sector has the last address that a volume may have, and
not one sector further on. -/
theorem accepted_iff_usable_table :
    let outcome (start : UInt32) := (ofBootSector start tableBoot : Attempt Empty Volume).run.result
      fun _ => .error .readError
    (∃ volume, outcome 0xFDFFFED2 = .ok volume ∧
      volume.dataStart.toNat = 0xFDFFFED2 + 0x2000001 ∧ volume.clusterCount.toNat = 100) ∧
    outcome 0xFDFFFED3 = .error .invalidVolume := by
  intro outcome
  obtain ⟨accepted, -, numbers⟩ :=
    accepted_iff_usable (ι := Empty) (fun _ => .error .readError) 0xFDFFFED2 tableBoot
  obtain ⟨-, refused, -⟩ :=
    accepted_iff_usable (ι := Empty) (fun _ => .error .readError) 0xFDFFFED3 tableBoot
  obtain ⟨volume, found⟩ := accepted.mpr (by decide +kernel)
  obtain ⟨-, -, -, dataStart, clusters, -⟩ := numbers volume found
  refine ⟨⟨volume, found, dataStart.trans ?_, clusters.trans ?_⟩, refused ?_⟩ <;> decide +kernel

end Volume

end Fat32
