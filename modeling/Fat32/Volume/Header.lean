import Fat32.Bytes

/-!
The header of a volume: the numbers in its boot sector that lay out the
reserved sectors, the file allocation tables and the data clusters.

`fault?` says what is wrong with a header on its own. Whether its numbers fit
together is decided where the volume is laid out.
-/

namespace Fat32

/-- The greatest number of sectors in a cluster: 32 KiB. -/
def maxClusterSectors : Nat := 64

structure Header where
  bytesPerSector : UInt16
  sectorsPerCluster : UInt8
  /-- Sectors in front of the first table, the boot sector among them. -/
  reservedSectors : UInt16
  fatCount : UInt8
  totalSectors : UInt32
  sectorsPerFat : UInt32
  rootCluster : UInt32
  deriving DecidableEq, Repr

inductive HeaderFault where
  | sectorBytes (bytes : UInt16)
  | emptyCluster
  | noFat
  | clusterTooLarge (sectors : UInt8)
  | emptyFat
  | reservedRoot (cluster : UInt32)
  /-- A region would start above the last 32-bit address. -/
  | addressOverflow
  | noDataRegion (total metadata : UInt32)
  | rootOutside (root clusters : UInt32)
  deriving DecidableEq, Repr

namespace Header

/-- The older 16-bit sector total wins when it is set. -/
def ofSector (sector : Sector) : Header where
  bytesPerSector := sector.word16 11
  sectorsPerCluster := sector[13]
  reservedSectors := sector.word16 14
  fatCount := sector[16]
  totalSectors :=
    let short := sector.word16 19
    if short = 0 then sector.word32 32 else short.toUInt32
  sectorsPerFat := sector.word32 36
  rootCluster := sector.word32 44

/-- The first fault of a header taken field by field. -/
def fault? (header : Header) : Option HeaderFault :=
  if header.bytesPerSector.toNat ≠ sectorSize then some (.sectorBytes header.bytesPerSector)
  else if header.sectorsPerCluster = 0 then some .emptyCluster
  else if header.fatCount = 0 then some .noFat
  else if maxClusterSectors < header.sectorsPerCluster.toNat then
    some (.clusterTooLarge header.sectorsPerCluster)
  else if header.sectorsPerFat = 0 then some .emptyFat
  else if header.rootCluster < 2 then some (.reservedRoot header.rootCluster)
  else none

end Header

namespace HeaderFault

/-- The wording of a fault. An overflow is refused without a word. -/
def text? : HeaderFault → Option String
  | .sectorBytes bytes => some s!"fat32: bytes_per_sector {bytes} (expected {sectorSize})"
  | .emptyCluster => some "fat32: sectors_per_cluster is 0"
  | .noFat => some "fat32: num_fats is 0"
  | .clusterTooLarge sectors =>
    let limit := maxClusterSectors * sectorSize
    some s!"fat32: cluster of {sectors} sectors exceeds {limit} byte limit"
  | .emptyFat => some "fat32: sectors_per_fat is 0 (FAT12/16 volume?)"
  | .reservedRoot cluster => some s!"fat32: root cluster {cluster} below 2"
  | .addressOverflow => none
  | .noDataRegion total metadata =>
    some s!"fat32: {total} total sectors leave no data region after {metadata}"
  | .rootOutside root clusters =>
    some s!"fat32: root cluster {root} outside {clusters} data clusters"

end HeaderFault

end Fat32
