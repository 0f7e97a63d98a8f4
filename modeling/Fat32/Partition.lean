import Fat32.Scan.Attempt

/-!
The partition table in the first sector of a device.
-/

namespace Fat32

structure Partition where
  bootable : Bool
  kind : UInt8
  start : UInt32
  sectorCount : UInt32
  deriving DecidableEq, Repr

namespace Partition

def ofBytes (bytes : Bytes 16) : Partition where
  bootable := bytes[0] == 0x80
  kind := bytes[4]
  start := bytes.word32 8
  sectorCount := bytes.word32 12

/-- FAT32 addressed by cylinder, head and sector, or by block. -/
def isFat32 (partition : Partition) : Bool :=
  partition.kind == 0x0B || partition.kind == 0x0C

end Partition

abbrev PartitionTable := Vector Partition 4

namespace PartitionTable

variable {ι : Type}

def ofSector (sector : Sector) : PartitionTable :=
  .ofFn fun slot => .ofBytes (sector.slice (446 + slot.val * 16) 16)

/-- The first slot that holds a FAT32 partition. -/
def fat32? (table : PartitionTable) : Option Partition := table.find? Partition.isFat32

def read : Attempt ι PartitionTable := do
  return ofSector (← Attempt.sector 0)

def locate : Attempt ι UInt32 := do
  match (← read).fat32? with
  | some partition =>
    Attempt.note (.partitionFound partition.kind partition.start)
    return partition.start
  | none => Attempt.failWith .partitionMissing .noPartition

end PartitionTable

end Fat32
