import Fat32.Device.Basic

/-!
A device held in memory. It counts the reads that succeed and those that fail.
-/

namespace Fat32

structure MemoryDisk where
  image : Array UInt8
  counts : ReadCounts

namespace MemoryDisk

/-- A disk with the given contents. A last sector that is not full is filled up with zeros. -/
def ofBytes (bytes : Array UInt8) : MemoryDisk where
  image :=
    let rest := bytes.size % sectorSize
    if rest = 0 then bytes else bytes.rightpad (bytes.size + sectorSize - rest) 0
  counts := .zero

def blank (count : Nat) : MemoryDisk := ofBytes (.replicate (count * sectorSize) 0)

variable (disk : MemoryDisk)

def sectorCount : Nat := disk.image.size / sectorSize

def resetCounts : MemoryDisk := { disk with counts := .zero }

def setByte (offset : Nat) (byte : UInt8) : MemoryDisk :=
  { disk with image := disk.image.setIfInBounds offset byte }

theorem size_extract_image {start : Nat} (inside : start + sectorSize ≤ disk.image.size) :
    (disk.image.extract start (start + sectorSize)).size = sectorSize := by
  rw [Array.size_extract, Nat.min_eq_left inside, Nat.add_sub_cancel_left]

/-- The bytes of a sector from byte `start` of the image on, if it has all of them. -/
def sectorFrom? (start : Nat) : Option Sector :=
  if inside : start + sectorSize ≤ disk.image.size then
    some ⟨disk.image.extract start (start + sectorSize), disk.size_extract_image inside⟩
  else none

instance : Device MemoryDisk where
  info disk := (DeviceInfo.ofBlocks disk.sectorCount).markReadOnly
  readSector disk lba :=
    match disk.sectorFrom? (lba.toNat * sectorSize) with
    | some sector =>
      let answer := .ok sector
      { answer, device := { disk with counts := disk.counts.tally answer }, diagnostics := [] }
    | none =>
      let answer := .error .invalidAddress
      { answer
        device := { disk with counts := disk.counts.tally answer }
        diagnostics := [.readPastEnd lba] }

end MemoryDisk

end Fat32
