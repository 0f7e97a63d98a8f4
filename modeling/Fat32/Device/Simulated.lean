import Std.Data.HashMap
import Fat32.Device.Basic

/-!
Devices that are simulated: one with a sector at every 32-bit address, of which
only those that were written are stored, and one with bad sectors, which give
their errors and hide the device underneath.
-/

namespace Fat32

structure SparseDisk where
  written : Std.HashMap UInt32 Sector
  counts : ReadCounts

namespace SparseDisk

def blank : SparseDisk := ⟨∅, .zero⟩

def sector (disk : SparseDisk) (lba : UInt32) : Sector :=
  disk.written.getD lba (Bytes.zero sectorSize)

def resetCounts (disk : SparseDisk) : SparseDisk := { disk with counts := .zero }

/-- Replace the byte at `offset` from the start of the device. -/
def setByte (disk : SparseDisk) (offset : Nat) (byte : UInt8) : SparseDisk :=
  let write (sector : Option Sector) : Option Sector :=
    some ((sector.getD (Bytes.zero sectorSize)).setIfInBounds (offset % sectorSize) byte)
  { disk with written := disk.written.alter (.ofNat (offset / sectorSize)) write }

instance : Device SparseDisk where
  info _ := (DeviceInfo.ofBlocks Word.limit).markRemovable
  readSector disk lba :=
    let answer := .ok (disk.sector lba)
    { answer, device := { disk with counts := disk.counts.tally answer }, diagnostics := [] }

end SparseDisk

structure FaultyDevice (δ : Type) where
  inner : δ
  faults : Std.HashMap UInt32 DeviceError

namespace FaultyDevice

variable {δ : Type}

/-- A device with the listed faults. Of several for one address the last one counts. -/
def ofList (inner : δ) (faults : List (UInt32 × DeviceError)) : FaultyDevice δ :=
  ⟨inner, .ofList faults⟩

instance [Device δ] : Device (FaultyDevice δ) where
  info device := Device.info device.inner
  isReady device := Device.isReady device.inner
  readSector device lba :=
    match device.faults[lba]? with
    | some error => { answer := .error error, device, diagnostics := [] }
    | none =>
      let reply := Device.readSector device.inner lba
      { reply with device := { device with inner := reply.device } }

end FaultyDevice

end Fat32
