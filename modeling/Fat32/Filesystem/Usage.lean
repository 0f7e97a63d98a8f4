import Fat32.Filesystem.Basic

/-!
How much of a volume is in use, from a scan of its first table.
-/

namespace Fat32

structure Usage where
  totalClusters : Nat
  freeClusters : Nat
  bytesPerCluster : Nat
  deriving DecidableEq, Repr

namespace Usage

variable (usage : Usage)

def usedClusters : Nat := usage.totalClusters - usage.freeClusters

def totalBytes : Nat := usage.totalClusters * usage.bytesPerCluster

def usedBytes : Nat := usage.usedClusters * usage.bytesPerCluster

def mebibytes (bytes : Nat) : Nat := bytes / 0x100000

def totalMebibytes : Nat := mebibytes usage.totalBytes

def usedMebibytes : Nat := mebibytes usage.usedBytes

end Usage

namespace Volume

variable {ι : Type} (volume : Volume)

/-- The free clusters among those that have their entry in the table's sector number `index`. -/
def freeIn (index : Nat) (sector : Sector) : Nat :=
  (List.range 128).countP fun slot =>
    let cluster := UInt32.ofNat (index * 128 + slot)
    volume.isCluster cluster && entryIn sector cluster == 0

def countFree (index : Nat) : Nat → Nat → Attempt ι Nat
  | 0, free => pure free
  | count + 1, free => do
    let sector ← Attempt.sector (volume.fatStart + .ofNat index)
    countFree (index + 1) count (free + volume.freeIn index sector)

/-- Scan the part of the first table that has entries of clusters. -/
def usage : Attempt ι Usage := do
  let free ← volume.countFree 0 (volume.maxCluster.toNat / 128 + 1) 0
  return {
    totalClusters := volume.clusterCount.toNat
    freeClusters := free
    bytesPerCluster := volume.bytesPerCluster.toNat }

end Volume

end Fat32
