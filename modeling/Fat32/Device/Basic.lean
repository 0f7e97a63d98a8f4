import Fat32.Scan.Basic

/-!
Storage devices that are read one sector at a time. A read answers with a
sector or an error and leaves the device in its next state, so counters and
devices that change from read to read fit in. A device may also report a
diagnostic of its own.
-/

namespace Fat32

structure DeviceInfo where
  blockSize : Nat
  blockCount : Nat
  capacity : Nat
  readOnly : Bool
  removable : Bool
  deriving DecidableEq, Repr

namespace DeviceInfo

/-- A writable, fixed device of `blockCount` sectors. -/
def ofBlocks (blockCount : Nat) : DeviceInfo where
  blockSize := sectorSize
  blockCount := blockCount
  capacity := blockCount * sectorSize
  readOnly := false
  removable := false

def markReadOnly (info : DeviceInfo) : DeviceInfo := { info with readOnly := true }

def markRemovable (info : DeviceInfo) : DeviceInfo := { info with removable := true }

end DeviceInfo

structure Reply (δ : Type) where
  answer : Except DeviceError Sector
  device : δ
  diagnostics : List Diagnostic

class Device (δ : Type) where
  info : δ → DeviceInfo
  isReady : δ → Bool := fun _ => true
  readSector : δ → UInt32 → Reply δ

/-- Reads since the counters were last set to zero. The counters start over behind the greatest word. -/
structure ReadCounts where
  succeeded : UInt64
  failed : UInt64
  deriving DecidableEq, Repr

namespace ReadCounts

def zero : ReadCounts := ⟨0, 0⟩

def tally (counts : ReadCounts) : Except DeviceError Sector → ReadCounts
  | .ok _ => { counts with succeeded := counts.succeeded + 1 }
  | .error _ => { counts with failed := counts.failed + 1 }

end ReadCounts

end Fat32
