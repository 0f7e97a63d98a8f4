/-!
Byte blocks of a fixed size, the little-endian words stored in them, and
arithmetic on 32-bit words that notices when the exact result does not fit.
-/

namespace Fat32

/-- A block of exactly `n` bytes. -/
abbrev Bytes (n : Nat) := Vector UInt8 n

/-- The one sector size that the reader supports. -/
abbrev sectorSize : Nat := 512

abbrev Sector := Bytes 512

namespace Bytes

variable {n : Nat}

def zero (n : Nat) : Bytes n := Vector.replicate n 0

/-- The 16-bit word at offset `i`, low byte first. -/
def word16 (bytes : Bytes n) (i : Nat) (_ : i + 1 < n := by omega) : UInt16 :=
  .ofNat (bytes[i].toNat + bytes[i + 1].toNat * 0x100)

def word32 (bytes : Bytes n) (i : Nat) (_ : i + 3 < n := by omega) : UInt32 :=
  .ofNat (bytes[i].toNat + bytes[i + 1].toNat * 0x100 + bytes[i + 2].toNat * 0x10000 +
    bytes[i + 3].toNat * 0x1000000)

def slice (bytes : Bytes n) (start count : Nat) (_ : start + count ≤ n := by omega) :
    Bytes count :=
  .ofFn fun i => bytes[start + i.val]

/-- The first `n` bytes of a list, filled up with zeros when the list is shorter. -/
def ofList (n : Nat) (bytes : List UInt8) : Bytes n :=
  let source := bytes.toArray
  .ofFn fun i => source.getD i.val 0

end Bytes

end Fat32

namespace Fat32.Word

def limit : Nat := 0x100000000

/-- The sum, when it fits in 32 bits. -/
def add? (a b : UInt32) : Option UInt32 :=
  if a.toNat + b.toNat < limit then some (a + b) else none

def mul? (a b : UInt32) : Option UInt32 :=
  if a.toNat * b.toNat < limit then some (a * b) else none

/-- The product, or the greatest word when it does not fit. -/
def mulClamped (a b : UInt32) : UInt32 := (mul? a b).getD 0xFFFFFFFF

def subClamped (a b : UInt32) : UInt32 := if b ≤ a then a - b else 0

end Fat32.Word
