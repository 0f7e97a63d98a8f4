import Fat32.Name.Short

/-!
Directory records of 32 bytes and the fields in them. A record either describes
an entry or holds a part of the long name of the entry behind it.
-/

namespace Fat32

structure Attributes where
  bits : UInt8
  deriving DecidableEq, Repr

namespace Attributes

/-- The six attributes that have a name: read-only, hidden, system, volume
label, directory and archive. -/
def named : UInt8 := 0x3F

def isNamed (attributes : Attributes) : Bool := attributes.bits &&& ~~~named == 0

def truncated (attributes : Attributes) : Attributes := ⟨attributes.bits &&& named⟩

def isDirectory (attributes : Attributes) : Bool := attributes.bits &&& 0x10 != 0

def isLabel (attributes : Attributes) : Bool := attributes.bits &&& 0x08 != 0

/-- Read-only, hidden, system and label together mark a part of a long name. -/
def isFragment (attributes : Attributes) : Bool := attributes.bits &&& named == 0x0F

end Attributes

abbrev DirRecord := Bytes 32

def Sector.records (sector : Sector) : List DirRecord :=
  List.ofFn fun slot : Fin 16 => Bytes.slice sector (slot.val * 32) 32

namespace DirRecord

variable (record : DirRecord)

/-- The first byte tells deleted and unused records from the others. -/
def status : UInt8 := record[0]

def shortName : ShortName := ⟨record.slice 0 11⟩

def attributes : Attributes := ⟨record[11]⟩

def cluster : UInt32 :=
  .ofNat ((record.word16 26).toNat + (record.word16 20).toNat * 0x10000)

def size : UInt32 := record.word32 28

/-- The thirteen places for code units of a long name. -/
def places : List UInt16 :=
  [record.word16 1, record.word16 3, record.word16 5, record.word16 7, record.word16 9,
    record.word16 14, record.word16 16, record.word16 18, record.word16 20, record.word16 22,
    record.word16 24, record.word16 28, record.word16 30]

end DirRecord

/-- A part of a long name as it is stored in one record. -/
structure Fragment where
  ordinal : UInt8
  /-- The code units up to the one that ends or fills up the fragment. -/
  units : List UInt16
  deriving DecidableEq, Repr

def Fragment.ofRecord (record : DirRecord) : Fragment where
  ordinal := record.status &&& 0x1F
  units := record.places.takeWhile fun unit => unit != 0 && unit != 0xFFFF

end Fat32
