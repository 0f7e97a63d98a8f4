import Fat32.Text.Basic

/-!
Long names. A directory stores a long name in parts, the last part first, so a
name is gathered by prepending.
-/

namespace Fat32

namespace LongName

def maxUnits : Nat := 255

def maxBytes : Nat := maxUnits * 3

end LongName

/-- The part of a long name that has been read so far. It fills the buffer from the back. What
stands before `start` is left over from names of before. -/
structure LongName where
  buffer : Vector UInt16 LongName.maxUnits
  start : Nat
  /-- A fragment did not fit, so the name is lost until the next one starts. -/
  overflowed : Bool
  start_le : start ≤ LongName.maxUnits
  deriving DecidableEq, Repr

namespace LongName

def empty : LongName := ⟨.replicate maxUnits 0, maxUnits, false, Nat.le_refl _⟩

/-- Start over. The units stay in the buffer. -/
def clear (name : LongName) : LongName :=
  { name with start := maxUnits, overflowed := false, start_le := Nat.le_refl _ }

def units (name : LongName) : List UInt16 := name.buffer.toList.drop name.start

def isEmpty (name : LongName) : Bool := name.start == maxUnits && !name.overflowed

/-- Write units into a buffer, from a place on. -/
def copyInto (buffer : Vector UInt16 maxUnits) (place : Nat) : List UInt16 → Vector UInt16 maxUnits
  | [] => buffer
  | unit :: rest => copyInto (buffer.setIfInBounds place unit) (place + 1) rest

def prepend (name : LongName) (units : List UInt16) : LongName :=
  if name.overflowed || name.start < units.length then { name with overflowed := true }
  else
    { buffer := copyInto name.buffer (name.start - units.length) units
      start := name.start - units.length
      overflowed := false
      start_le := Nat.le_trans (Nat.sub_le _ _) name.start_le }

/-- The name in lower case, unless there is none or it overflowed. -/
def toName? (name : LongName) : Option String :=
  if name.overflowed || name.units.isEmpty then none
  else
    let text := Text.fold (String.ofList (Text.Utf16.decode name.units))
    if text.utf8ByteSize ≤ maxBytes then some text else none

end LongName

end Fat32
