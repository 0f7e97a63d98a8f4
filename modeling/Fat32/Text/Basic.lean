/-!
Letter case, single-byte characters, numbers in base sixteen, and UTF-16. Names
are folded and compared by their ASCII letters only: every other character
stands for itself. A surrogate without its partner is decoded to U+FFFD, so
every list of units has a decoding.
-/

namespace Fat32.Text

/-- ASCII letters in lower case, everything else as it is. -/
def fold (text : String) : String := text.map Char.toLower

def latin1 (byte : UInt8) : Char := Char.ofNat byte.toNat

/-- Append a character unless the text would grow beyond `limit` UTF-8 bytes. -/
def pushWithin (limit : Nat) (text : String) (c : Char) : String :=
  if text.utf8ByteSize + c.utf8Size ≤ limit then text.push c else text

/-- A number in lower-case hexadecimal with at least `digits` digits. -/
def hexadecimal (digits n : Nat) : String :=
  let shown := Nat.toDigits 16 n
  String.ofList (List.replicate (digits - shown.length) '0' ++ shown)

end Fat32.Text

namespace Fat32.Text.Utf16

/-- The first half of a pair. -/
def isHigh (unit : UInt16) : Bool := 0xD800 ≤ unit && unit < 0xDC00

/-- The second half of a pair. -/
def isLow (unit : UInt16) : Bool := 0xDC00 ≤ unit && unit < 0xE000

def pair (high low : UInt16) : Char :=
  Char.ofNat (0x10000 + (high.toNat - 0xD800) * 0x400 + (low.toNat - 0xDC00))

def single (unit : UInt16) : Char :=
  if isHigh unit || isLow unit then '\uFFFD' else Char.ofNat unit.toNat

def decode : List UInt16 → List Char
  | [] => []
  | [unit] => [single unit]
  | unit :: next :: rest =>
    if isHigh unit && isLow next then pair unit next :: decode rest
    else single unit :: decode (next :: rest)

end Fat32.Text.Utf16
