import Fat32.Bytes
import Fat32.Diagnostic
import Fat32.Error

/-!
Work on a device, as a tree. A scan asks for sectors one at a time, may hand
out items and report diagnostics on the way, and finishes with a value. The
tree after a request is a function of the answer, so a scan says what it would
do for every device, and whoever consumes it decides how far it gets: nothing
behind the last item taken is ever asked for.

A scan of bytes may write into a buffer, from its start on. When it fails it has
written what it had handed out by then, and the rest of the buffer is as it was.
-/

namespace Fat32

/-- Hands out items of type `ι` and finishes with an `α`. -/
inductive Scan (ι α : Type) where
  | done (value : α)
  | item (value : ι) (rest : Scan ι α)
  | read (lba : UInt32) (next : Except DeviceError Sector → Scan ι α)
  | report (diagnostic : Diagnostic) (rest : Scan ι α)

namespace Scan

variable {ι κ α β γ : Type}

protected def bind : Scan ι α → (α → Scan ι β) → Scan ι β
  | done value, f => f value
  | item value rest, f => item value (rest.bind f)
  | read lba next, f => read lba fun answer => (next answer).bind f
  | report diagnostic rest, f => report diagnostic (rest.bind f)

instance : Monad (Scan ι) where
  pure := done
  bind := Scan.bind

@[simp] theorem done_bind (value : α) (f : α → Scan ι β) :
    (done value : Scan ι α).bind f = f value := rfl

theorem bind_done (scan : Scan ι α) : scan.bind done = scan := by
  induction scan with
  | done value => rfl
  | item value rest ih => simp [Scan.bind, ih]
  | read lba next ih => simp [Scan.bind, ih]
  | report diagnostic rest ih => simp [Scan.bind, ih]

theorem bind_bind (scan : Scan ι α) (f : α → Scan ι β) (g : β → Scan ι γ) :
    (scan.bind f).bind g = scan.bind fun value => (f value).bind g := by
  induction scan with
  | done value => rfl
  | item value rest ih => simp [Scan.bind, ih]
  | read lba next ih => simp [Scan.bind, ih]
  | report diagnostic rest ih => simp [Scan.bind, ih]

instance : LawfulMonad (Scan ι) := .mk' _
  (fun scan => bind_done scan)
  (fun _ _ => rfl)
  bind_bind

def emit (value : ι) : Scan ι Unit := item value (done ())

def sector (lba : UInt32) : Scan ι (Except DeviceError Sector) := read lba done

def note (diagnostic : Diagnostic) : Scan ι Unit := report diagnostic (done ())

def mapItems (f : ι → κ) : Scan ι α → Scan κ α
  | done value => done value
  | item value rest => item (f value) (rest.mapItems f)
  | read lba next => read lba fun answer => (next answer).mapItems f
  | report diagnostic rest => report diagnostic (rest.mapItems f)

/-- Run a scan to its end and collect its items behind those in `taken`, where
the last one comes first. -/
def collect (taken : List ι) : Scan ι α → Scan κ (List ι × α)
  | done value => done (taken.reverse, value)
  | item value rest => rest.collect (value :: taken)
  | read lba next => read lba fun answer => (next answer).collect taken
  | report diagnostic rest => report diagnostic (rest.collect taken)

def toList (scan : Scan ι α) : Scan κ (List ι × α) := scan.collect []

/-- Like `collect`, but only until `count` more items were handed out. -/
def collectWithin (count : Nat) (taken : List ι) : Scan ι α → Scan κ (List ι × Option α)
  | done value => done (taken.reverse, if count = 0 then none else some value)
  | item value rest =>
    match count with
    | 0 => done (taken.reverse, none)
    | count + 1 => rest.collectWithin count (value :: taken)
  | read lba next =>
    if count = 0 then done (taken.reverse, none)
    else read lba fun answer => (next answer).collectWithin count taken
  | report diagnostic rest =>
    if count = 0 then done (taken.reverse, none)
    else report diagnostic (rest.collectWithin count taken)

/-- Run a scan until it has handed out `count` items. There is no final value
when it was stopped before its end. -/
def take (count : Nat) (scan : Scan ι α) : Scan κ (List ι × Option α) :=
  scan.collectWithin count []

/-- The sectors from `block` on, one request each, up to the first that fails.
An address of more than 32 bits is refused without asking the device. -/
def sectors (block : Nat) : Nat → Scan Sector (Except DeviceError Unit)
  | 0 => done (.ok ())
  | count + 1 =>
    if block < Word.limit then
      read (.ofNat block) fun
        | .ok sector => item sector (sectors (block + 1) count)
        | .error cause => done (.error cause)
    else done (.error .invalidAddress)

end Scan

/-- A buffer after a list was written over its start. -/
def overlay {α : Type} (buffer written : List α) : List α :=
  written ++ buffer.drop written.length

namespace Scan

variable {ι α : Type}

def fill (buffer : List UInt8) (scan : Scan (List UInt8) α) : Scan ι (List UInt8 × α) := do
  let (parts, value) ← scan.toList
  return (overlay buffer parts.flatten, value)

/-- Read the sectors from `block` on into buffers, one for each. -/
def fillSectors (block : Nat) (buffers : List Sector) :
    Scan ι (List Sector × Except DeviceError Unit) := do
  let (loaded, result) ← (sectors block buffers.length).toList
  return (overlay buffers loaded, result)

end Scan

end Fat32
