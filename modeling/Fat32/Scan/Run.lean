import Fat32.Device.Basic

/-!
Running a scan. On a device with state every request goes to the device in its
current state. A device whose answers never change is just the function from
addresses to answers, and on it a scan has a trace and a result.
-/

namespace Fat32

structure Outcome (δ α : Type) where
  value : α
  device : δ
  diagnostics : Array Diagnostic

/-- A device whose answers never change. -/
abbrev Medium := UInt32 → Except DeviceError Sector

/-- One step of a scan, as seen from outside. -/
inductive Event (ι : Type) where
  | item (value : ι)
  | read (lba : UInt32)
  | report (diagnostic : Diagnostic)
  deriving DecidableEq, Repr

namespace Event

variable {ι : Type}

def item? : Event ι → Option ι
  | item value => some value
  | _ => none

def read? : Event ι → Option UInt32
  | read lba => some lba
  | _ => none

def report? : Event ι → Option Diagnostic
  | report diagnostic => some diagnostic
  | _ => none

end Event

namespace Scan

variable {ι α δ : Type}

/-- Run a scan without items and append its diagnostics to those of before. -/
def runOn [Device δ] : Scan Empty α → δ → Array Diagnostic → Outcome δ α
  | done value, device, diagnostics => ⟨value, device, diagnostics⟩
  | item value _, _, _ => value.elim
  | read lba next, device, diagnostics =>
    let reply := Device.readSector device lba
    (next reply.answer).runOn reply.device (diagnostics.appendList reply.diagnostics)
  | report diagnostic rest, device, diagnostics => rest.runOn device (diagnostics.push diagnostic)

/-- The value that a scan finishes with on a fixed device. -/
def result (medium : Medium) : Scan ι α → α
  | done value => value
  | item _ rest => rest.result medium
  | read lba next => (next (medium lba)).result medium
  | report _ rest => rest.result medium

/-- The steps of a scan on a fixed device, in order. -/
def trace (medium : Medium) : Scan ι α → List (Event ι)
  | done _ => []
  | item value rest => .item value :: rest.trace medium
  | read lba next => .read lba :: (next (medium lba)).trace medium
  | report diagnostic rest => .report diagnostic :: rest.trace medium

def itemsOn (medium : Medium) (scan : Scan ι α) : List ι :=
  (scan.trace medium).filterMap Event.item?

def readsOn (medium : Medium) (scan : Scan ι α) : List UInt32 :=
  (scan.trace medium).filterMap Event.read?

def reportsOn (medium : Medium) (scan : Scan ι α) : List Diagnostic :=
  (scan.trace medium).filterMap Event.report?

end Scan

end Fat32
