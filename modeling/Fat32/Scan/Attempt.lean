import Fat32.Error
import Fat32.Scan.Basic

/-!
An attempt is a scan that may finish with an error. `visit` is the one loop
over the items of an attempt; searches, listings and copies are instances of it.
-/

namespace Fat32

/-- A scan that may finish with an error. -/
abbrev Attempt (ι : Type) := ExceptT Error (Scan ι)

/-- How a visitor goes on after an item. -/
inductive Step (σ ρ : Type) where
  | more (state : σ)
  | enough (result : ρ)

namespace Attempt

variable {ι κ α σ ρ : Type}

def emit (value : ι) : Attempt ι Unit := ExceptT.lift (Scan.emit value)

def note (diagnostic : Diagnostic) : Attempt ι Unit := ExceptT.lift (Scan.note diagnostic)

/-- Report a diagnostic and fail. -/
def failWith (diagnostic : Diagnostic) (error : Error) : Attempt ι α := do
  note diagnostic
  throw error

def ofExcept (result : Except Error α) : Attempt ι α := ExceptT.mk (.done result)

def sector (lba : UInt32) : Attempt ι Sector := ExceptT.mk (.read lba fun answer =>
  .done (answer.mapError .device))

/-- The items and the error, if any, that end a scan. -/
def items (scan : Attempt ι Unit) : Scan κ (List ι × Except Error Unit) :=
  Scan.toList scan.run

end Attempt

namespace Scan

variable {ι κ σ ρ : Type}

/-- Hand the items of an attempt to a visitor until it has had enough. -/
def visit (visitor : σ → ι → Attempt κ (Step σ ρ)) :
    Scan ι (Except Error Unit) → σ → Attempt κ (Step σ ρ)
  | done (.ok ()), state => pure (.more state)
  | done (.error error), _ => throw error
  | item value rest, state => do
    match ← visitor state value with
    | .more state => rest.visit visitor state
    | .enough result => pure (.enough result)
  | read lba next, state => ExceptT.mk (read lba fun answer => (next answer).visit visitor state)
  | report diagnostic rest, state => ExceptT.mk (report diagnostic (rest.visit visitor state))

end Scan

namespace Attempt

variable {ι κ σ ρ : Type}

def visit (scan : Attempt ι Unit) (visitor : σ → ι → Attempt κ (Step σ ρ)) (state : σ) :
    Attempt κ (Step σ ρ) :=
  Scan.visit visitor scan.run state

def find? (scan : Attempt ι Unit) (test : ι → Bool) : Attempt κ (Option ι) := do
  match ← scan.visit (fun () value => pure (if test value then .enough value else .more ())) () with
  | .more () => pure none
  | .enough value => pure (some value)

end Attempt

end Fat32
