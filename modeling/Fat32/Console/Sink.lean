import Fat32.Scan.Basic

/-!
Text on its way to a console. A sink with a capacity takes characters until the
next one would not fit. A renderer writes one piece after the other, and each of
its writes may fail, which ends it unless it goes on in spite of that.
-/

namespace Fat32.Console

structure Sink where
  written : String
  /-- The most UTF-8 bytes that are taken, unless there is no limit. -/
  capacity : Option Nat
  deriving DecidableEq, Repr

namespace Sink

def ofCapacity (capacity : Option Nat) : Sink := ⟨"", capacity⟩

def fits (sink : Sink) (c : Char) : Bool :=
  sink.capacity.all (sink.written.utf8ByteSize + c.utf8Size ≤ ·)

def push (sink : Sink) (c : Char) : Sink := { sink with written := sink.written.push c }

/-- Write characters as long as they fit, and say whether all of them did. -/
def writeChars (sink : Sink) : List Char → Sink × Bool
  | [] => (sink, true)
  | c :: rest => if sink.fits c then (sink.push c).writeChars rest else (sink, false)

end Sink

inductive WriteError where
  | full
  deriving DecidableEq, Repr

/-- Work that writes onto a sink, which stays as the work left it, also when a write fails. -/
abbrev Render (κ : Type) := ExceptT WriteError (StateT Sink (Scan κ))

namespace Render

variable {ι κ α : Type}

/-- Work that writes nothing. -/
def ofScan (scan : Scan κ α) : Render κ α := ExceptT.lift (StateT.lift scan)

def writeChars (chars : List Char) : Render κ Unit := ExceptT.mk fun sink =>
  match sink.writeChars chars with
  | (sink, true) => .done (.ok (), sink)
  | (sink, false) => .done (.error .full, sink)

def writeStr (text : String) : Render κ Unit := writeChars text.toList

def writeChar (c : Char) : Render κ Unit := writeChars [c]

def writeEach : List Char → Render κ Unit
  | [] => pure ()
  | c :: rest => do
    writeChar c
    writeEach rest

/-- Render the items of an attempt as they are come by, and the error that ends it, if any. -/
def each (line : ι → Render κ Unit) (last : Error → Render κ Unit) :
    Scan ι (Except Error Unit) → Render κ Unit
  | .done (.ok ()) => pure ()
  | .done (.error cause) => last cause
  | .item value rest => do
    line value
    each line last rest
  | .read lba next => ExceptT.mk fun sink =>
    .read lba fun answer => (each line last (next answer)).run.run sink
  | .report diagnostic rest => ExceptT.mk fun sink =>
    .report diagnostic ((each line last rest).run.run sink)

/-- What is left of a sink, and whether no write has failed. -/
def onto (render : Render κ Unit) (sink : Sink) : Scan κ (Sink × Bool) := do
  let (result, sink) ← render.run.run sink
  return (sink, result.isOk)

end Render

end Fat32.Console
