import Fat32.Console.Sink
import Fat32.Filesystem.Content
import Fat32.Filesystem.Usage

/-!
The console commands: what each of them writes. An error of the filesystem is
written as a line of its own.
-/

namespace Fat32.Console

open Render

variable {κ : Type}

def red : String := "\x1b[31m"

def magenta : String := "\x1b[35m"

def blue : String := "\x1b[34m"

def reset : String := "\x1b[0m"

def barWidth : Nat := 50

def errorLine (message : String) : Render κ Unit := do
  writeStr red
  writeStr "ERROR"
  writeStr reset
  writeStr " "
  writeStr message
  writeStr "\n"

def error (cause : Error) : Render κ Unit := errorLine cause.message

def prompt (fs : Filesystem) : Render κ Unit := do
  writeStr fs.current.path
  writeStr "> "

/-- A directory is listed with a slash behind its name, a file with its size. -/
def entryLine (entry : Entry) : Render κ Unit := do
  if entry.isDirectory then
    writeStr blue
    writeStr entry.name
    writeStr "/"
    writeStr reset
    writeStr "\n"
  else
    writeStr entry.name
    writeStr "  "
    writeStr (toString entry.size)
    writeStr "\n"

/-- The lines of a listing, and a line for the error that ends it. -/
def ls (fs : Filesystem) : Render κ Unit := each entryLine error fs.list.run

def cd (fs : Filesystem) (path : String) (sink : Sink) : Scan κ (Filesystem × Sink × Bool) := do
  match ← (fs.changeDirectory path).run with
  | .ok fs => return (fs, sink, true)
  | .error .notFound => return (fs, ← (errorLine ("no such directory: " ++ path)).onto sink)
  | .error cause => return (fs, ← (error cause).onto sink)

/-- Write bytes as text: as UTF-8 if they are that, else one character for each byte. -/
def writeBytes (bytes : List UInt8) : Render κ Unit :=
  match String.fromUTF8? ⟨bytes.toArray⟩ with
  | some text => writeStr text
  | none => writeEach (bytes.map Text.latin1)

/-- The start of a file, at most `limit` bytes of it, on lines of its own. -/
def cat (fs : Filesystem) (path : String) (limit : Nat) : Render κ Unit := do
  let (parts, result) ← ofScan (fs.fileContents path limit).run.toList
  match result with
  | .error cause => error cause
  | .ok _ =>
    let bytes := parts.flatten
    writeBytes bytes
    unless bytes.isEmpty || bytes.getLast? == some 0x0A do writeChar '\n'

def filledCells (used total width : Nat) : Nat :=
  if total = 0 then 0 else min used total * width / total

def cells (filled cell : Nat) : Nat → Render κ Unit
  | 0 => pure ()
  | count + 1 => do
    writeChar (if cell < filled then '#' else ' ')
    cells filled (cell + 1) count

def bar (used total width : Nat) : Render κ Unit := do
  writeChar '['
  cells (filledCells used total width) 0 width
  writeChar ']'

def diskLine (usage : Usage) : Render κ Unit := do
  writeStr magenta
  writeStr "Disk"
  writeStr reset
  writeStr "   "
  bar usage.usedMebibytes usage.totalMebibytes barWidth
  writeStr " "
  writeStr (toString usage.usedMebibytes)
  writeStr "MB / "
  writeStr (toString usage.totalMebibytes)
  writeStr "MB\n"

def ps (fs : Filesystem) : Render κ Unit := do
  match ← ofScan fs.volume.usage.run with
  | .ok usage => diskLine usage
  | .error cause => error cause

/-- What can be asked for at the console. -/
inductive Command where
  | error (cause : Error)
  | prompt
  | ls
  | cd (path : String)
  | cat (path : String) (limit : Nat)
  | ps
  | bar (used total width : Nat)
  deriving DecidableEq, Repr

/-- Carry out a command: the state behind it, the sink, and whether everything was written. -/
def Command.run (fs : Filesystem) (sink : Sink) : Command → Scan κ (Filesystem × Sink × Bool)
  | error cause => return (fs, ← (Console.error cause).onto sink)
  | prompt => return (fs, ← (Console.prompt fs).onto sink)
  | ls => return (fs, ← (Console.ls fs).onto sink)
  | cd path => Console.cd fs path sink
  | cat path limit => return (fs, ← (Console.cat fs path limit).onto sink)
  | ps => return (fs, ← (Console.ps fs).onto sink)
  | bar used total width => return (fs, ← (Console.bar used total width).onto sink)

end Fat32.Console
