import Fat32.Text.Quoted
import Fat32.Volume.Header

/-!
What the reader reports about its work while it goes on. A diagnostic is a
cause with its data; its level and its wording are functions of the cause.
-/

namespace Fat32

inductive Level where
  | info
  | debug
  | warn
  | trace
  deriving DecidableEq, Repr

def Level.label : Level → String
  | .info => "INFO"
  | .debug => "DEBUG"
  | .warn => "WARN"
  | .trace => "TRACE"

inductive Diagnostic where
  | mounted (start clusters clusterSize : UInt32) (fats : UInt8) (fatSectors root : UInt32)
  | partitionFound (kind : UInt8) (start : UInt32)
  | partitionMissing
  | header (fault : HeaderFault)
  | chainStart (cluster : UInt32)
  | chainLink (cluster next : UInt32)
  | chainTooLong (clusters : UInt32)
  | handleStart (size cluster : UInt32)
  | handleChainEnds (found needed : Nat)
  | fileChainEnds (name : String) (copied wanted : Nat)
  | directoryMissing (name path : String)
  | ascended (path : String) (cluster : UInt32)
  | changedDirectory (request path : String) (cluster : UInt32)
  | readPastEnd (lba : UInt32)
  deriving DecidableEq, Repr

namespace Diagnostic

/-- Warnings report a volume that contradicts itself. -/
def level : Diagnostic → Level
  | .mounted .. => .info
  | .partitionFound .. | .partitionMissing | .header _ => .debug
  | .chainStart _ | .chainLink .. | .chainTooLong _ | .handleStart .. | .handleChainEnds ..
  | .fileChainEnds .. => .warn
  | .directoryMissing .. | .ascended .. | .changedDirectory .. | .readPastEnd _ => .trace

/-- A number in hexadecimal behind `0x`. -/
def hex (digits n : Nat) : String := "0x" ++ Text.hexadecimal digits n

def text : Diagnostic → String
  | .mounted start clusters clusterSize fats fatSectors root =>
    s!"fat32: mounted at lba {start}: {clusters} clusters of {clusterSize} bytes, " ++
      s!"{fats} FAT(s) of {fatSectors} sectors, root cluster {root}"
  | .partitionFound kind start =>
    s!"mbr: FAT32 partition type {hex 2 kind.toNat} at lba {start}"
  | .partitionMissing => "mbr: no FAT32 partition in table"
  | .header fault => fault.text?.getD ""
  | .chainStart cluster => s!"fat32: chain starts at invalid cluster {hex 1 cluster.toNat}"
  | .chainLink cluster next =>
    s!"fat32: cluster {cluster} links to invalid cluster {hex 1 next.toNat}"
  | .chainTooLong clusters => s!"fat32: chain exceeds {clusters} clusters"
  | .handleStart size cluster =>
    s!"fat32: file of {size} bytes starts at invalid cluster {hex 1 cluster.toNat}"
  | .handleChainEnds found needed =>
    s!"fat32: chain ends after {found} clusters, file needs {needed}"
  | .fileChainEnds name copied wanted =>
    s!"fat32: chain of {Text.quoted name} ends after {copied} of {wanted} bytes"
  | .directoryMissing name path => s!"cd: no directory {Text.quoted name} in {path}"
  | .ascended path cluster => s!"cd: up to {path} (cluster {cluster})"
  | .changedDirectory request path cluster => s!"cd: {request} -> {path} (cluster {cluster})"
  | .readPastEnd lba => s!"ramdisk: read past end at lba {lba}"

def line (diagnostic : Diagnostic) : String :=
  diagnostic.level.label ++ " " ++ diagnostic.text

end Diagnostic

end Fat32
