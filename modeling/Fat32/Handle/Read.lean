import Fat32.Handle.Table

/-!
Reading from an open file at any offset. A read is cut into spans, one for each
cluster that it touches. For every span the file moves to the cluster, the
cluster is loaded unless it is cached, and its part of the bytes is handed out.
A failure leaves the file where it was when the failure arose.
-/

namespace Fat32

/-- The part of a read that lies in one cluster: the bytes from `first` up to
but not including `last`, counted from the start of the cluster. -/
structure Span where
  index : Nat
  first : Nat
  last : Nat
  deriving DecidableEq, Repr

/-- The spans of the bytes from `start` up to but not including `stop`. -/
def Span.cover (clusterSize start stop : Nat) : List Span :=
  let index := start / clusterSize
  (List.range' index ((stop - 1) / clusterSize + 1 - index)).map fun index =>
    { index
      first := start - index * clusterSize
      last := min clusterSize (stop - index * clusterSize) }

namespace OpenFile

variable {ι : Type} (volume : Volume)

def follow (index : Nat) : Nat → OpenFile → Scan ι (OpenFile × Except Error Unit)
  | 0, file => return (file, .ok ())
  | hops + 1, file => do
    match ← (volume.successor file.position.cluster).run with
    | .error error => return (file, .error error)
    | .ok none =>
      Scan.note (.handleChainEnds (file.position.index + 1) (index + 1))
      return (file, .error .incompleteRead)
    | .ok (some next) =>
      follow index hops { file with position := ⟨file.position.index + 1, next⟩ }

/-- Move to the cluster at place `index`. A chain is linked forwards only, so a
place that was passed is reached from the start. -/
def seek (index : Nat) (file : OpenFile) : Scan ι (OpenFile × Except Error Unit) :=
  let file := if index < file.position.index then file.rewind else file
  if file.position.index = 0 && !volume.isCluster file.position.cluster then do
    Scan.note (.handleStart file.size file.position.cluster)
    return (file, .error .corruptChain)
  else follow volume index (index - file.position.index) file

def load (file : OpenFile) : Scan ι (OpenFile × Except Error (List UInt8)) := do
  let cluster := file.position.cluster
  match file.cache.filter (·.cluster == cluster) with
  | some cache => return (file, .ok cache.bytes)
  | none =>
    let start := (volume.clusterStart cluster).toNat
    let (sectors, result) ← (Scan.sectors start volume.sectorsPerCluster.toNat).toList
    match result with
    | .error cause => return ({ file with cache := none }, .error (.device cause))
    | .ok () =>
      let bytes := sectors.flatMap (·.toList)
      return ({ file with cache := some ⟨cluster, bytes⟩ }, .ok bytes)

def readSpans : List Span → OpenFile → Scan (List UInt8) (OpenFile × Except Error Unit)
  | [], file => return (file, .ok ())
  | span :: rest, file => do
    let (file, moved) ← seek volume span.index file
    match moved with
    | .error error => return (file, .error error)
    | .ok () =>
      let (file, loaded) ← load volume file
      match loaded with
      | .error error => return (file, .error error)
      | .ok bytes =>
        Scan.emit ((bytes.take span.last).drop span.first)
        readSpans rest file

/-- Hand out the bytes of the file from `offset` on, at most `count` of them.
The value is their number, which is less than `count` only at the end of the
file. -/
def read (offset count : Nat) (file : OpenFile) :
    Scan (List UInt8) (OpenFile × Except Error Nat) :=
  let size := file.size.toNat
  if count = 0 then return (file, .ok 0)
  else if size ≤ offset then return (file, .error .endOfFile)
  else do
    let stop := min size (offset + count)
    let (file, result) ← readSpans volume
      (Span.cover volume.bytesPerCluster.toNat offset stop) file
    return (file, result.map fun () => stop - offset)

end OpenFile

end Fat32
