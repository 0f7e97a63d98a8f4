import Fat32.Volume.Basic

/-!
The file allocation table links every cluster to the next one of its file. A
chain is walked link by link: the table is asked for a link only when the
cluster behind it is wanted. A chain cannot be longer than the volume, so the
number of its clusters bounds the walk and a chain that goes on is in a loop.
-/

namespace Fat32.Volume

variable {ι : Type} (volume : Volume)

/-- Links from here on mark the end of a chain. -/
def endOfChain : UInt32 := 0x0FFFFFF8

/-- The entry of a cluster in a sector of the table. Its upper four bits are reserved. -/
def entryIn (sector : Sector) (cluster : UInt32) : UInt32 :=
  sector.word32 (cluster.toNat % 128 * 4) &&& 0x0FFFFFFF

def tableEntry (cluster : UInt32) : Attempt ι UInt32 := do
  let sector ← Attempt.sector (volume.fatStart + cluster / entriesPerFatSector)
  return entryIn sector cluster

/-- The cluster behind `cluster`, or none at the end of the chain. -/
def successor (cluster : UInt32) : Attempt ι (Option UInt32) := do
  let next ← volume.tableEntry cluster
  if endOfChain ≤ next then
    return none
  else if volume.isCluster next then
    return some next
  else
    Attempt.failWith (.chainLink cluster next) .corruptChain

/-- The chain from a cluster of the volume on, if it has at most `budget` clusters. -/
def chainWithin : Nat → UInt32 → Attempt UInt32 Unit
  | 0, _ => Attempt.failWith (.chainTooLong volume.clusterCount) .corruptChain
  | budget + 1, cluster => do
    Attempt.emit cluster
    match ← volume.successor cluster with
    | none => return ()
    | some next => chainWithin budget next

/-- The clusters of the chain that starts at a cluster number. Number 0 stands
for the empty chain. -/
def chain (start : UInt32) : Attempt UInt32 Unit :=
  if start = 0 then pure ()
  else if volume.isCluster start then volume.chainWithin volume.clusterCount.toNat start
  else Attempt.failWith (.chainStart start) .corruptChain

end Fat32.Volume
