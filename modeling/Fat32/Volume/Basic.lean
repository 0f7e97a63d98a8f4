import Fat32.Scan.Attempt

/-!
Where a volume keeps what. A volume is laid out from its header and the sector
at which it starts: reserved sectors, then the tables, then the data clusters,
which are numbered from 2. `ofHeader` refuses a header unless every region has
a 32-bit address and the root directory lies in a data cluster.
-/

namespace Fat32

structure Volume where
  header : Header
  start : UInt32
  /-- The first sector of the first table. -/
  fatStart : UInt32
  /-- The first sector of cluster 2. -/
  dataStart : UInt32
  bytesPerCluster : UInt32
  clusterCount : UInt32
  deriving DecidableEq, Repr

/-- The number of table entries in a sector. -/
def entriesPerFatSector : UInt32 := 128

namespace Volume

variable {ι : Type}

/-- The clusters that both the sector total and the size of a table leave room
for. The first two table entries belong to no cluster. -/
def countClusters (header : Header) (metadata : UInt32) : UInt32 :=
  min ((header.totalSectors - metadata) / header.sectorsPerCluster.toUInt32)
    (Word.subClamped (Word.mulClamped header.sectorsPerFat entriesPerFatSector) 2)

def ofHeader (start : UInt32) (header : Header) : Except HeaderFault Volume := do
  if let some fault := header.fault? then throw fault
  let reserved := header.reservedSectors.toUInt32
  let some tables := Word.mul? header.fatCount.toUInt32 header.sectorsPerFat
    | throw .addressOverflow
  let some metadata := Word.add? tables reserved | throw .addressOverflow
  let some fatStart := Word.add? start reserved | throw .addressOverflow
  let some dataStart := Word.add? start metadata | throw .addressOverflow
  if header.totalSectors ≤ metadata || (Word.add? start header.totalSectors).isNone then
    throw (.noDataRegion header.totalSectors metadata)
  let clusterCount := countClusters header metadata
  if clusterCount = 0 || clusterCount + 1 < header.rootCluster then
    throw (.rootOutside header.rootCluster clusterCount)
  let bytesPerCluster := header.sectorsPerCluster.toUInt32 * 512
  return { header, start, fatStart, dataStart, bytesPerCluster, clusterCount }

/-- Report a fault, unless it has no wording, and refuse the volume. -/
def refuse {α : Type} (fault : HeaderFault) : Attempt ι α :=
  match fault.text? with
  | some _ => Attempt.failWith (.header fault) .invalidVolume
  | none => throw .invalidVolume

def checkHeader (header : Header) : Attempt ι Unit :=
  match header.fault? with
  | some fault => refuse fault
  | none => pure ()

def ofBootSector (start : UInt32) (sector : Sector) : Attempt ι Volume :=
  match ofHeader start (.ofSector sector) with
  | .ok volume => pure volume
  | .error fault => refuse fault

/-- The volume that starts at a sector of the device. -/
def read (start : UInt32) : Attempt ι Volume := do
  ofBootSector start (← Attempt.sector start)

variable (volume : Volume)

def sectorsPerCluster : UInt32 := volume.header.sectorsPerCluster.toUInt32

def rootCluster : UInt32 := volume.header.rootCluster

def maxCluster : UInt32 := volume.clusterCount + 1

def isCluster (cluster : UInt32) : Bool := 2 ≤ cluster && cluster ≤ volume.maxCluster

/-- The first sector of a cluster of the volume. -/
def clusterStart (cluster : UInt32) : UInt32 :=
  volume.dataStart + (cluster - 2) * volume.sectorsPerCluster

end Volume

end Fat32
