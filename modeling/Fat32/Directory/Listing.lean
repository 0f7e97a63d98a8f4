import Fat32.Directory.Record
import Fat32.Name.Long
import Fat32.Name.Short
import Fat32.Volume.Chain

/-!
What the records of a directory stand for, and the entries that they describe.

Reading a directory: its clusters in the order of their chain, the sectors of
each cluster, the records of each sector. Long names run on across all of
these. A sector is asked for when the first entry in it is wanted, and nothing
behind an end mark is ever read.
-/

namespace Fat32

inductive RecordKind where
  /-- Neither this record nor any behind it is in use. -/
  | endMark
  | deleted
  | fragment (fragment : Fragment)
  | label
  | entry

def RecordKind.ofRecord (record : DirRecord) : RecordKind :=
  if record.status = 0x00 then .endMark
  else if record.status = 0xE5 then .deleted
  else if record.attributes.isFragment then .fragment (.ofRecord record)
  else if record.attributes.isLabel then .label
  else .entry

/-- A file or a directory as it is listed. -/
structure Entry where
  name : String
  shortName : ShortName
  attributes : Attributes
  /-- The first cluster. It is 0 for an empty file and for a parent that is the root. -/
  cluster : UInt32
  size : UInt32
  deriving DecidableEq

namespace Entry

/-- The entry of a record behind the fragments of its long name. -/
def ofRecord (record : DirRecord) (long : LongName) : Entry :=
  { name := long.toName?.getD record.shortName.display
    shortName := record.shortName
    attributes := record.attributes
    cluster := record.cluster
    size := record.size }

def isDirectory (entry : Entry) : Bool := entry.attributes.isDirectory

def isSelf (entry : Entry) : Bool :=
  entry.shortName.raw.toList == ".          ".toList.map Char.toUInt8

def isParent (entry : Entry) : Bool :=
  entry.shortName.raw.toList == "..         ".toList.map Char.toUInt8

/-- Whether a query is for the name or for the short name of the entry. -/
def answers (entry : Entry) (query : Query) : Bool :=
  Text.fold entry.name == query.folded || query.short == some entry.shortName

/-- Whether a text is the name or the short name, up to ASCII case. -/
def isNamed (entry : Entry) (name : String) : Bool := entry.answers (.ofString name)

end Entry

end Fat32

namespace Fat32.Directory

/-- Hand out the entries of some records. There is no more to come behind an end mark. -/
def records : List DirRecord → LongName → Attempt Entry (Step LongName Unit)
  | [], long => pure (.more long)
  | record :: rest, long =>
    match RecordKind.ofRecord record with
    | .endMark => pure (.enough ())
    | .deleted | .label => records rest long.clear
    | .fragment fragment => records rest (long.prepend fragment.units)
    | .entry => do
      Attempt.emit (.ofRecord record long)
      records rest long.clear

def sectors (lba : UInt32) : Nat → LongName → Attempt Entry (Step LongName Unit)
  | 0, long => pure (.more long)
  | count + 1, long => do
    let sector ← Attempt.sector lba
    match ← records sector.records long with
    | .more long => sectors (lba + 1) count long
    | .enough () => pure (.enough ())

/-- The entries of the directory that starts at a cluster. -/
def entries (volume : Volume) (start : UInt32) : Attempt Entry Unit := do
  let _ ← (volume.chain start).visit (fun long cluster =>
    sectors (volume.clusterStart cluster) volume.sectorsPerCluster.toNat long) LongName.empty

end Fat32.Directory
