import Fat32.Directory.Listing
import Fat32.Proofs.Bytes
import Fat32.Proofs.Name.Long
import Fat32.Proofs.Scan.Stream
import Fat32.Proofs.Volume.Path
import Fat32.Proofs.Word

/-!
Directories read in one go: the sectors of the chain are put together, cut into
records and folded into entries (`batch`). The stream of entries, which carries
a long name and its place across sectors and clusters, hands out the same.
-/

namespace Fat32

/-- The sectors at some addresses, up to the first that fails. -/
def Medium.sectors (medium : Medium) : List UInt32 → List Sector × Except DeviceError Unit
  | [] => ([], .ok ())
  | lba :: rest =>
    match medium lba with
    | .error cause => ([], .error cause)
    | .ok sector =>
      let (sectors, ending) := medium.sectors rest
      (sector :: sectors, ending)

theorem Medium.sectors_append (medium : Medium) (first second : List UInt32) :
    medium.sectors (first ++ second) =
      match medium.sectors first with
      | (sectors, .ok ()) => (sectors ++ (medium.sectors second).1, (medium.sectors second).2)
      | (sectors, .error cause) => (sectors, .error cause) := by
  induction first with
  | nil => rfl
  | cons lba rest ih =>
    rw [List.cons_append, Medium.sectors, Medium.sectors, ih]
    cases medium lba with
    | error cause => rfl
    | ok sector =>
      obtain ⟨sectors, ending⟩ := medium.sectors rest
      cases ending <;> rfl

def Volume.addresses (volume : Volume) (cluster : UInt32) : List UInt32 :=
  (List.range volume.sectorsPerCluster.toNat).map fun index =>
    volume.clusterStart cluster + .ofNat index

namespace Directory

/-- The bytes of a directory up to the first error, and how they end. -/
def contents (volume : Volume) (medium : Medium) (start : UInt32) :
    List UInt8 × Except Error Unit :=
  let chain := (volume.chain start).run
  let (sectors, ending) := medium.sectors ((chain.itemsOn medium).flatMap volume.addresses)
  (sectors.flatMap (·.toList),
    match ending with
    | .ok () => chain.result medium
    | .error cause => .error (.device cause))

theorem contents_eq {volume : Volume} {medium : Medium} {start : UInt32} {clusters : List UInt32}
    {sectors : List Sector} (walked : (volume.chain start).run.itemsOn medium = clusters)
    (ends : (volume.chain start).run.result medium = .ok ())
    (read : medium.sectors (clusters.flatMap volume.addresses) = (sectors, .ok ())) :
    contents volume medium start = (sectors.flatMap (·.toList), .ok ()) := by
  unfold contents
  dsimp only
  rw [walked, read, ends]

def cut (bytes : List UInt8) : List DirRecord :=
  (List.range (bytes.length / 32)).map fun index => .ofList 32 (bytes.drop (index * 32))

/-- The entries so far, and the units of the long name in front of the next one. -/
structure Gathered where
  entries : List Entry
  units : List UInt16

namespace Gathered

def empty : Gathered := ⟨[], []⟩

def entry (gathered : Gathered) (record : DirRecord) : Entry where
  name := (LongName.spelled gathered.units).getD record.shortName.display
  shortName := record.shortName
  attributes := record.attributes
  cluster := record.cluster
  size := record.size

def absorb (gathered : Gathered) (record : DirRecord) : Gathered :=
  if record.status = 0xE5 then ⟨gathered.entries, []⟩
  else if record.attributes.bits &&& 0x3F = 0x0F then
    ⟨gathered.entries, (Fragment.ofRecord record).units ++ gathered.units⟩
  else if record.attributes.bits &&& 0x08 ≠ 0 then ⟨gathered.entries, []⟩
  else ⟨gathered.entries ++ [gathered.entry record], []⟩

theorem absorb_of_kind (gathered : Gathered) (record : DirRecord) :
    match RecordKind.ofRecord record with
    | .endMark => record.status = 0
    | .deleted | .label =>
      record.status ≠ 0 ∧ gathered.absorb record = ⟨gathered.entries, []⟩
    | .fragment fragment =>
      record.status ≠ 0 ∧
        gathered.absorb record = ⟨gathered.entries, fragment.units ++ gathered.units⟩
    | .entry =>
      record.status ≠ 0 ∧
        gathered.absorb record = ⟨gathered.entries ++ [gathered.entry record], []⟩ := by
  unfold RecordKind.ofRecord absorb
  by_cases ends : record.status = 0
  · rw [if_pos ends]
    exact ends
  rw [if_neg ends]
  by_cases deleted : record.status = 0xE5
  · rw [if_pos deleted, if_pos deleted]
    exact ⟨ends, rfl⟩
  rw [if_neg deleted, if_neg deleted]
  by_cases fragment : record.attributes.bits &&& 0x3F = 0x0F
  · have isFragment : record.attributes.isFragment = true := beq_iff_eq.mpr fragment
    rw [if_pos isFragment, if_pos fragment]
    exact ⟨ends, rfl⟩
  have notFragment : ¬ record.attributes.isFragment = true := fun same =>
    fragment (beq_iff_eq.mp same)
  rw [if_neg notFragment, if_neg fragment]
  by_cases label : record.attributes.bits &&& 0x08 ≠ 0
  · have isLabel : record.attributes.isLabel = true := bne_iff_ne.mpr label
    rw [if_pos isLabel, if_pos label]
    exact ⟨ends, rfl⟩
  have notLabel : ¬ record.attributes.isLabel = true := fun differs =>
    label (bne_iff_ne.mp differs)
  rw [if_neg notLabel, if_neg label]
  exact ⟨ends, rfl⟩

end Gathered

/-- The records in use, which end in front of the first one that starts with a zero. -/
def used (records : List DirRecord) : List DirRecord :=
  records.takeWhile fun record => record.status ≠ 0

/-- The entries of a directory read in one go. An error behind the end mark is not met. -/
def batch (volume : Volume) (medium : Medium) (start : UInt32) : List Entry × Except Error Unit :=
  let (bytes, ending) := contents volume medium start
  let records := cut bytes
  (((used records).foldl Gathered.absorb .empty).entries,
    if (used records).length < records.length then .ok () else ending)

theorem used_eq_or_lt (records : List DirRecord) :
    used records = records ∨ (used records).length < records.length := by
  have part : (used records).Sublist records := List.takeWhile_sublist _
  rcases Nat.lt_or_eq_of_le part.length_le with fewer | same
  · exact .inr fewer
  · exact .inl (part.eq_of_length same)

theorem used_append_of_lt {first : List DirRecord} (second : List DirRecord)
    (fewer : (used first).length < first.length) : used (first ++ second) = used first := by
  unfold used at *
  rw [List.takeWhile_append, if_neg (Nat.ne_of_lt fewer)]

theorem used_append_of_eq {first : List DirRecord} (second : List DirRecord)
    (all : used first = first) : used (first ++ second) = first ++ used second := by
  have same := congrArg List.length all
  unfold used at *
  rw [List.takeWhile_append, if_pos same]

def itemsBehind (more : LongName → List Entry) :
    Except Error (Step LongName Unit) → List Entry
  | .ok (.more long) => more long
  | .ok (.enough ()) => []
  | .error _ => []

def endBehind (final : LongName → Except Error (Step LongName Unit)) :
    Except Error (Step LongName Unit) → Except Error (Step LongName Unit)
  | .ok (.more long) => final long
  | .ok (.enough ()) => .ok (.enough ())
  | .error error => .error error

/-- A reader that gathers the records in use and stops at the end mark or at the error behind
the records. Without either it goes on with the long name that it has gathered. -/
structure Agrees (before : Gathered) (records : List DirRecord) (ending : Except Error Unit)
    (items : List Entry) (result : Except Error (Step LongName Unit)) : Prop where
  entries_eq : ((used records).foldl Gathered.absorb before).entries = before.entries ++ items
  stopped : (used records).length < records.length → result = .ok (.enough ())
  failed : used records = records → ∀ error, ending = .error error → result = .error error
  goesOn : used records = records → ending = .ok () →
    ∃ long, result = .ok (.more long) ∧
      long.Holds (records.foldl Gathered.absorb before).units

namespace Agrees

variable {before : Gathered} {first second : List DirRecord} {ending : Except Error Unit}
  {items : List Entry} {result : Except Error (Step LongName Unit)}

/-- What comes behind an end mark or an error is not read. -/
theorem append_of_stopped {more : LongName → List Entry}
    {final : LongName → Except Error (Step LongName Unit)} {error : Error}
    (agrees : Agrees before first (.error error) items result) :
    Agrees before first (.error error)
      (items ++ itemsBehind more result) (endBehind final result) := by
  rcases used_eq_or_lt first with all | fewer
  · have failed := agrees.failed all error rfl
    subst failed
    rwa [itemsBehind, List.append_nil]
  · have stopped := agrees.stopped fewer
    subst stopped
    rwa [itemsBehind, List.append_nil]

theorem append {more : LongName → List Entry}
    {final : LongName → Except Error (Step LongName Unit)}
    (agrees : Agrees before first (.ok ()) items result)
    (behind : ∀ long, long.Holds (first.foldl Gathered.absorb before).units →
      Agrees (first.foldl Gathered.absorb before) second ending (more long) (final long)) :
    Agrees before (first ++ second) ending
      (items ++ itemsBehind more result) (endBehind final result) := by
  rcases used_eq_or_lt first with all | fewer
  · obtain ⟨long, answered, holds⟩ := agrees.goesOn all rfl
    subst answered
    rw [itemsBehind, endBehind]
    have rest := behind long holds
    have gathered := agrees.entries_eq
    rw [all] at gathered
    have joined := used_append_of_eq second all
    constructor
    · rw [joined, List.foldl_append, rest.entries_eq, gathered, List.append_assoc]
    · intro fewer
      apply rest.stopped
      rw [joined, List.length_append, List.length_append] at fewer
      omega
    · intro same
      exact rest.failed (List.append_cancel_left (joined.symm.trans same))
    · intro same
      rw [List.foldl_append]
      exact rest.goesOn (List.append_cancel_left (joined.symm.trans same))
  · have answered := agrees.stopped fewer
    subst answered
    have joined := used_append_of_lt second fewer
    have notAll : used (first ++ second) ≠ first ++ second := by
      intro same
      have lengths := congrArg List.length (joined.symm.trans same)
      rw [List.length_append] at lengths
      omega
    constructor
    · rw [joined, itemsBehind, List.append_nil]
      exact agrees.entries_eq
    · intro _
      rfl
    · intro same
      exact absurd same notAll
    · intro same
      exact absurd same notAll

theorem ofError (before : Gathered) (error : Error) :
    Agrees before [] (.error error) [] (.error error) := by
  constructor
  · exact (List.append_nil _).symm
  · intro fewer
    exact absurd fewer (Nat.lt_irrefl 0)
  · intro _ other same
    cases same
    rfl
  · intro _ impossible
    cases impossible

theorem ofEndMark {record : DirRecord} (rest : List DirRecord) (ends : record.status = 0) :
    Agrees before (record :: rest) ending [] (.ok (.enough ())) := by
  have none : used (record :: rest) = [] := by
    rw [used, List.takeWhile_cons_of_neg (by simpa using ends)]
  constructor
  · rw [none, List.append_nil]
    rfl
  · intro _
    rfl
  · intro all
    rw [none] at all
    cases all
  · intro all
    rw [none] at all
    cases all

theorem cons {record : DirRecord} {rest : List DirRecord} {handed : List Entry}
    (inUse : record.status ≠ 0)
    (absorbed : (before.absorb record).entries = before.entries ++ handed)
    (agrees : Agrees (before.absorb record) rest ending items result) :
    Agrees before (record :: rest) ending (handed ++ items) result := by
  have head : used (record :: rest) = record :: used rest := by
    rw [used, List.takeWhile_cons_of_pos (by simpa using inUse)]
    rfl
  constructor
  · rw [head, List.foldl_cons, agrees.entries_eq, absorbed, List.append_assoc]
  · intro fewer
    rw [head] at fewer
    exact agrees.stopped (Nat.lt_of_succ_lt_succ fewer)
  · intro all
    rw [head] at all
    exact agrees.failed (List.cons.inj all).2
  · intro all
    rw [head] at all
    exact agrees.goesOn (List.cons.inj all).2

end Agrees

theorem agrees_records (medium : Medium) {before : Gathered} (records : List DirRecord)
    {long : LongName} (holds : long.Holds before.units) :
    Agrees before records (.ok ()) ((Directory.records records long).run.itemsOn medium)
      ((Directory.records records long).run.result medium) := by
  induction records generalizing before long with
  | nil =>
    constructor
    · exact (List.append_nil _).symm
    · intro fewer
      exact absurd fewer (Nat.lt_irrefl 0)
    · intro _ error impossible
      cases impossible
    · intro _ _
      exact ⟨long, rfl, holds⟩
  | cons record rest ih =>
    unfold Directory.records
    have absorbed := before.absorb_of_kind record
    -- Deleted records and labels both forget the long name.
    have cleared (inUse : record.status ≠ 0)
        (forgotten : before.absorb record = ⟨before.entries, []⟩) :
        Agrees before (record :: rest) (.ok ())
          ((Directory.records rest long.clear).run.itemsOn medium)
          ((Directory.records rest long.clear).run.result medium) := by
      refine Agrees.cons inUse ((congrArg _ forgotten).trans (List.append_nil _).symm) ?_
      rw [forgotten]
      exact ih long.holds_clear
    cases kind : RecordKind.ofRecord record with
    | endMark =>
      rw [kind] at absorbed
      exact Agrees.ofEndMark rest absorbed
    | deleted =>
      rw [kind] at absorbed
      exact cleared absorbed.1 absorbed.2
    | label =>
      rw [kind] at absorbed
      exact cleared absorbed.1 absorbed.2
    | fragment fragment =>
      rw [kind] at absorbed
      obtain ⟨inUse, absorbed⟩ := absorbed
      refine Agrees.cons inUse ((congrArg _ absorbed).trans (List.append_nil _).symm) ?_
      rw [absorbed]
      exact ih (holds.prepend fragment.units)
    | entry =>
      rw [kind] at absorbed
      obtain ⟨inUse, absorbed⟩ := absorbed
      have named : Entry.ofRecord record long = before.entry record := by
        rw [Entry.ofRecord, holds.toName?_eq]
        rfl
      simp only [Attempt.itemsOn_bind, Attempt.itemsOn_emit, Attempt.result_bind,
        Attempt.result_emit, named]
      refine Agrees.cons inUse (congrArg _ absorbed) ?_
      rw [absorbed]
      exact ih long.holds_clear

def recordsOn (medium : Medium) (addresses : List UInt32) : List DirRecord × Except Error Unit :=
  let (sectors, ending) := medium.sectors addresses
  (sectors.flatMap Sector.records, ending.mapError .device)

theorem recordsOn_cons_of_error {medium : Medium} {lba : UInt32} {cause : DeviceError}
    (failed : medium lba = .error cause) (rest : List UInt32) :
    recordsOn medium (lba :: rest) = ([], .error (.device cause)) := by
  rw [recordsOn, Medium.sectors, failed]
  rfl

theorem recordsOn_cons_of_ok {medium : Medium} {lba : UInt32} {sector : Sector}
    (answered : medium lba = .ok sector) (rest : List UInt32) :
    recordsOn medium (lba :: rest) =
      (sector.records ++ (recordsOn medium rest).1, (recordsOn medium rest).2) := by
  rw [recordsOn, Medium.sectors, answered]
  rfl

theorem agrees_sectors (medium : Medium) {before : Gathered} (lba : UInt32) (count : Nat)
    {long : LongName} (holds : long.Holds before.units) :
    let read := recordsOn medium ((List.range count).map fun index => lba + .ofNat index)
    Agrees before read.1 read.2 ((Directory.sectors lba count long).run.itemsOn medium)
      ((Directory.sectors lba count long).run.result medium) := by
  induction count generalizing before lba long with
  | zero => exact agrees_records medium [] holds
  | succ count ih =>
    rw [Word.map_add_range_succ, Directory.sectors]
    simp only [Attempt.itemsOn_bind, Attempt.result_bind, Attempt.itemsOn_sector, List.nil_append]
    cases answered : medium lba with
    | error cause =>
      rw [recordsOn_cons_of_error answered, Attempt.result_sector_of_error medium answered]
      exact Agrees.ofError before (.device cause)
    | ok sector =>
      rw [recordsOn_cons_of_ok answered, Attempt.result_sector_of_ok medium answered]
      have first := agrees_records medium sector.records holds
      have both := first.append fun next nextHolds => ih (lba + 1) nextHolds
      dsimp only
      cases read : (Directory.records sector.records long).run.result medium with
      | error error =>
        rw [read] at both
        exact both
      | ok step =>
        rw [read] at both
        cases step <;> exact both

theorem recordsOn_append_of_ok {medium : Medium} {first : List UInt32}
    (answered : (recordsOn medium first).2 = .ok ()) (second : List UInt32) :
    recordsOn medium (first ++ second) =
      ((recordsOn medium first).1 ++ (recordsOn medium second).1,
        (recordsOn medium second).2) := by
  unfold recordsOn at *
  rw [Medium.sectors_append]
  rcases read : medium.sectors first with ⟨sectors, ending⟩
  rw [read] at answered
  cases ending with
  | error cause => cases answered
  | ok => exact congrArg (·, _) List.flatMap_append

theorem recordsOn_append_of_error {medium : Medium} {first : List UInt32} {error : Error}
    (failed : (recordsOn medium first).2 = .error error) (second : List UInt32) :
    recordsOn medium (first ++ second) = recordsOn medium first := by
  unfold recordsOn at *
  rw [Medium.sectors_append]
  rcases read : medium.sectors first with ⟨sectors, ending⟩
  rw [read] at failed
  cases ending with
  | error cause => rfl
  | ok => cases failed

def visitCluster (volume : Volume) (long : LongName) (cluster : UInt32) :
    Attempt Entry (Step LongName Unit) :=
  sectors (volume.clusterStart cluster) volume.sectorsPerCluster.toNat long

section Clusters

variable (volume : Volume) (medium : Medium)

def clusterItems (clusters : List UInt32) (long : LongName) : List Entry :=
  Attempt.visitItems medium (visitCluster volume) clusters long

def clusterResult (ending : Except Error Unit) (clusters : List UInt32) (long : LongName) :
    Except Error (Step LongName Unit) :=
  Attempt.visitList (fun long cluster => (visitCluster volume long cluster).run.result medium)
    clusters ending long

theorem clusterItems_cons (cluster : UInt32) (rest : List UInt32) (long : LongName) :
    clusterItems volume medium (cluster :: rest) long =
      (visitCluster volume long cluster).run.itemsOn medium ++
        itemsBehind (clusterItems volume medium rest)
          ((visitCluster volume long cluster).run.result medium) := by
  rw [clusterItems, Attempt.visitItems]
  cases (visitCluster volume long cluster).run.result medium with
  | error error => rfl
  | ok step => cases step <;> rfl

theorem clusterResult_cons (ending : Except Error Unit) (cluster : UInt32) (rest : List UInt32)
    (long : LongName) :
    clusterResult volume medium ending (cluster :: rest) long =
      endBehind (clusterResult volume medium ending rest)
        ((visitCluster volume long cluster).run.result medium) := by
  rw [clusterResult, Attempt.visitList]
  cases (visitCluster volume long cluster).run.result medium with
  | error error => rfl
  | ok step => cases step <;> rfl

/-- The reader of clusters in a row gathers what is in their records. An error that ends the row
is met behind all of them. -/
theorem agrees_clusters {before : Gathered} (clusters : List UInt32) (ending : Except Error Unit)
    {long : LongName} (holds : long.Holds before.units) :
    Agrees before (recordsOn medium (clusters.flatMap volume.addresses)).1
      ((recordsOn medium (clusters.flatMap volume.addresses)).2.bind fun () => ending)
      (clusterItems volume medium clusters long)
      (clusterResult volume medium ending clusters long) := by
  induction clusters generalizing before long with
  | nil =>
    cases ending with
    | error error => exact Agrees.ofError before error
    | ok => exact agrees_records medium [] holds
  | cons cluster rest ih =>
    have first : Agrees before (recordsOn medium (volume.addresses cluster)).1
        (recordsOn medium (volume.addresses cluster)).2
        ((visitCluster volume long cluster).run.itemsOn medium)
        ((visitCluster volume long cluster).run.result medium) :=
      agrees_sectors medium (volume.clusterStart cluster) volume.sectorsPerCluster.toNat holds
    rw [List.flatMap_cons, clusterItems_cons, clusterResult_cons]
    cases read : (recordsOn medium (volume.addresses cluster)).2 with
    | error error =>
      rw [read] at first
      rw [recordsOn_append_of_error read, read]
      exact first.append_of_stopped
    | ok =>
      rw [read] at first
      rw [recordsOn_append_of_ok read]
      exact first.append fun next nextHolds => ih nextHolds

end Clusters

theorem agrees_entries (volume : Volume) (medium : Medium) (start : UInt32) :
    ∃ result,
      Agrees .empty (recordsOn medium
          (((volume.chain start).run.itemsOn medium).flatMap volume.addresses)).1
        ((recordsOn medium
          (((volume.chain start).run.itemsOn medium).flatMap volume.addresses)).2.bind
            fun () => (volume.chain start).run.result medium)
        ((entries volume start).run.itemsOn medium) result ∧
      (entries volume start).run.result medium = result.map fun _ => () := by
  refine ⟨clusterResult volume medium ((volume.chain start).run.result medium)
    ((volume.chain start).run.itemsOn medium) .empty, ?_, ?_⟩
  · have items : (entries volume start).run.itemsOn medium =
        clusterItems volume medium ((volume.chain start).run.itemsOn medium) .empty := by
      unfold entries
      rw [Attempt.itemsOn_bind, Attempt.itemsOn_visit]
      split <;> exact List.append_nil _
    rw [items]
    exact agrees_clusters volume medium _ _ LongName.holds_empty
  · unfold entries
    rw [Attempt.result_bind, Attempt.result_visit]
    unfold clusterResult visitCluster
    split <;> rename_i ended <;> rw [ended] <;> rfl

theorem cut_cons (record : DirRecord) (rest : List UInt8) :
    cut (record.toList ++ rest) = record :: cut rest := by
  have length : (record.toList ++ rest).length / 32 = rest.length / 32 + 1 := by
    rw [List.length_append, Vector.length_toList]
    omega
  unfold cut
  rw [length, List.range_succ_eq_map, List.map_cons, List.map_map, Nat.zero_mul, List.drop_zero,
    Bytes.ofList_toList_append]
  refine congrArg (record :: ·) (List.map_congr_left fun index _ => ?_)
  have behind : (record.toList ++ rest).drop (index.succ * 32) = rest.drop (index * 32) := by
    have dropped : (record.toList ++ rest).drop (record.toList.length + index * 32) =
      rest.drop (index * 32) := List.drop_length_add_append _
    rwa [Vector.length_toList, Nat.add_comm, ← Nat.succ_mul] at dropped
  exact congrArg (Bytes.ofList 32) behind

theorem cut_append (records : List DirRecord) (rest : List UInt8) :
    cut (records.flatMap (·.toList) ++ rest) = records ++ cut rest := by
  induction records with
  | nil => rfl
  | cons record others ih =>
    rw [List.flatMap_cons, List.append_assoc, cut_cons, ih]
    rfl

theorem toList_eq_records (sector : Sector) :
    sector.toList = sector.records.flatMap (·.toList) := by
  apply List.ext_getElem?
  intro index
  rw [Bytes.getElem?_flatMap_toList (by decide), Vector.getElem?_toList]
  by_cases inside : index < 512
  · have slot : index / 32 < 16 := by omega
    have place : index % 32 < 32 := Nat.mod_lt _ (by decide)
    have located : index / 32 * 32 + index % 32 = index := Nat.div_add_mod' index 32
    rw [Sector.records, List.getElem?_ofFn, dif_pos slot, Option.bind_some,
      Vector.getElem?_eq_getElem inside, Vector.getElem?_eq_getElem place, Bytes.slice,
      Vector.getElem_ofFn]
    simp only [located]
  · have beyond : ¬ index / 32 < 16 := by omega
    rw [Sector.records, List.getElem?_ofFn, dif_neg beyond, Vector.getElem?_eq_none (by omega)]
    rfl

theorem cut_sectors (sectors : List Sector) :
    cut (sectors.flatMap (·.toList)) = sectors.flatMap Sector.records := by
  have bytes : sectors.flatMap (·.toList) =
      (sectors.flatMap Sector.records).flatMap (·.toList) := by
    rw [List.flatMap_assoc]
    exact congrArg (sectors.flatMap ·) (funext toList_eq_records)
  have whole := cut_append (sectors.flatMap Sector.records) []
  rw [List.append_nil] at whole
  rw [bytes, whole]
  exact List.append_nil _

theorem cut_contents (volume : Volume) (medium : Medium) (start : UInt32) :
    let addresses := ((volume.chain start).run.itemsOn medium).flatMap volume.addresses
    cut (contents volume medium start).1 = (recordsOn medium addresses).1 ∧
      (contents volume medium start).2 =
        (recordsOn medium addresses).2.bind fun () => (volume.chain start).run.result medium := by
  intro addresses
  unfold contents recordsOn
  dsimp only
  obtain ⟨sectors, ending⟩ := medium.sectors addresses
  refine ⟨cut_sectors sectors, ?_⟩
  cases ending <;> rfl

/-- The stream of a directory hands out what `batch` gives. -/
theorem entries_eq_batch (volume : Volume) (medium : Medium) (start : UInt32) :
    (entries volume start).run.itemsOn medium = (batch volume medium start).1 ∧
      (entries volume start).run.result medium = (batch volume medium start).2 := by
  obtain ⟨result, agrees, ended⟩ := agrees_entries volume medium start
  obtain ⟨records, ending⟩ := cut_contents volume medium start
  rw [← records, ← ending] at agrees
  refine ⟨agrees.entries_eq.symm, ?_⟩
  rw [ended, batch]
  dsimp only
  rcases used_eq_or_lt (cut (contents volume medium start).1) with all | fewer
  · rw [if_neg (by rw [all]; exact Nat.lt_irrefl _)]
    cases last : (contents volume medium start).2 with
    | error error =>
      rw [agrees.failed all error last]
      rfl
    | ok =>
      obtain ⟨long, answered, -⟩ := agrees.goesOn all last
      rw [answered]
      rfl
  · rw [if_pos fewer, agrees.stopped fewer]
    rfl

theorem Gathered.length_absorb_le (gathered : Gathered) (record : DirRecord) :
    (gathered.absorb record).entries.length ≤ gathered.entries.length + 1 := by
  unfold absorb
  split
  · exact Nat.le_succ _
  · split
    · exact Nat.le_succ _
    · split
      · exact Nat.le_succ _
      · rw [List.length_append]
        exact Nat.le_refl _

theorem Gathered.length_foldl_le (gathered : Gathered) (records : List DirRecord) :
    (records.foldl absorb gathered).entries.length ≤
      gathered.entries.length + records.length := by
  induction records generalizing gathered with
  | nil => exact Nat.le_refl _
  | cons record rest ih =>
    have later := ih (gathered.absorb record)
    have first := gathered.length_absorb_le record
    rw [List.foldl_cons, List.length_cons]
    omega

theorem length_sectors_le (medium : Medium) (addresses : List UInt32) :
    (medium.sectors addresses).1.length ≤ addresses.length := by
  induction addresses with
  | nil => exact Nat.le_refl 0
  | cons lba rest ih =>
    rw [Medium.sectors]
    cases medium lba with
    | error cause => exact Nat.zero_le _
    | ok sector => exact Nat.succ_le_succ ih

theorem length_batch_le (volume : Volume) (medium : Medium) (start : UInt32) :
    (batch volume medium start).1.length ≤
      volume.clusterCount.toNat * volume.sectorsPerCluster.toNat * 16 := by
  obtain ⟨records, -⟩ := cut_contents volume medium start
  have clusters : ((volume.chain start).run.itemsOn medium).length ≤ volume.clusterCount.toNat :=
    Volume.length_itemsOn_chain_le start
  generalize (volume.chain start).run.itemsOn medium = chain at *
  have perSector (sectors : List Sector) :
      (sectors.flatMap Sector.records).length = sectors.length * 16 :=
    length_flatMap_eq_mul (fun sector => List.length_ofFn) sectors
  have perCluster : (chain.flatMap volume.addresses).length =
      chain.length * volume.sectorsPerCluster.toNat := by
    refine length_flatMap_eq_mul (fun cluster => ?_) chain
    rw [Volume.addresses, List.length_map, List.length_range]
  calc
    (batch volume medium start).1.length
        ≤ 0 + (used (cut (contents volume medium start).1)).length :=
      Gathered.length_foldl_le .empty _
    _ ≤ (cut (contents volume medium start).1).length := by
      rw [Nat.zero_add]
      exact (List.takeWhile_sublist _).length_le
    _ = (medium.sectors (chain.flatMap volume.addresses)).1.length * 16 := by
      rw [records]
      exact perSector _
    _ ≤ volume.clusterCount.toNat * volume.sectorsPerCluster.toNat * 16 := by
      refine Nat.mul_le_mul_right 16 (Nat.le_trans (length_sectors_le medium _) ?_)
      rw [perCluster]
      exact Nat.mul_le_mul_right _ clusters

/-- The stream of a directory, however its chain runs and whatever the device answers, hands out
the entries of the directory read in one go, then the error that it met if there is one, and
nothing from then on. The entries are not more than there are records on the volume. -/
theorem stream_eq_batch (volume : Volume) (medium : Medium) (start : UInt32) :
    (∀ count, (entries volume start).run.nth medium count =
      (withEnding (batch volume medium start).1 (batch volume medium start).2)[count]?) ∧
    (batch volume medium start).1.length ≤
      volume.clusterCount.toNat * volume.sectorsPerCluster.toNat * 16 := by
  obtain ⟨items, result⟩ := entries_eq_batch volume medium start
  refine ⟨fun count => ?_, length_batch_le volume medium start⟩
  rw [Scan.nth_eq, items, result]

end Directory

end Fat32
