import Fat32.Proofs.Volume.Lazy

/-!
Directories are read lazily. An entry is handed out as soon as the sector with
its record is read, and an end mark ends the reading there (`lazy_entries`).
Readers of parts in a row are lazy if each of them is (`Lazy.append`).
-/

namespace Fat32.Directory

/-- Whether a record is that of an entry. -/
def isEntry (record : DirRecord) : Bool :=
  match RecordKind.ofRecord record with
  | .entry => true
  | _ => false

/-- The entry of the record at a place is handed out behind the requests up to that record. -/
def HandsOut (records : List DirRecord) (upTo : Nat → List UInt32) (place : Nat)
    (spent : Entry × List UInt32) : Prop :=
  ∃ record long, records[place]? = some record ∧
    spent = (Entry.ofRecord record long, upTo place)

/-- A reader of some records that hands out every entry in use and stops at the end mark, each
behind the requests up to its record. -/
structure Lazy (medium : Medium) (records : List DirRecord) (upTo : Nat → List UInt32)
    (reader : Attempt Entry (Step LongName Unit)) : Prop where
  handed : ∀ before, List.Forall₂ (HandsOut records (before ++ upTo ·))
    ((used records).findIdxs isEntry) (reader.run.spentOn medium before)
  stopped : (used records).length < records.length →
    reader.run.result medium = .ok (.enough ()) ∧
      reader.run.readsOn medium = upTo (used records).length

/-- A reader that goes on behind records without an end mark, after some requests. -/
def GoesOn (medium : Medium) (records : List DirRecord) (requests : List UInt32)
    (reader : Attempt Entry (Step LongName Unit)) : Prop :=
  used records = records → ∃ long, reader.run.result medium = .ok (.more long) ∧
    reader.run.readsOn medium = requests

section HandsOut

variable {first second : List DirRecord} {upTo behind : Nat → List UInt32} {place : Nat}
  {spent : Entry × List UInt32}

theorem HandsOut.lt (handsOut : HandsOut first upTo place spent) : place < first.length := by
  obtain ⟨record, long, found, -⟩ := handsOut
  exact (List.getElem?_eq_some_iff.mp found).1

theorem HandsOut.congr (handsOut : HandsOut first upTo place spent)
    (same : upTo place = behind place) : HandsOut first behind place spent := by
  obtain ⟨record, long, found, rfl⟩ := handsOut
  exact ⟨record, long, found, by rw [same]⟩

theorem HandsOut.append_right (second : List DirRecord) (handsOut : HandsOut first upTo place spent)
    (same : upTo place = behind place) : HandsOut (first ++ second) behind place spent := by
  obtain ⟨record, long, found, rfl⟩ := handsOut.congr same
  exact ⟨record, long, by rwa [List.getElem?_append_left handsOut.lt], rfl⟩

theorem HandsOut.append_left (first : List DirRecord) (handsOut : HandsOut second upTo place spent)
    (same : upTo place = behind (place + first.length)) :
    HandsOut (first ++ second) behind (place + first.length) spent := by
  obtain ⟨record, long, found, rfl⟩ := handsOut
  refine ⟨record, long, ?_, by rw [same]⟩
  rwa [Nat.add_comm, List.getElem?_append_right (Nat.le_add_right _ _), Nat.add_sub_cancel_left]

end HandsOut

namespace Lazy

variable {medium : Medium} {first second : List DirRecord} {upTo behind : Nat → List UInt32}
  {requests : List UInt32} {reader : Attempt Entry (Step LongName Unit)}
  {more : LongName → Attempt Entry (Step LongName Unit)}

theorem congr (lazy : Lazy medium first upTo reader)
    (same : ∀ place < first.length, upTo place = behind place) :
    Lazy medium first behind reader where
  handed before := (lazy.handed before).imp fun place _ handsOut =>
    handsOut.congr (congrArg (before ++ ·) (same place handsOut.lt))
  stopped fewer := by
    rw [← same _ fewer]
    exact lazy.stopped fewer

theorem ofNoRecords (silent : reader.run.itemsOn medium = []) : Lazy medium [] upTo reader where
  handed before := by
    rw [Scan.spentOn_eq_nil medium silent]
    exact .nil
  stopped fewer := absurd fewer (Nat.lt_irrefl 0)

theorem behind_requests {α : Type} {attempt : Attempt Entry α} {value : α}
    (f : α → Attempt Entry (Step LongName Unit)) (silent : attempt.run.itemsOn medium = [])
    (answered : attempt.run.result medium = .ok value)
    (lazy : Lazy medium first upTo (f value)) :
    Lazy medium first (attempt.run.readsOn medium ++ upTo ·) (attempt >>= f) where
  handed before := by
    rw [Attempt.spentOn_bind, Scan.spentOn_eq_nil medium silent, answered, List.nil_append]
    exact (lazy.handed _).imp fun _ _ handsOut => handsOut.congr (List.append_assoc _ _ _)
  stopped fewer := by
    obtain ⟨ended, requests⟩ := lazy.stopped fewer
    rw [Attempt.result_bind, Attempt.readsOn_bind, answered]
    exact ⟨ended, congrArg (_ ++ ·) requests⟩

theorem append (lazy : Lazy medium first upTo reader)
    (goesOn : GoesOn medium first requests reader)
    (rest : ∀ long, Lazy medium second behind (more long)) :
    Lazy medium (first ++ second)
      (fun place => if place < first.length then upTo place
        else requests ++ behind (place - first.length))
      (do
        match ← reader with
        | .more long => more long
        | .enough () => pure (.enough ())) := by
  -- The records of the first part keep their places in the whole.
  have inFirst (before : List UInt32) : List.Forall₂ (HandsOut (first ++ second) fun place =>
      before ++ if place < first.length then upTo place
        else requests ++ behind (place - first.length))
      ((used first).findIdxs isEntry) (reader.run.spentOn medium before) :=
    (lazy.handed before).imp fun place spent handsOut =>
      handsOut.append_right second (by rw [if_pos handsOut.lt])
  rcases used_eq_or_lt first with all | fewer
  · obtain ⟨long, answered, requested⟩ := goesOn all
    have next := rest long
    have joined := used_append_of_eq second all
    constructor
    · intro before
      have shifted : (used second).findIdxs isEntry first.length =
          ((used second).findIdxs isEntry).map (· + first.length) := List.findIdxs_start
      have one := inFirst before
      rw [all] at one
      rw [joined, List.findIdxs_append, Nat.zero_add, shifted, Attempt.spentOn_bind, answered,
        requested]
      refine List.rel_append one (List.forall₂_map_left_iff.mpr ((next.handed _).imp ?_))
      intro place spent handsOut
      refine handsOut.append_left first ?_
      rw [if_neg (by omega), Nat.add_sub_cancel, List.append_assoc]
    · intro fewer
      rw [joined, List.length_append, List.length_append] at fewer
      obtain ⟨ended, requestedBehind⟩ := next.stopped (Nat.lt_of_add_lt_add_left fewer)
      rw [joined, List.length_append, if_neg (by omega), Nat.add_sub_cancel_left,
        Attempt.result_bind, Attempt.readsOn_bind, answered, requested]
      exact ⟨ended, congrArg (requests ++ ·) requestedBehind⟩
  · obtain ⟨ended, requested⟩ := lazy.stopped fewer
    have joined := used_append_of_lt second fewer
    constructor
    · intro before
      rw [joined, Attempt.spentOn_bind, ended]
      dsimp only
      rw [Attempt.spentOn_pure, List.append_nil]
      exact inFirst before
    · intro _
      rw [joined, if_pos fewer, Attempt.result_bind, Attempt.readsOn_bind, ended, requested]
      exact ⟨rfl, List.append_nil _⟩

end Lazy

theorem GoesOn.append {medium : Medium} {first second : List DirRecord}
    {requests further : List UInt32} {reader : Attempt Entry (Step LongName Unit)}
    {more : LongName → Attempt Entry (Step LongName Unit)}
    (goesOn : GoesOn medium first requests reader)
    (rest : ∀ long, GoesOn medium second further (more long)) :
    GoesOn medium (first ++ second) (requests ++ further) (do
      match ← reader with
      | .more long => more long
      | .enough () => pure (.enough ())) := by
  intro all
  rcases used_eq_or_lt first with allFirst | fewer
  · rw [used_append_of_eq second allFirst] at all
    obtain ⟨long, answered, requested⟩ := goesOn allFirst
    obtain ⟨last, ended, requestedBehind⟩ := rest long (List.append_cancel_left all)
    refine ⟨last, ?_, ?_⟩
    · rw [Attempt.result_bind, answered]
      exact ended
    · rw [Attempt.readsOn_bind, answered, requested]
      exact congrArg (requests ++ ·) requestedBehind
  · have lengths := congrArg List.length all
    rw [used_append_of_lt second fewer, List.length_append] at lengths
    omega

theorem GoesOn.behind_requests {medium : Medium} {records : List DirRecord}
    {requests : List UInt32} {α : Type} {attempt : Attempt Entry α} {value : α}
    (f : α → Attempt Entry (Step LongName Unit))
    (answered : attempt.run.result medium = .ok value)
    (goesOn : GoesOn medium records requests (f value)) :
    GoesOn medium records (attempt.run.readsOn medium ++ requests) (attempt >>= f) := by
  intro all
  obtain ⟨long, ended, requested⟩ := goesOn all
  rw [Attempt.result_bind, Attempt.readsOn_bind, answered]
  exact ⟨long, ended, congrArg (_ ++ ·) requested⟩

/-- What a reader does with one record. -/
def visitRecord (record : DirRecord) (long : LongName) : Attempt Entry (Step LongName Unit) :=
  match RecordKind.ofRecord record with
  | .endMark => pure (.enough ())
  | .deleted | .label => pure (.more long.clear)
  | .fragment fragment => pure (.more (long.prepend fragment.units))
  | .entry => do
    Attempt.emit (.ofRecord record long)
    return .more long.clear

theorem records_cons (record : DirRecord) (rest : List DirRecord) (long : LongName) :
    Directory.records (record :: rest) long = (do
      match ← visitRecord record long with
      | .more long => Directory.records rest long
      | .enough () => pure (.enough ())) := by
  rw [Directory.records, visitRecord]
  cases RecordKind.ofRecord record <;> rfl

theorem used_singleton {record : DirRecord} (inUse : record.status ≠ 0) :
    used [record] = [record] := by
  rw [used, List.takeWhile_cons_of_pos (by simpa using inUse)]
  rfl

/-- A record that is not an entry is passed over. -/
theorem lazy_passed {medium : Medium} {record : DirRecord} (inUse : record.status ≠ 0)
    (other : isEntry record = false) (long : LongName) :
    Lazy medium [record] (fun _ => []) (pure (.more long)) ∧
      GoesOn medium [record] [] (pure (.more long)) := by
  refine ⟨⟨fun before => ?_, fun fewer => ?_⟩, fun _ => ⟨long, rfl, rfl⟩⟩
  · rw [used_singleton inUse, List.findIdxs_cons, other]
    exact .nil
  · rw [used_singleton inUse] at fewer
    exact absurd fewer (Nat.lt_irrefl _)

theorem lazy_record (medium : Medium) (record : DirRecord) (long : LongName) :
    Lazy medium [record] (fun _ => []) (visitRecord record long) ∧
      GoesOn medium [record] [] (visitRecord record long) := by
  have status := Gathered.empty.absorb_of_kind record
  cases kind : RecordKind.ofRecord record with
  | endMark =>
    rw [kind] at status
    have none : used [record] = [] := by
      rw [used, List.takeWhile_cons_of_neg (by simpa using status)]
    rw [visitRecord, kind]
    refine ⟨⟨fun before => ?_, fun _ => ⟨rfl, rfl⟩⟩, fun all => ?_⟩
    · rw [none]
      exact .nil
    · rw [none] at all
      cases all
  | deleted =>
    rw [kind] at status
    rw [visitRecord, kind]
    exact lazy_passed status.1 (by rw [isEntry, kind]) _
  | label =>
    rw [kind] at status
    rw [visitRecord, kind]
    exact lazy_passed status.1 (by rw [isEntry, kind]) _
  | fragment fragment =>
    rw [kind] at status
    rw [visitRecord, kind]
    exact lazy_passed status.1 (by rw [isEntry, kind]) _
  | entry =>
    rw [kind] at status
    have entry : isEntry record = true := by rw [isEntry, kind]
    rw [visitRecord, kind]
    refine ⟨⟨fun before => ?_, fun fewer => ?_⟩, fun _ => ⟨long.clear, rfl, rfl⟩⟩
    · rw [used_singleton status.1, List.findIdxs_cons, if_pos entry]
      exact .cons ⟨record, long, rfl, by rw [List.append_nil]⟩ .nil
    · rw [used_singleton status.1] at fewer
      exact absurd fewer (Nat.lt_irrefl _)

theorem lazy_records (medium : Medium) (records : List DirRecord) (long : LongName) :
    Lazy medium records (fun _ => []) (Directory.records records long) ∧
      GoesOn medium records [] (Directory.records records long) := by
  induction records generalizing long with
  | nil => exact ⟨.ofNoRecords rfl, fun _ => ⟨long, rfl, rfl⟩⟩
  | cons record rest ih =>
    obtain ⟨lazy, goesOn⟩ := lazy_record medium record long
    rw [records_cons]
    refine ⟨(lazy.append goesOn fun next => (ih next).1).congr fun place _ => ?_,
      goesOn.append fun next => (ih next).2⟩
    split <;> rfl

theorem recordsOn_of_answers {medium : Medium} {addresses : List UInt32}
    (answers : ∀ lba ∈ addresses, ∃ sector, medium lba = .ok sector) :
    (recordsOn medium addresses).1.length = addresses.length * 16 ∧
      (recordsOn medium addresses).2 = .ok () := by
  induction addresses with
  | nil => exact ⟨rfl, rfl⟩
  | cons lba rest ih =>
    obtain ⟨sector, answered⟩ := answers lba List.mem_cons_self
    obtain ⟨length, ended⟩ := ih fun other later => answers other (List.mem_cons_of_mem _ later)
    have records : sector.records.length = 16 := List.length_ofFn
    rw [recordsOn_cons_of_ok answered, List.length_append, records, length, List.length_cons,
      Nat.succ_mul, Nat.add_comm]
    exact ⟨rfl, ended⟩

/-- A sector is read when the first record in it is wanted. -/
theorem lazy_sectors {medium : Medium} (lba : UInt32) (count : Nat)
    (answers : ∀ index < count, ∃ sector, medium (lba + .ofNat index) = .ok sector)
    (long : LongName) :
    let addresses := (List.range count).map fun index => lba + .ofNat index
    Lazy medium (recordsOn medium addresses).1 (fun place => addresses.take (place / 16 + 1))
        (Directory.sectors lba count long) ∧
      GoesOn medium (recordsOn medium addresses).1 addresses
        (Directory.sectors lba count long) := by
  induction count generalizing lba long with
  | zero => exact ⟨.ofNoRecords rfl, fun _ => ⟨long, rfl, rfl⟩⟩
  | succ count ih =>
    obtain ⟨sector, answered⟩ := answers 0 (Nat.succ_pos count)
    have here : lba + .ofNat 0 = lba := UInt32.add_zero lba
    rw [here] at answered
    have rest (next : LongName) := ih (lba + 1) (fun index below => by
      have later := answers (index + 1) (Nat.succ_lt_succ below)
      rwa [Word.add_ofNat_succ] at later) next
    obtain ⟨lazy, goesOn⟩ := lazy_records medium sector.records long
    have read := Attempt.result_sector_of_ok (ι := Entry) medium answered
    let next (sector : Sector) : Attempt Entry (Step LongName Unit) := do
      match ← Directory.records sector.records long with
      | .more long => Directory.sectors (lba + 1) count long
      | .enough () => pure (.enough ())
    have lazyBehind := lazy.append goesOn fun long => (rest long).1
    have goesOnBehind := goesOn.append fun long => (rest long).2
    have unfolded : Directory.sectors lba (count + 1) long = Attempt.sector lba >>= next := rfl
    intro addresses
    unfold addresses
    rw [Word.map_add_range_succ, recordsOn_cons_of_ok answered, unfolded]
    refine ⟨(Lazy.behind_requests next rfl read lazyBehind).congr fun place _ => ?_,
      GoesOn.behind_requests next read goesOnBehind⟩
    have records : sector.records.length = 16 := List.length_ofFn
    rw [Attempt.readsOn_sector, records]
    split
    · rename_i inFirst
      rw [Nat.div_eq_of_lt inFirst]
      rfl
    · rename_i behind
      have quotient : place / 16 = (place - 16) / 16 + 1 := by omega
      rw [quotient]
      rfl

/-- What a directory reader does behind a link. -/
def visitLinked (volume : Volume) (budget : Nat) (long : LongName) :
    Option UInt32 → Attempt Entry (Step LongName Unit)
  | none => pure (.more long)
  | some next => (volume.chainWithin budget next).visit (visitCluster volume) long

theorem visit_cluster_succ (volume : Volume) (budget : Nat) (cluster : UInt32) (long : LongName) :
    (volume.chainWithin (budget + 1) cluster).visit (visitCluster volume) long = (do
      match ← visitCluster volume long cluster with
      | .more long => volume.successor cluster >>= visitLinked volume budget long
      | .enough () => pure (.enough ())) := by
  refine (Volume.visit_chainWithin_succ _ budget cluster long).trans ?_
  refine congrArg (visitCluster volume long cluster >>= ·) (funext fun step => ?_)
  cases step with
  | enough result => rfl
  | more long =>
    refine congrArg (volume.successor cluster >>= ·) (funext fun link => ?_)
    cases link <;> rfl

section Chains

variable {volume : Volume} {medium : Medium} (wellFormed : volume.WellFormed)
  (faultless : volume.Faultless medium)

include wellFormed faultless

theorem answers_addresses {cluster : UInt32} (valid : volume.isCluster cluster = true) :
    ∀ lba ∈ volume.addresses cluster, ∃ sector, medium lba = .ok sector := by
  intro lba member
  obtain ⟨index, inCluster, rfl⟩ := List.mem_map.mp member
  exact wellFormed.answers_cluster faultless valid index (List.mem_range.mp inCluster)

theorem lazy_cluster {cluster : UInt32} (valid : volume.isCluster cluster = true)
    (long : LongName) :
    Lazy medium (recordsOn medium (volume.addresses cluster)).1
        (fun place => (volume.addresses cluster).take (place / 16 + 1))
        (visitCluster volume long cluster) ∧
      GoesOn medium (recordsOn medium (volume.addresses cluster)).1 (volume.addresses cluster)
        (visitCluster volume long cluster) :=
  lazy_sectors _ _ (wellFormed.answers_cluster faultless valid) long

theorem lazy_visit_succ {budget : Nat} {cluster : UInt32}
    (valid : volume.isCluster cluster = true) {rest : List UInt32}
    (continued : (volume.chainWithin (budget + 1) cluster).run.itemsOn medium = cluster :: rest)
    {upTo : Nat → List UInt32}
    (same : ∀ place, upTo place =
      volume.linkAddress cluster :: volume.requestsTo rest (place / 16))
    (behind : ∀ long, Lazy medium (recordsOn medium (rest.flatMap volume.addresses)).1 upTo
      (volume.successor cluster >>= visitLinked volume budget long)) (long : LongName) :
    let clusters := (volume.chainWithin (budget + 1) cluster).run.itemsOn medium
    Lazy medium (recordsOn medium (clusters.flatMap volume.addresses)).1
      (fun place => volume.requestsTo clusters (place / 16))
      ((volume.chainWithin (budget + 1) cluster).visit (visitCluster volume) long) := by
  intro clusters
  obtain ⟨lazy, goesOn⟩ := lazy_cluster wellFormed faultless valid long
  obtain ⟨length, answered⟩ :=
    recordsOn_of_answers (answers_addresses wellFormed faultless valid)
  rw [volume.length_addresses] at length
  unfold clusters
  rw [continued, List.flatMap_cons, recordsOn_append_of_ok answered, visit_cluster_succ]
  refine (lazy.append goesOn behind).congr fun place _ => ?_
  have sectors : (place - volume.sectorsPerCluster.toNat * 16) / 16 =
      place / 16 - volume.sectorsPerCluster.toNat := by omega
  rw [length, Volume.requestsTo]
  split
  · rw [if_pos (by omega)]
  · rw [if_neg (by omega), same, sectors]

/-- A directory reader follows a link when it wants the first record behind it. -/
theorem lazy_visit (budget : Nat) {cluster : UInt32} (valid : volume.isCluster cluster = true)
    (long : LongName) :
    let clusters := (volume.chainWithin budget cluster).run.itemsOn medium
    Lazy medium (recordsOn medium (clusters.flatMap volume.addresses)).1
      (fun place => volume.requestsTo clusters (place / 16))
      ((volume.chainWithin budget cluster).visit (visitCluster volume) long) := by
  induction budget generalizing cluster long with
  | zero => exact .ofNoRecords rfl
  | succ budget ih =>
    have continued : (volume.chainWithin (budget + 1) cluster).run.itemsOn medium = _ :=
      Volume.itemsOn_chainWithin_succ budget cluster
    have silent : (volume.successor cluster : Attempt Entry _).run.itemsOn medium = [] :=
      Volume.itemsOn_successor volume medium cluster
    have answered : (volume.successor cluster : Attempt Entry _).run.result medium = _ :=
      Volume.result_successor volume medium cluster
    cases linked : volume.linkOn medium cluster with
    | error error =>
      rw [linked] at continued answered
      refine lazy_visit_succ wellFormed faultless valid continued (fun _ => rfl)
        (fun long => .ofNoRecords ?_) long
      rw [Attempt.itemsOn_bind, silent, answered]
      rfl
    | ok link =>
      rw [linked] at continued answered
      cases link with
      | none =>
        refine lazy_visit_succ wellFormed faultless valid continued (fun _ => rfl)
          (fun long => .ofNoRecords ?_) long
        rw [Attempt.itemsOn_bind, silent, answered]
        rfl
      | some next =>
        refine lazy_visit_succ wellFormed faultless valid continued (fun _ => ?_)
          (fun long => .behind_requests (visitLinked volume budget long) silent answered
            (ih (Volume.isCluster_of_linkOn linked) long)) long
        rw [Volume.readsOn_successor]
        rfl

/-- The stream of a directory hands out an entry behind the requests up to its record, and ends
behind those up to the end mark, if there is one. -/
theorem lazy_entries (start : UInt32) :
    let clusters := (volume.chain start).run.itemsOn medium
    let records := cut (contents volume medium start).1
    let upTo (record : Nat) := volume.requestsTo clusters (record / 16)
    List.Forall₂ (HandsOut records upTo) ((used records).findIdxs isEntry)
        ((entries volume start).run.spentOn medium []) ∧
      ((used records).length < records.length →
        (entries volume start).run.result medium = .ok () ∧
          (entries volume start).run.readsOn medium = upTo (used records).length) := by
  intro clusters records upTo
  have reader : Lazy medium records upTo
      ((volume.chain start).visit (visitCluster volume) .empty) := by
    unfold records
    rw [(cut_contents volume medium start).1]
    unfold upTo clusters Volume.chain
    split
    · exact .ofNoRecords rfl
    · split
      · rename_i valid
        exact lazy_visit wellFormed faultless _ valid .empty
      · exact .ofNoRecords rfl
  have unfolded : entries volume start =
      ((volume.chain start).visit (visitCluster volume) .empty >>= fun _ => pure ()) := rfl
  rw [unfolded]
  constructor
  · rw [Attempt.spentOn_bind]
    split
    · rw [Attempt.spentOn_pure, List.append_nil]
      exact reader.handed []
    · rw [List.append_nil]
      exact reader.handed []
  · intro fewer
    obtain ⟨ended, requests⟩ := reader.stopped fewer
    rw [Attempt.result_bind, Attempt.readsOn_bind, ended, requests]
    exact ⟨rfl, List.append_nil _⟩

end Chains

end Fat32.Directory
