import Mathlib.Algebra.Order.Floor.Div
import Fat32.Proofs.Directory.Lazy
import Fat32.Proofs.Handle.Readers

/-!
Reading a file or a directory costs what is needed for the bytes or the entries
that come of it, and nothing behind them is ever read (`walks_are_lazy`).
-/

namespace Fat32

namespace Filesystem

variable {volume : Volume} {medium : Medium}

theorem readsOn_copySectors {lba : UInt32} {count wanted : Nat}
    (answers : ∀ index < count, ∃ sector, medium (lba + .ofNat index) = .ok sector)
    (positive : 0 < wanted) :
    (copySectors lba count wanted).run.readsOn medium =
      ((List.range count).map fun index => lba + .ofNat index).take
        ((wanted - 1) / sectorSize + 1) := by
  induction count generalizing lba wanted with
  | zero => rfl
  | succ count ih =>
    obtain ⟨sector, answered⟩ := answers 0 (Nat.succ_pos count)
    have here : lba + .ofNat 0 = lba := UInt32.add_zero lba
    rw [here] at answered
    rw [copySectors, Word.map_add_range_succ, List.take_succ_cons]
    simp only [Attempt.readsOn_bind, Attempt.readsOn_sector, Attempt.readsOn_emit,
      Attempt.result_emit, Attempt.result_sector_of_ok medium answered, List.nil_append,
      List.singleton_append]
    have size : sectorSize = 512 := rfl
    split
    · have last : (wanted - 1) / sectorSize = 0 := Nat.div_eq_of_lt (by omega)
      rw [last]
      rfl
    · have further : (wanted - 1) / sectorSize = (wanted - sectorSize - 1) / sectorSize + 1 := by
        rw [size] at *
        omega
      rw [further]
      refine congrArg (lba :: ·) (ih (fun index below => ?_) (by omega))
      have next := answers (index + 1) (Nat.succ_lt_succ below)
      rwa [Word.add_ofNat_succ] at next

section Copies

variable (wellFormed : volume.WellFormed) (faultless : volume.Faultless medium)

include wellFormed faultless

theorem readsOn_copyCluster {cluster : UInt32} (valid : volume.isCluster cluster = true)
    {wanted : Nat} (positive : 0 < wanted) :
    (copyCluster volume wanted cluster).run.readsOn medium =
      (volume.addresses cluster).take ((wanted - 1) / sectorSize + 1) :=
  readsOn_copySectors (wellFormed.answers_cluster faultless valid) positive

theorem readsOn_visit (budget : Nat) {cluster : UInt32} (valid : volume.isCluster cluster = true)
    {wanted : Nat} (positive : 0 < wanted)
    (succeeded : ending (((volume.chainWithin budget cluster).visit (copyCluster volume)
      wanted).run.result medium) = .ok ()) :
    let clusters := (volume.chainWithin budget cluster).run.itemsOn medium
    let last := (wanted - 1) / sectorSize
    last < clusters.length * volume.sectorsPerCluster.toNat ∧
      ((volume.chainWithin budget cluster).visit (copyCluster volume) wanted).run.readsOn medium =
        volume.requestsTo clusters last := by
  have size : sectorSize = 512 := rfl
  have clusterBytes := wellFormed.clusterBytes
  induction budget generalizing cluster wanted with
  | zero => cases succeeded
  | succ budget ih =>
    intro clusters last
    have unfolded : clusters = _ := Volume.itemsOn_chainWithin_succ budget cluster
    rw [Volume.visit_chainWithin_succ, Attempt.result_bind,
      result_copyCluster wellFormed faultless valid positive] at succeeded
    rw [Volume.visit_chainWithin_succ, Attempt.readsOn_bind,
      result_copyCluster wellFormed faultless valid positive,
      readsOn_copyCluster wellFormed faultless valid positive, unfolded, List.length_cons,
      Nat.succ_mul, Volume.requestsTo]
    by_cases inFirst : wanted ≤ volume.bytesPerCluster.toNat
    · have lastInFirst : last < volume.sectorsPerCluster.toNat := by
        unfold last
        rw [Nat.div_lt_iff_lt_mul (by decide)]
        omega
      rw [if_pos inFirst, if_pos lastInFirst]
      exact ⟨by omega, List.append_nil _⟩
    · have behind : ¬ last < volume.sectorsPerCluster.toNat := by
        unfold last
        rw [Nat.div_lt_iff_lt_mul (by decide)]
        omega
      have whole : (volume.addresses cluster).take ((wanted - 1) / sectorSize + 1) =
          volume.addresses cluster := by
        refine List.take_of_length_le ?_
        rw [volume.length_addresses]
        omega
      have further : (wanted - volume.bytesPerCluster.toNat - 1) / sectorSize =
          last - volume.sectorsPerCluster.toNat := by
        unfold last
        rw [clusterBytes, size]
        omega
      rw [if_neg inFirst] at succeeded
      dsimp only at succeeded
      rw [Attempt.result_bind, Volume.result_successor] at succeeded
      rw [if_neg inFirst, if_neg behind, whole]
      dsimp only
      rw [Attempt.readsOn_bind, Volume.result_successor, Volume.readsOn_successor]
      cases linked : volume.linkOn medium cluster with
      | error error =>
        rw [linked] at succeeded
        cases succeeded
      | ok link =>
        rw [linked] at succeeded
        cases link with
        | none => cases succeeded
        | some next =>
          have rest := ih (Volume.isCluster_of_linkOn linked)
            (Nat.sub_pos_of_lt (Nat.lt_of_not_le inFirst)) succeeded
          dsimp only at rest
          rw [further] at rest
          obtain ⟨within, reads⟩ := rest
          dsimp only
          exact ⟨by omega, congrArg (_ ++ _ :: ·) reads⟩

end Copies

theorem readsOn_entryContents_eq (medium : Medium) (fs : Filesystem) (entry : Entry) (limit : Nat)
    (positive : 0 < min entry.size.toNat limit) :
    (fs.entryContents entry limit).run.readsOn medium =
      ((fs.volume.chain entry.cluster).visit (copyCluster fs.volume)
        (min entry.size.toNat limit)).run.readsOn medium := by
  rw [entryContents_of_pos fs entry limit positive, Attempt.readsOn_bind]
  cases ((fs.volume.chain entry.cluster).visit (copyCluster fs.volume)
      (min entry.size.toNat limit)).run.result medium with
  | error error => exact List.append_nil _
  | ok step => cases step <;> exact List.append_nil _

/-- A read that comes by some bytes goes along the chain up to the sector of the last one. -/
theorem readsOn_entryContents {fs : Filesystem} (wellFormed : fs.volume.WellFormed)
    (faultless : fs.volume.Faultless medium) {entry : Entry} {limit count : Nat}
    (succeeded : (fs.entryContents entry limit).run.result medium = .ok count)
    (positive : 0 < count) :
    let clusters := (fs.volume.chain entry.cluster).run.itemsOn medium
    let last := (count - 1) / sectorSize
    last < clusters.length * fs.volume.sectorsPerCluster.toNat ∧
      (fs.entryContents entry limit).run.readsOn medium =
        fs.volume.requestsTo clusters last := by
  intro clusters last
  have counted := entryContents_eq_ok medium fs entry limit succeeded
  have wanted : 0 < min entry.size.toNat limit := counted ▸ positive
  let copy := (fs.volume.chain entry.cluster).visit (copyCluster fs.volume) count
  have copied : ending (copy.run.result medium) = .ok () := by
    rw [(entryContents_eq medium fs entry limit wanted).2, ← counted] at succeeded
    cases ended : ending (copy.run.result medium) with
    | error error =>
      rw [ended] at succeeded
      cases succeeded
    | ok => rfl
  have reads := readsOn_entryContents_eq medium fs entry limit wanted
  rw [← counted] at reads
  rw [reads]
  unfold copy Volume.chain at copied
  unfold clusters Volume.chain
  split at copied
  · cases copied
  · rename_i started
    rw [if_neg started]
    split at copied
    · rename_i valid
      rw [if_pos valid]
      exact readsOn_visit wellFormed faultless _ valid positive copied
    · cases copied

theorem readsOn_lookupFile {ι : Type} (fs : Filesystem) (path : String) :
    (fs.lookupFile path : Attempt ι _).run.readsOn medium =
      (fs.lookup path : Attempt ι _).run.readsOn medium := by
  rw [lookupFile, Attempt.readsOn_bind]
  cases (fs.lookup path : Attempt ι _).run.result medium with
  | error error => exact List.append_nil _
  | ok entry =>
    dsimp only
    cases entry.isDirectory <;> exact List.append_nil _

end Filesystem

namespace Volume

variable {volume : Volume} {medium : Medium} (wellFormed : volume.WellFormed)

include wellFormed

theorem counts_requestsTo {clusters : List UInt32}
    (valid : ∀ cluster ∈ clusters, volume.isCluster cluster = true) {sector : Nat}
    (inside : sector < clusters.length * volume.sectorsPerCluster.toNat) :
    volume.Counts (volume.requestsTo clusters sector)
      (sector / volume.sectorsPerCluster.toNat) (sector + 1) := by
  have counts := (wellFormed.costs_requestsTo valid inside).counts wellFormed
  have links : sector / volume.sectorsPerCluster.toNat < clusters.length :=
    (Nat.div_lt_iff_lt_mul wellFormed.perCluster_pos).mpr inside
  have sectors : (clusters.flatMap volume.addresses).length =
      clusters.length * volume.sectorsPerCluster.toNat :=
    length_flatMap_eq_mul volume.length_addresses clusters
  rwa [List.length_map, List.length_take_of_le (Nat.le_of_lt links),
    List.length_take_of_le (by omega)] at counts

theorem counts_take_chain {start : UInt32} {count : Nat} (positive : 0 < count)
    (within : count ≤ ((volume.chain start).run.itemsOn medium).length) :
    volume.Counts (((volume.chain start).run.take count : Scan Empty _).readsOn medium)
      (count - 1) 0 := by
  obtain ⟨place, rfl⟩ : ∃ place, count = place + 1 := ⟨count - 1, by omega⟩
  have spent := spentOn_chain volume medium start place
  dsimp only at spent
  rw [List.getElem?_eq_getElem within, Option.map_some] at spent
  rw [Scan.readsOn_take medium spent, Nat.add_sub_cancel]
  have costs : volume.Costs
      ((((volume.chain start).run.itemsOn medium).take place).map volume.linkAddress)
      ((((volume.chain start).run.itemsOn medium).take place).map volume.linkAddress) [] := by
    refine .ofLinks fun lba member => ?_
    obtain ⟨cluster, among, rfl⟩ := List.mem_map.mp member
    exact wellFormed.linkAddress_inTable
      (Volume.isCluster_of_mem_chain cluster (List.mem_of_mem_take among))
  have counts := costs.counts wellFormed
  rwa [List.length_map, List.length_take_of_le (Nat.le_of_succ_le within)] at counts

end Volume

section Directories

variable {volume : Volume} {medium : Medium} (wellFormed : volume.WellFormed)
  (faultless : volume.Faultless medium) (start : UInt32)

include wellFormed faultless

theorem Directory.length_cut_contents :
    (cut (contents volume medium start).1).length =
      ((volume.chain start).run.itemsOn medium).length * volume.sectorsPerCluster.toNat * 16 := by
  have answers : ∀ lba ∈ ((volume.chain start).run.itemsOn medium).flatMap volume.addresses,
      ∃ sector, medium lba = .ok sector := by
    intro lba member
    obtain ⟨cluster, handed, inCluster⟩ := List.mem_flatMap.mp member
    exact answers_addresses wellFormed faultless
      (Volume.isCluster_of_mem_chain cluster handed) lba inCluster
  rw [(cut_contents volume medium start).1, (recordsOn_of_answers answers).1,
    length_flatMap_eq_mul volume.length_addresses]

/-- The entries come from the records of entries in use, in order, and each is taken at the price
of its record. -/
theorem Directory.readsOn_take_entries {count : Nat} {entry : Entry}
    (handed : ((entries volume start).run.itemsOn medium)[count]? = some entry) :
    let records := cut (contents volume medium start).1
    ∃ record stored long,
      ((used records).findIdxs isEntry)[count]? = some record ∧
      records[record]? = some stored ∧ entry = .ofRecord stored long ∧
      ((entries volume start).run.take (count + 1) : Scan Empty _).readsOn medium =
        volume.requestsTo ((volume.chain start).run.itemsOn medium) (record / 16) := by
  intro records
  obtain ⟨lazy, -⟩ := lazy_entries wellFormed faultless start
  rw [← Scan.map_fst_spentOn medium _ [], List.getElem?_map, Option.map_eq_some_iff] at handed
  obtain ⟨⟨_, spent⟩, found, rfl⟩ := handed
  obtain ⟨inSpent, here⟩ := List.getElem?_eq_some_iff.mp found
  have inPlaces := lazy.length_eq ▸ inSpent
  obtain ⟨stored, long, placed, same⟩ := lazy.get inPlaces inSpent
  rw [List.get_eq_getElem, here] at same
  cases same
  exact ⟨_, stored, long, List.getElem?_eq_getElem inPlaces, placed, rfl,
    Scan.readsOn_take medium found⟩

end Directories

theorem Filesystem.counts_fileContents {medium : Medium} {fs : Filesystem}
    (wellFormed : fs.volume.WellFormed) (faultless : fs.volume.Faultless medium) {path : String}
    {limit count : Nat} (succeeded : (fs.fileContents path limit).run.result medium = .ok count)
    (positive : 0 < count) :
    ∃ reads,
      (fs.fileContents path limit).run.readsOn medium =
        (fs.lookup path : Attempt (List UInt8) _).run.readsOn medium ++ reads ∧
      fs.volume.Counts reads (count ⌈/⌉ fs.volume.bytesPerCluster.toNat - 1)
        (count ⌈/⌉ sectorSize) := by
  unfold fileContents at succeeded ⊢
  rw [Attempt.result_bind] at succeeded
  rw [Attempt.readsOn_bind, readsOn_lookupFile]
  cases found : (fs.lookupFile path : Attempt (List UInt8) _).run.result medium with
  | error error =>
    rw [found] at succeeded
    cases succeeded
  | ok entry =>
    rw [found] at succeeded
    obtain ⟨inside, reads⟩ := readsOn_entryContents wellFormed faultless succeeded positive
    have counts := Volume.counts_requestsTo wellFormed Volume.isCluster_of_mem_chain inside
    have sectors : count ⌈/⌉ sectorSize = (count - 1) / sectorSize + 1 := by
      have last : count + sectorSize - 1 = count - 1 + sectorSize := by omega
      rw [Nat.ceilDiv_eq_add_pred_div, last, Nat.add_div_right _ (by decide)]
    have links : count ⌈/⌉ fs.volume.bytesPerCluster.toNat - 1 =
        (count - 1) / sectorSize / fs.volume.sectorsPerCluster.toNat := by
      have perCluster := wellFormed.bytesPerCluster_pos
      have last : count + fs.volume.bytesPerCluster.toNat - 1 =
        count - 1 + fs.volume.bytesPerCluster.toNat := by omega
      rw [Nat.ceilDiv_eq_add_pred_div, last, Nat.add_div_right _ perCluster, Nat.add_sub_cancel,
        Nat.div_div_eq_div_mul, wellFormed.clusterBytes, Nat.mul_comm]
    refine ⟨_, rfl, ?_⟩
    dsimp only
    rw [reads, sectors, links]
    exact counts

/-- On a device that answers, walks are lazy. A directory has handed out an entry behind the sectors
up to the one with its record, and has ended behind those up to the one with the end mark, if there
is one; between them it has read the links of the clusters that it has left. A chain has read a link
for every cluster but the first. A file that is read through its path costs the sectors up to that
of the last byte and the links in front of its cluster, behind the requests of the lookup. -/
theorem walks_are_lazy {medium : Medium} {fs : Filesystem} {ledger : Ledger}
    (reachable : Reachable medium fs ledger) (faultless : fs.volume.Faultless medium) :
    let volume := fs.volume
    let clusters (start : UInt32) := (volume.chain start).run.itemsOn medium
    let perCluster := volume.sectorsPerCluster.toNat
    (∀ start,
      let walk := (fs.directory start).run
      let records := Directory.cut (Directory.contents volume medium start).1
      let inUse := Directory.used records
      let ReadsTo (record : Nat) (reads : List UInt32) :=
        volume.Costs reads
          (((clusters start).take (record / (16 * perCluster))).map volume.linkAddress)
          (((clusters start).flatMap volume.addresses).take (record / 16 + 1)) ∧
        volume.Counts reads (record / (16 * perCluster)) (record / 16 + 1)
      (∀ count entry, (walk.itemsOn medium)[count]? = some entry →
        ∃ record stored long,
          (inUse.findIdxs Directory.isEntry)[count]? = some record ∧
          records[record]? = some stored ∧ entry = .ofRecord stored long ∧
          ReadsTo record ((walk.take (count + 1) : Scan Empty _).readsOn medium)) ∧
      (inUse.length < records.length →
        walk.result medium = .ok () ∧ ReadsTo inUse.length (walk.readsOn medium))) ∧
    (∀ start count, 0 < count → count ≤ (clusters start).length →
      volume.Counts (((volume.chain start).run.take count : Scan Empty _).readsOn medium)
        (count - 1) 0) ∧
    ∀ path buffer count, 0 < count →
      let reading : Scan Empty _ := Scan.fill buffer (fs.fileContents path buffer.length).run
      (reading.result medium).2 = .ok count →
      ∃ reads,
        reading.readsOn medium =
          (fs.lookup path : Attempt (List UInt8) _).run.readsOn medium ++ reads ∧
        volume.Counts reads (count ⌈/⌉ volume.bytesPerCluster.toNat - 1) (count ⌈/⌉ sectorSize) := by
  intro volume clusters perCluster
  have wellFormed : volume.WellFormed := reachable.kept.wellFormed
  refine ⟨fun start => ?_, fun start count => Volume.counts_take_chain wellFormed, ?_⟩
  · intro walk records inUse ReadsTo
    have valid : ∀ cluster ∈ clusters start, volume.isCluster cluster = true :=
      Volume.isCluster_of_mem_chain
    have readsTo : ∀ record < records.length,
        ReadsTo record (volume.requestsTo (clusters start) (record / 16)) := by
      intro record inside
      have length : records.length = (clusters start).length * perCluster * 16 :=
        Directory.length_cut_contents wellFormed faultless start
      have sector : record / 16 < (clusters start).length * perCluster := by omega
      have costs := wellFormed.costs_requestsTo valid sector
      have counts := Volume.counts_requestsTo wellFormed valid sector
      rw [Nat.div_div_eq_div_mul] at costs counts
      exact ⟨costs, counts⟩
    constructor
    · intro count entry handed
      obtain ⟨record, stored, long, place, found, same, reads⟩ :=
        Directory.readsOn_take_entries wellFormed faultless start handed
      refine ⟨record, stored, long, place, found, same, ?_⟩
      have inside := (List.getElem?_eq_some_iff.mp found).1
      exact reads ▸ readsTo record inside
    · intro fewer
      obtain ⟨ended, reads⟩ := (Directory.lazy_entries wellFormed faultless start).2 fewer
      exact ⟨ended, reads ▸ readsTo _ fewer⟩
  · intro path buffer count positive reading succeeded
    unfold reading at succeeded ⊢
    rw [Scan.result_fill] at succeeded
    rw [Scan.readsOn_fill]
    exact Filesystem.counts_fileContents wellFormed faultless succeeded positive

/-- The root directory of the small volume is one sector with the file in its first record and the
end mark in the second. The file is read as a whole, both sectors and the link between them. -/
theorem walks_are_lazy_small :
    let medium := Volume.answeringMedium
    let fs : Filesystem := ⟨.small, ⟨2, "/", []⟩, .empty⟩
    let walk := (fs.directory 2).run
    let records := Directory.cut (Directory.contents fs.volume medium 2).1
    let buffer : List UInt8 := .replicate 600 0
    let reading : Scan Empty _ := Scan.fill buffer (fs.fileContents "a.txt" buffer.length).run
    ∃ ledger,
      Reachable medium fs ledger ∧
      fs.volume.Faultless medium ∧
      (walk.itemsOn medium)[0]? = some { Entry.looped with size := 600 } ∧
      (Directory.used records).length < records.length ∧
      2 ≤ ((fs.volume.chain 3).run.itemsOn medium).length ∧
      (reading.result medium).2 = .ok 600 ∧
      fs.volume.Counts ((walk.take 1 : Scan Empty _).readsOn medium) 0 1 ∧
      walk.result medium = .ok () ∧
      fs.volume.Counts (walk.readsOn medium) 0 1 ∧
      fs.volume.Counts (((fs.volume.chain 3).run.take 2 : Scan Empty _).readsOn medium) 1 0 ∧
      ∃ reads,
        reading.readsOn medium =
          (fs.lookup "a.txt" : Attempt (List UInt8) _).run.readsOn medium ++ reads ∧
        fs.volume.Counts reads 1 2 := by
  intro medium fs walk records buffer reading
  have reachable : Reachable medium fs .empty :=
    .small rfl rfl (by decide)
  have faultless : fs.volume.Faultless medium := by
    intro lba _
    unfold medium Volume.answeringMedium
    split <;> exact ⟨_, rfl⟩
  have listed : (walk.itemsOn medium)[0]? = some { Entry.looped with size := 600 } := by
    decide +kernel
  have laidOut : (Directory.used records).findIdxs Directory.isEntry = [0] ∧
      (Directory.used records).length = 1 ∧ 1 < records.length := by
    unfold records
    rw [(Directory.cut_contents fs.volume medium 2).1]
    decide +kernel
  obtain ⟨places, inUse, more⟩ := laidOut
  have fewer : (Directory.used records).length < records.length := by rwa [inUse]
  have linked : 2 ≤ ((fs.volume.chain 3).run.itemsOn medium).length := by decide +kernel
  have copied : (reading.result medium).2 = .ok 600 := eq_ok_of_toOption (by decide +kernel)
  obtain ⟨directories, chains, files⟩ := walks_are_lazy reachable faultless
  obtain ⟨entries, ends⟩ := directories 2
  obtain ⟨record, stored, long, placed, -, -, -, counts⟩ := entries 0 _ listed
  obtain ⟨ended, -, endCounts⟩ := ends fewer
  change ((Directory.used records).findIdxs Directory.isEntry)[0]? = some record at placed
  rw [places] at placed
  cases placed
  have perCluster : fs.volume.sectorsPerCluster.toNat = 1 := rfl
  have bytes : fs.volume.bytesPerCluster.toNat = 512 := rfl
  have links : 600 ⌈/⌉ 512 - 1 = 1 := rfl
  have sectors : 600 ⌈/⌉ sectorSize = 2 := rfl
  have file := files "a.txt" buffer 600 (by decide) copied
  rw [bytes, links, sectors] at file
  rw [perCluster] at counts
  rw [perCluster, inUse] at endCounts
  exact ⟨_, reachable, faultless, listed, fewer, linked, copied, counts, ended, endCounts,
    chains 3 2 (by decide) linked, file⟩

end Fat32
