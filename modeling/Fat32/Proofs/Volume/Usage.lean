import Mathlib.Algebra.GroupWithZero.Nat
import Mathlib.Order.Interval.Finset.Nat
import Fat32.Filesystem.Usage
import Fat32.Proofs.Volume.Chained

/-!
Free clusters, counted over whole sectors of the table and cluster by cluster.
In front of every sector the scan has counted the free clusters among the
numbers before it (`countOn_onward`). No chain contains a free cluster, since
zero is neither a link nor the mark of an end, so disjoint chains share out the
clusters in use (`WellFormed.sum_length_le`).
-/

namespace Fat32.Volume

section Tables

variable (volume : Volume) (medium : Medium)

def numbers : Finset Nat := Finset.Icc 2 volume.maxCluster.toNat

/-- The clusters whose entry is read as zero. -/
def freeOn : Finset Nat :=
  {number ∈ volume.numbers | volume.entryOn medium (.ofNat number) = some 0}

def takenOn : Finset Nat :=
  {number ∈ volume.numbers | ¬ volume.entryOn medium (.ofNat number) = some 0}

/-- The free clusters with an entry in the first `count` sectors of the table. -/
def freeBefore (count : Nat) : Nat :=
  (List.range (count * 128)).countP (· ∈ volume.freeOn medium)

def tableAddress (index : Nat) : UInt32 := volume.fatStart + .ofNat index

/-- The scan in front of the table's sector number `index`, with `more` sectors to go. -/
def countOn (index more : Nat) : Scan Empty (Except Error Nat) :=
  (volume.countFree index more (volume.freeBefore medium index)).run

end Tables

variable {ι : Type} {volume : Volume} {medium : Medium}

theorem result_tableEntry_eq_ok_iff {cluster entry : UInt32} :
    (volume.tableEntry cluster : Attempt ι _).run.result medium = .ok entry ↔
      volume.entryOn medium cluster = some entry := by
  unfold tableEntry entryOn
  rw [Attempt.result_bind, Attempt.result_sector]
  cases medium (volume.fatStart + cluster / entriesPerFatSector) with
  | error cause => simp [Except.mapError, Except.toOption]
  | ok sector => simp [Except.mapError, Except.toOption]

theorem freeBefore_all :
    volume.freeBefore medium (volume.maxCluster.toNat / 128 + 1) = (volume.freeOn medium).card := by
  have scanned : volume.freeOn medium ⊆
      Finset.range ((volume.maxCluster.toNat / 128 + 1) * 128) := by
    intro number free
    have numbered := (Finset.mem_Icc.mp (Finset.mem_filter.mp free).1).2
    rw [Finset.mem_range]
    omega
  rw [freeBefore, ← Multiset.coe_countP, Multiset.countP_eq_card_filter]
  change (Finset.filter (· ∈ volume.freeOn medium) (Finset.range _)).card = _
  rw [Finset.filter_mem_eq_inter, Finset.inter_eq_right.mpr scanned]

theorem card_freeOn_add_card_takenOn :
    (volume.freeOn medium).card + (volume.takenOn medium).card = volume.numbers.card :=
  Finset.card_filter_add_card_filter_not _

theorem countOn_succ (index more : Nat) :
    volume.countOn medium index (more + 1) =
      (Attempt.sector (volume.tableAddress index) >>= fun sector =>
        volume.countFree (index + 1) more
          (volume.freeBefore medium index + volume.freeIn index sector)).run := rfl

theorem countOn_of_error {index : Nat} {cause : DeviceError} (more : Nat)
    (failed : medium (volume.tableAddress index) = .error cause) :
    (volume.countOn medium index (more + 1)).result medium = .error (.device cause) ∧
      (volume.countOn medium index (more + 1)).readsOn medium = [volume.tableAddress index] := by
  rw [countOn_succ, Attempt.result_bind, Attempt.readsOn_bind,
    Attempt.result_sector_of_error medium failed]
  exact ⟨rfl, rfl⟩

theorem countOn_zero (more : Nat) :
    volume.countOn medium 0 more = (volume.countFree 0 more 0).run := by
  have none : volume.freeBefore medium 0 = 0 := by rw [freeBefore, Nat.zero_mul]; rfl
  rw [countOn, none]

theorem result_usage : (volume.usage : Attempt Empty Usage).run.result medium =
    ((volume.countOn medium 0 (volume.maxCluster.toNat / 128 + 1)).result medium).map fun free =>
      { totalClusters := volume.clusterCount.toNat
        freeClusters := free
        bytesPerCluster := volume.bytesPerCluster.toNat } := by
  rw [usage, Attempt.result_bind, countOn_zero]
  cases (volume.countFree 0 (volume.maxCluster.toNat / 128 + 1) 0).run.result medium <;> rfl

theorem readsOn_usage : (volume.usage : Attempt Empty Usage).run.readsOn medium =
    (volume.countOn medium 0 (volume.maxCluster.toNat / 128 + 1)).readsOn medium := by
  rw [usage, Attempt.readsOn_bind, countOn_zero]
  cases (volume.countFree 0 (volume.maxCluster.toNat / 128 + 1) 0).run.result medium <;>
    exact List.append_nil _

namespace WellFormed

variable (wellFormed : volume.WellFormed)

include wellFormed

theorem entryOn_scanned {index slot : Nat} {sector : Sector}
    (used : index ≤ volume.maxCluster.toNat / 128)
    (answered : medium (volume.tableAddress index) = .ok sector) (inSector : slot < 128) :
    volume.entryOn medium (.ofNat (index * 128 + slot)) =
      some (entryIn sector (.ofNat (index * 128 + slot))) := by
  have number := wellFormed.toNat_scanned used inSector
  have quotient : (index * 128 + slot) / 128 = index := by omega
  have address : volume.fatStart + UInt32.ofNat index = volume.tableAddress index := rfl
  unfold entryOn
  rw [div_entriesPerFatSector, number, quotient, address, answered]
  rfl

theorem freeBefore_succ {index : Nat} {sector : Sector}
    (used : index ≤ volume.maxCluster.toNat / 128)
    (answered : medium (volume.tableAddress index) = .ok sector) :
    volume.freeBefore medium (index + 1) =
      volume.freeBefore medium index + volume.freeIn index sector := by
  have inSector : (List.range 128).countP
      ((fun number => decide (number ∈ volume.freeOn medium)) ∘ (index * 128 + ·)) =
        volume.freeIn index sector := by
    apply List.countP_congr
    intro slot member
    have inSector := List.mem_range.mp member
    have entry := wellFormed.entryOn_scanned used answered inSector
    have number := wellFormed.toNat_scanned used inSector
    rw [Function.comp_apply, decide_eq_true_eq, Bool.and_eq_true, wellFormed.isCluster_iff, number,
      ← wellFormed.toNat_maxCluster, beq_iff_eq, freeOn, numbers, Finset.mem_filter,
      Finset.mem_Icc, entry, Option.some.injEq]
  rw [freeBefore, freeBefore, Nat.succ_mul, List.range_add, List.countP_append, List.countP_map,
    inSector]

theorem countOn_step {index : Nat} {sector : Sector} (more : Nat)
    (used : index ≤ volume.maxCluster.toNat / 128)
    (answered : medium (volume.tableAddress index) = .ok sector) :
    (volume.countOn medium index (more + 1)).result medium =
        (volume.countOn medium (index + 1) more).result medium ∧
      (volume.countOn medium index (more + 1)).readsOn medium =
        volume.tableAddress index :: (volume.countOn medium (index + 1) more).readsOn medium := by
  rw [countOn_succ, Attempt.result_bind, Attempt.readsOn_bind,
    Attempt.result_sector_of_ok medium answered]
  dsimp only
  rw [← wellFormed.freeBefore_succ used answered]
  exact ⟨rfl, rfl⟩

theorem countOn_onward {before : Nat} (more : Nat)
    (used : before ≤ volume.maxCluster.toNat / 128 + 1)
    (readable : ∀ earlier < before, ∃ sector, medium (volume.tableAddress earlier) = .ok sector) :
    (volume.countOn medium 0 (before + more)).result medium =
        (volume.countOn medium before more).result medium ∧
      (volume.countOn medium 0 (before + more)).readsOn medium =
        (List.range before).map volume.tableAddress ++
          (volume.countOn medium before more).readsOn medium := by
  induction before generalizing more with
  | zero =>
    rw [Nat.zero_add]
    exact ⟨rfl, rfl⟩
  | succ before ih =>
    obtain ⟨result, reads⟩ := ih (more + 1) (by omega) fun earlier inside =>
      readable earlier (by omega)
    obtain ⟨sector, answered⟩ := readable before (Nat.lt_succ_self _)
    obtain ⟨nextResult, nextReads⟩ := wellFormed.countOn_step more (by omega) answered
    rw [Nat.add_right_comm, Nat.add_assoc]
    refine ⟨result.trans nextResult, ?_⟩
    rw [reads, nextReads, List.range_succ, List.map_append, List.append_assoc]
    rfl

theorem usage_of_error {index : Nat} {cause : DeviceError}
    (inside : index ≤ volume.maxCluster.toNat / 128)
    (earlier : ∀ earlier < index, ∃ sector, medium (volume.tableAddress earlier) = .ok sector)
    (failed : medium (volume.tableAddress index) = .error cause) :
    (volume.usage : Attempt Empty Usage).run.result medium = .error (.device cause) ∧
      (volume.usage : Attempt Empty Usage).run.readsOn medium =
        (List.range (index + 1)).map volume.tableAddress := by
  obtain ⟨more, total⟩ : ∃ more, volume.maxCluster.toNat / 128 + 1 = index + (more + 1) :=
    ⟨volume.maxCluster.toNat / 128 - index, by omega⟩
  obtain ⟨result, reads⟩ := wellFormed.countOn_onward (more + 1) (by omega) earlier
  obtain ⟨stopped, last⟩ := countOn_of_error more failed
  rw [result_usage, readsOn_usage, total, result, stopped, reads, last, List.range_succ,
    List.map_append]
  exact ⟨rfl, rfl⟩

theorem usage_of_readable
    (readable : ∀ index < volume.maxCluster.toNat / 128 + 1, ∃ sector,
      medium (volume.tableAddress index) = .ok sector) :
    (volume.usage : Attempt Empty Usage).run.result medium = .ok {
        totalClusters := volume.clusterCount.toNat
        freeClusters := (volume.freeOn medium).card
        bytesPerCluster := volume.bytesPerCluster.toNat } ∧
      (volume.usage : Attempt Empty Usage).run.readsOn medium =
        (List.range (volume.maxCluster.toNat / 128 + 1)).map volume.tableAddress := by
  obtain ⟨result, reads⟩ := wellFormed.countOn_onward 0 (Nat.le_refl _) readable
  rw [result_usage, readsOn_usage, ← Nat.add_zero (_ + 1), result, reads, countOn, freeBefore_all]
  exact ⟨rfl, List.append_nil _⟩

theorem card_numbers : volume.numbers.card = volume.clusterCount.toNat := by
  rw [numbers, Nat.card_Icc, wellFormed.toNat_maxCluster]
  rfl

theorem exists_entryOn {number : Nat} (numbered : number ≤ volume.maxCluster.toNat)
    (readable : ∀ index ≤ volume.maxCluster.toNat / 128, ∃ sector,
      medium (volume.tableAddress index) = .ok sector) :
    ∃ entry, volume.entryOn medium (.ofNat number) = some entry := by
  have used : number / 128 ≤ volume.maxCluster.toNat / 128 := Nat.div_le_div_right numbered
  obtain ⟨sector, answered⟩ := readable _ used
  have entry := wellFormed.entryOn_scanned used answered (Nat.mod_lt number (by decide))
  rw [Nat.div_add_mod'] at entry
  exact ⟨_, entry⟩

end WellFormed

/-- A link leads to a cluster, whose number is not zero, and nor is the mark of an end. -/
theorem Chained.entryOn_ne_zero {start : UInt32} {clusters : List UInt32}
    (chained : volume.Chained medium start clusters) :
    ∀ cluster ∈ clusters, ¬ volume.entryOn medium cluster = some 0 := by
  induction chained with
  | last valid ends =>
    obtain ⟨entry, found, marked⟩ := ends
    intro cluster member empty
    obtain rfl := List.mem_singleton.mp member
    rw [found] at empty
    cases empty
    exact absurd marked (by decide)
  | link valid links chained ih =>
    intro cluster member empty
    rcases List.mem_cons.mp member with rfl | later
    · obtain ⟨found, -, next⟩ := links
      rw [found] at empty
      cases empty
      exact absurd (toNat_bounds_of_isCluster next).1 (by decide)
    · exact ih cluster later empty

theorem WellFormed.mem_takenOn (wellFormed : volume.WellFormed) {start : UInt32}
    (ended : (volume.chain start).run.result medium = .ok ()) :
    ∀ cluster ∈ (volume.chain start).run.itemsOn medium,
      cluster.toNat ∈ volume.takenOn medium := by
  intro cluster member
  rcases result_chain_eq_ok_iff.mp ended with rfl | ⟨clusters, chained⟩
  · cases member
  · rw [chained.itemsOn_chain] at member
    have bounds := wellFormed.isCluster_iff.mp (chained.isCluster cluster member)
    rw [takenOn, Finset.mem_filter, numbers, Finset.mem_Icc, UInt32.ofNat_toNat,
      wellFormed.toNat_maxCluster]
    exact ⟨bounds, chained.entryOn_ne_zero cluster member⟩

/-- Walks that end and have no cluster in common share out the clusters that are taken. -/
theorem WellFormed.sum_length_le (wellFormed : volume.WellFormed) {starts : List UInt32}
    (ended : ∀ start ∈ starts, (volume.chain start).run.result medium = .ok ())
    (apart : (starts.map fun start => (volume.chain start).run.itemsOn medium).Pairwise
      List.Disjoint) :
    (starts.map fun start => ((volume.chain start).run.itemsOn medium).length).sum ≤
      (volume.takenOn medium).card := by
  have nodup : (starts.flatMap fun start => (volume.chain start).run.itemsOn medium).Nodup := by
    rw [List.flatMap_def, List.nodup_flatten]
    refine ⟨fun clusters member => ?_, apart⟩
    obtain ⟨start, listed, rfl⟩ := List.mem_map.mp member
    exact nodup_itemsOn_chain (ended start listed)
  have numbersApart := nodup.map fun _ _ => UInt32.toNat_inj.mp
  have taken : ((starts.flatMap fun start =>
      (volume.chain start).run.itemsOn medium).map UInt32.toNat).toFinset ⊆
        volume.takenOn medium := by
    intro number member
    obtain ⟨cluster, walked, rfl⟩ := List.mem_map.mp (List.mem_toFinset.mp member)
    obtain ⟨start, listed, handedOut⟩ := List.mem_flatMap.mp walked
    exact wellFormed.mem_takenOn (ended start listed) cluster handedOut
  have counted := Finset.card_le_card taken
  rwa [List.toFinset_card_of_nodup numbersApart, List.length_map, List.length_flatMap] at counted

/-- The scan of a volume reads the sectors of its first table that have entries of clusters, one
after another, and counts the clusters that an entry of zero is read for one by one. The others are
in use, among them all clusters of walks that end. The first sector that fails ends the scan. -/
theorem usage_agrees_with_table {start : UInt32} {sector : Sector} {volume : Volume}
    (accepted : (ofBootSector start sector : Attempt Empty Volume) = pure volume)
    (medium : Medium) :
    let scan := (volume.usage : Attempt Empty Usage).run
    let count := volume.maxCluster.toNat / 128 + 1
    let address (index : Nat) := volume.fatStart + .ofNat index
    let readable (index : Nat) := ∃ sector, medium (address index) = .ok sector
    let walk (start : UInt32) := (volume.chain start).run
    let numbers := Finset.Icc 2 volume.maxCluster.toNat
    let entry (number : Nat) :=
      (volume.tableEntry (.ofNat number) : Attempt Empty UInt32).run.result medium
    let free := {number ∈ numbers | entry number = .ok 0}
    let taken := {number ∈ numbers | entry number ≠ .ok 0}
    let usage : Usage := {
      totalClusters := volume.clusterCount.toNat
      freeClusters := free.card
      bytesPerCluster := volume.bytesPerCluster.toNat }
    count ≤ volume.header.sectorsPerFat.toNat ∧
    (∀ index < count, (address index).toNat = volume.fatStart.toNat + index) ∧
    (∀ index < count, ∀ cause, (∀ earlier < index, readable earlier) →
      medium (address index) = .error cause →
        scan.result medium = .error (.device cause) ∧
          scan.readsOn medium = (List.range (index + 1)).map address) ∧
    ((∀ index < count, readable index) →
      scan.result medium = .ok usage ∧ scan.readsOn medium = (List.range count).map address ∧
        (∀ number ∈ numbers, ∃ value, entry number = .ok value) ∧
        usage.freeClusters ≤ usage.totalClusters ∧ usage.usedClusters = taken.card ∧
        usage.usedClusters + usage.freeClusters = usage.totalClusters ∧
        (∀ start, (walk start).result medium = .ok () →
          ∀ cluster ∈ (walk start).itemsOn medium, cluster.toNat ∈ taken) ∧
        ∀ starts : List UInt32, (∀ start ∈ starts, (walk start).result medium = .ok ()) →
          (starts.map fun start => (walk start).itemsOn medium).Pairwise List.Disjoint →
            (starts.map fun start => ((walk start).itemsOn medium).length).sum ≤
              usage.usedClusters) := by
  intro scan count address readable walk numbers entry free taken usage
  have wellFormed := ofHeader_wellFormed (ofBootSector_eq_pure_iff.mp accepted)
  have freeEq : free = volume.freeOn medium :=
    Finset.filter_congr fun number _ => result_tableEntry_eq_ok_iff
  have takenEq : taken = volume.takenOn medium :=
    Finset.filter_congr fun number _ => not_congr result_tableEntry_eq_ok_iff
  have split : free.card + taken.card = volume.clusterCount.toNat := by
    rw [freeEq, takenEq, card_freeOn_add_card_takenOn, wellFormed.card_numbers]
  have used : usage.usedClusters = taken.card := by
    change volume.clusterCount.toNat - free.card = taken.card
    omega
  have scanned (index : Nat) (inside : index < count) :=
    wellFormed.toNat_fatStart_add (Nat.le_of_lt_succ inside)
  refine ⟨(scanned _ (Nat.lt_succ_self _)).2, fun index inside => (scanned index inside).1, ?_, ?_⟩
  · intro index inside cause earlier failed
    exact wellFormed.usage_of_error (Nat.le_of_lt_succ inside) earlier failed
  · intro readableAll
    obtain ⟨result, reads⟩ := wellFormed.usage_of_readable readableAll
    rw [← freeEq] at result
    refine ⟨result, reads, ?_, ?_, used, ?_, ?_, ?_⟩
    · intro number numbered
      obtain ⟨value, found⟩ := wellFormed.exists_entryOn (Finset.mem_Icc.mp numbered).2
        fun index used => readableAll index (Nat.lt_succ_of_le used)
      exact ⟨value, result_tableEntry_eq_ok_iff.mpr found⟩
    · exact Nat.le.intro split
    · rw [used, Nat.add_comm]
      exact split
    · intro start ended
      rw [takenEq]
      exact wellFormed.mem_takenOn ended
    · intro starts ended apart
      rw [used, takenEq]
      exact wellFormed.sum_length_le ended apart

/-- A table of the small volume with a chain of two clusters and one of a single cluster. -/
def sharedMedium : Medium := fun _ =>
  .ok (.ofList 512 [0xF8, 0xFF, 0xFF, 0x0F, 0xFF, 0xFF, 0xFF, 0x0F, 3, 0, 0, 0,
    0xF8, 0xFF, 0xFF, 0x0F, 0, 0, 0, 0, 0xFF, 0xFF, 0xFF, 0xFF])

/-- Both chains are counted, and a table that cannot be read is asked for once. -/
theorem usage_agrees_with_table_small :
    let scan := (small.usage : Attempt Empty Usage).run
    let failing : Medium := fun _ => .error .readError
    (∃ usage, scan.result sharedMedium = .ok usage ∧ usage.totalClusters = 8 ∧
      usage.usedClusters = 3 ∧ ([2, 5].map fun start =>
        ((small.chain start).run.itemsOn sharedMedium).length).sum ≤ usage.usedClusters) ∧
    ([2, 5].map fun start => (small.chain start).run.itemsOn sharedMedium) = [[2, 3], [5]] ∧
    scan.readsOn sharedMedium = [1] ∧
    scan.result failing = .error (.device .readError) ∧ scan.readsOn failing = [1] := by
  intro scan failing
  have accepted : (ofBootSector 0 smallBoot : Attempt Empty _) = pure small :=
    ofBootSector_eq_pure_iff.mpr ofHeader_small
  obtain ⟨-, -, -, counted⟩ := usage_agrees_with_table accepted sharedMedium
  obtain ⟨result, reads, -, -, used, -, -, shared⟩ := counted fun _ _ => ⟨_, rfl⟩
  obtain ⟨-, -, stopped, -⟩ := usage_agrees_with_table accepted failing
  obtain ⟨failed, asked⟩ := stopped 0 (Nat.zero_lt_succ _) _ (fun _ impossible =>
    absurd impossible (Nat.not_lt_zero _)) rfl
  have walked : ([2, 5].map fun start => (small.chain start).run.itemsOn sharedMedium) =
      [[2, 3], [5]] := by decide +kernel
  have apart : ([[2, 3], [5]] : List (List UInt32)).Pairwise List.Disjoint :=
    List.pairwise_pair.mpr (by simp)
  have ended : ∀ start ∈ ([2, 5] : List UInt32),
      (small.chain start).run.result sharedMedium = .ok () := by
    simp only [List.forall_mem_cons, List.not_mem_nil, IsEmpty.forall_iff, implies_true, and_true]
    decide +kernel
  refine ⟨⟨_, result, rfl, used.trans (by decide +kernel), ?_⟩, walked, reads, failed, asked⟩
  exact shared [2, 5] ended (walked ▸ apart)

end Fat32.Volume
