import Mathlib.Data.List.Nodup
import Mathlib.Data.List.Perm.Subperm
import Mathlib.Logic.Relation
import Fat32.Proofs.Scan.Stream
import Fat32.Proofs.Volume.Geometry
import Fat32.Proofs.Volume.Path

/-!
Which clusters are a chain, said of the table alone: each links to the next one,
and the last is marked as the end (`Chained`). The walker counts clusters and
remembers none of them, but a chain has no room for a cluster twice, so it is as
long as the volume has clusters at most and the count never stops one. A start
that leads round in a circle always runs into the count.
-/

namespace Fat32.Volume

section Tables

variable (volume : Volume) (medium : Medium)

def entryOn (cluster : UInt32) : Option UInt32 :=
  (medium (volume.fatStart + cluster / entriesPerFatSector)).toOption.map (entryIn · cluster)

def Links (cluster next : UInt32) : Prop :=
  volume.entryOn medium cluster = some next ∧ next < endOfChain ∧ volume.isCluster next = true

def Ends (cluster : UInt32) : Prop :=
  ∃ entry, volume.entryOn medium cluster = some entry ∧ endOfChain ≤ entry

/-- The clusters of a chain in order, from its start to the mark of its end. -/
inductive Chained : UInt32 → List UInt32 → Prop
  | last {cluster : UInt32} :
      volume.isCluster cluster = true → volume.Ends medium cluster → Chained cluster [cluster]
  | link {cluster next : UInt32} {rest : List UInt32} :
      volume.isCluster cluster = true → volume.Links medium cluster next → Chained next rest →
      Chained cluster (cluster :: rest)

/-- Links lead from a cluster to one that they also lead back to. -/
def Cyclic (start : UInt32) : Prop :=
  ∃ cluster, Relation.ReflTransGen (volume.Links medium) start cluster ∧
    Relation.TransGen (volume.Links medium) cluster cluster

end Tables

variable {volume : Volume} {medium : Medium}

theorem linkOn_eq_ok_some_iff {cluster next : UInt32} :
    volume.linkOn medium cluster = .ok (some next) ↔ volume.Links medium cluster next := by
  unfold linkOn Links entryOn
  cases medium (volume.fatStart + cluster / entriesPerFatSector) with
  | error cause => simp [Except.toOption]
  | ok sector =>
    simp only [Except.toOption, Option.map_some, Option.some.injEq]
    constructor
    · intro linked
      split at linked
      · cases linked
      · rename_i goesOn
        split at linked
        · rename_i valid
          cases linked
          exact ⟨rfl, UInt32.not_le.mp goesOn, valid⟩
        · cases linked
    · rintro ⟨rfl, goesOn, valid⟩
      simp [UInt32.not_le.mpr goesOn, valid]

theorem linkOn_eq_ok_none_iff {cluster : UInt32} :
    volume.linkOn medium cluster = .ok none ↔ volume.Ends medium cluster := by
  unfold linkOn Ends entryOn
  cases medium (volume.fatStart + cluster / entriesPerFatSector) with
  | error cause => simp [Except.toOption]
  | ok sector =>
    simp only [Except.toOption, Option.map_some, Option.some.injEq, exists_eq_left']
    constructor
    · intro ended
      by_contra goesOn
      simp only [goesOn, if_false] at ended
      split at ended <;> cases ended
    · intro marked
      simp [marked]

theorem toNat_bounds_of_isCluster {cluster : UInt32} (valid : volume.isCluster cluster = true) :
    2 ≤ cluster.toNat ∧ cluster.toNat < 2 + volume.clusterCount.toNat := by
  simp only [isCluster, maxCluster, Bool.and_eq_true, decide_eq_true_eq, UInt32.le_iff_toNat_le,
    UInt32.toNat_add] at valid
  have atMost : (volume.clusterCount.toNat + 1) % 2 ^ 32 ≤ volume.clusterCount.toNat + 1 :=
    Nat.mod_le _ _
  have two : (2 : UInt32).toNat = 2 := rfl
  have one : (1 : UInt32).toNat = 1 := rfl
  omega

namespace Chained

variable {start : UInt32} {clusters : List UInt32}

theorem unique {others : List UInt32} (chained : volume.Chained medium start clusters)
    (again : volume.Chained medium start others) : clusters = others := by
  induction chained generalizing others with
  | last valid ends =>
    have ended := linkOn_eq_ok_none_iff.mpr ends
    cases again with
    | last => rfl
    | link _ links _ =>
      rw [linkOn_eq_ok_some_iff.mpr links] at ended
      cases ended
  | link valid links chained ih =>
    have linked := linkOn_eq_ok_some_iff.mpr links
    cases again with
    | last _ ends =>
      rw [linkOn_eq_ok_none_iff.mpr ends] at linked
      cases linked
    | link _ otherLinks otherChained =>
      rw [linkOn_eq_ok_some_iff.mpr otherLinks] at linked
      cases linked
      exact congrArg _ (ih otherChained)

theorem isCluster (chained : volume.Chained medium start clusters) :
    ∀ cluster ∈ clusters, volume.isCluster cluster = true := by
  induction chained with
  | last valid ends =>
    intro cluster member
    obtain rfl := List.mem_singleton.mp member
    exact valid
  | link valid links chained ih =>
    intro cluster member
    rcases List.mem_cons.mp member with rfl | later
    · exact valid
    · exact ih cluster later

theorem exists_suffix (chained : volume.Chained medium start clusters) {cluster : UInt32}
    (member : cluster ∈ clusters) :
    ∃ suffix, suffix <:+ clusters ∧ volume.Chained medium cluster suffix := by
  induction chained with
  | last valid ends =>
    obtain rfl := List.mem_singleton.mp member
    exact ⟨_, List.suffix_rfl, .last valid ends⟩
  | link valid links chained ih =>
    rcases List.mem_cons.mp member with rfl | later
    · exact ⟨_, List.suffix_rfl, .link valid links chained⟩
    · obtain ⟨suffix, behind, fromHere⟩ := ih later
      exact ⟨suffix, behind.trans (List.suffix_cons _ _), fromHere⟩

theorem nodup (chained : volume.Chained medium start clusters) : clusters.Nodup := by
  induction chained with
  | last valid ends => exact List.nodup_singleton _
  | @link cluster next rest valid links chained ih =>
    apply List.nodup_cons.mpr
    refine ⟨?_, ih⟩
    -- A cluster that comes back would have a chain that is longer than itself.
    intro member
    obtain ⟨suffix, behind, fromHere⟩ := chained.exists_suffix member
    have same := fromHere.unique (.link valid links chained)
    have shorter := behind.length_le
    rw [same, List.length_cons] at shorter
    exact Nat.not_succ_le_self _ shorter

theorem length_le (chained : volume.Chained medium start clusters) :
    clusters.length ≤ volume.clusterCount.toNat := by
  have apart : (clusters.map UInt32.toNat).Nodup :=
    chained.nodup.map fun _ _ => UInt32.toNat_inj.mp
  have numbered : clusters.map UInt32.toNat ⊆ List.range' 2 volume.clusterCount.toNat := by
    intro number member
    obtain ⟨cluster, listed, rfl⟩ := List.mem_map.mp member
    have bounds := toNat_bounds_of_isCluster (chained.isCluster cluster listed)
    exact List.mem_range'_1.mpr bounds
  have fits := (List.subperm_of_subset apart numbered).length_le
  simpa using fits

theorem walked {budget : Nat} (chained : volume.Chained medium start clusters)
    (room : clusters.length ≤ budget) :
    (volume.chainWithin budget start).run.itemsOn medium = clusters ∧
      (volume.chainWithin budget start).run.result medium = .ok () := by
  induction chained generalizing budget with
  | last valid ends =>
    obtain ⟨budget, rfl⟩ := Nat.exists_eq_succ_of_ne_zero (Nat.pos_iff_ne_zero.mp room)
    simp [chainWithin, linkOn_eq_ok_none_iff.mpr ends]
  | link valid links chained ih =>
    obtain ⟨budget, rfl⟩ := Nat.exists_eq_succ_of_ne_zero
      (Nat.pos_iff_ne_zero.mp (Nat.zero_lt_of_lt room))
    obtain ⟨items, ending⟩ := ih (Nat.le_of_succ_le_succ room)
    simp [chainWithin, linkOn_eq_ok_some_iff.mpr links, items, ending]

end Chained

theorem exists_chained_of_walked {budget : Nat} {start : UInt32}
    (valid : volume.isCluster start = true)
    (ended : (volume.chainWithin budget start).run.result medium = .ok ()) :
    ∃ clusters, volume.Chained medium start clusters := by
  induction budget generalizing start with
  | zero => cases ended
  | succ budget ih =>
    simp only [chainWithin, Attempt.result_bind, Attempt.result_emit, result_successor] at ended
    cases linked : volume.linkOn medium start with
    | error error =>
      rw [linked] at ended
      cases ended
    | ok link =>
      cases link with
      | none => exact ⟨[start], .last valid (linkOn_eq_ok_none_iff.mp linked)⟩
      | some next =>
        rw [linked] at ended
        obtain ⟨rest, chained⟩ := ih (isCluster_of_linkOn linked) ended
        exact ⟨start :: rest, .link valid (linkOn_eq_ok_some_iff.mp linked) chained⟩

theorem Cyclic.goesOn {start : UInt32} (cyclic : volume.Cyclic medium start) :
    ∃ next, volume.Links medium start next ∧ volume.Cyclic medium next := by
  obtain ⟨cluster, reaches, round⟩ := cyclic
  rcases Relation.ReflTransGen.cases_head reaches with rfl | ⟨next, links, onward⟩
  · obtain ⟨next, links, back⟩ := Relation.TransGen.head'_iff.mp round
    exact ⟨next, links, start, back, round⟩
  · exact ⟨next, links, cluster, onward, round⟩

/-- A walk that goes round is stopped by the count, and by nothing else. -/
theorem Cyclic.walked {start : UInt32} (cyclic : volume.Cyclic medium start) (budget : Nat) :
    ((volume.chainWithin budget start).run.itemsOn medium).length = budget ∧
      (volume.chainWithin budget start).run.result medium = .error .corruptChain := by
  induction budget generalizing start with
  | zero => exact ⟨rfl, rfl⟩
  | succ budget ih =>
    obtain ⟨next, links, onward⟩ := cyclic.goesOn
    obtain ⟨items, ending⟩ := ih onward
    simp [chainWithin, linkOn_eq_ok_some_iff.mpr links, items, ending]

theorem chain_eq_chainWithin {start : UInt32} (valid : volume.isCluster start = true) :
    volume.chain start = volume.chainWithin volume.clusterCount.toNat start := by
  have reserved : start ≠ 0 := by
    rintro rfl
    exact absurd (toNat_bounds_of_isCluster valid).1 (by decide)
  rw [chain, if_neg reserved, if_pos valid]

theorem Chained.itemsOn_chain {start : UInt32} {clusters : List UInt32}
    (chained : volume.Chained medium start clusters) :
    (volume.chain start).run.itemsOn medium = clusters := by
  have valid : volume.isCluster start = true := by cases chained <;> assumption
  rw [chain_eq_chainWithin valid]
  exact (chained.walked chained.length_le).1

/-- The walker ends without an error for chains only. -/
theorem result_chain_eq_ok_iff {start : UInt32} :
    (volume.chain start).run.result medium = .ok () ↔
      start = 0 ∨ ∃ clusters, volume.Chained medium start clusters := by
  constructor
  · intro ended
    by_cases empty : start = 0
    · exact .inl empty
    · by_cases valid : volume.isCluster start = true
      · rw [chain_eq_chainWithin valid] at ended
        exact .inr (exists_chained_of_walked valid ended)
      · rw [chain, if_neg empty, if_neg valid] at ended
        cases ended
  · rintro (rfl | ⟨clusters, chained⟩)
    · rfl
    · have valid : volume.isCluster start = true := by cases chained <;> assumption
      rw [chain_eq_chainWithin valid]
      exact (chained.walked chained.length_le).2

theorem nodup_itemsOn_chain {start : UInt32}
    (ended : (volume.chain start).run.result medium = .ok ()) :
    ((volume.chain start).run.itemsOn medium).Nodup := by
  rcases result_chain_eq_ok_iff.mp ended with rfl | ⟨clusters, chained⟩
  · exact List.nodup_nil
  · rw [chained.itemsOn_chain]
    exact chained.nodup

/-- The walk from a start hands out no error exactly when the start is 0 or has a chain. Then it
hands out the clusters of the chain, which are all different and may be all clusters of the volume.
From a start that leads round it hands out as many clusters as there are and then an error. -/
theorem walk_accepts_iff_chained (volume : Volume) (medium : Medium) (start : UInt32) :
    let walk := (volume.chain start).run.nth medium
    let count := volume.clusterCount.toNat
    ((∀ place error, walk place ≠ some (.error error)) ↔
      start = 0 ∨ ∃ clusters, volume.Chained medium start clusters) ∧
    (start = 0 → ∀ place, walk place = none) ∧
    (∀ clusters, volume.Chained medium start clusters →
      clusters.Nodup ∧ clusters.length ≤ count ∧
        ∀ place, walk place = clusters[place]?.map .ok) ∧
    (volume.isCluster start = true → volume.Cyclic medium start →
      (∀ place < count, ∃ cluster, walk place = some (.ok cluster)) ∧
        walk count = some (.error .corruptChain)) ∧
    ∃ length ≤ count, (∀ place < length, ∃ cluster, walk place = some (.ok cluster)) ∧
      (∀ cluster, walk length ≠ some (.ok cluster)) ∧ ∀ place > length, walk place = none := by
  intro walk count
  have handed (place : Nat) : walk place =
      (withEnding ((volume.chain start).run.itemsOn medium)
        ((volume.chain start).run.result medium))[place]? := Scan.nth_eq medium _ place
  obtain ⟨before, last, behind⟩ := Scan.nth_spec medium (volume.chain start).run
  refine ⟨?_, ?_, ?_, ?_, ?_⟩
  · rw [← result_chain_eq_ok_iff]
    constructor
    · intro faultless
      cases ended : (volume.chain start).run.result medium with
      | ok => rfl
      | error error =>
        rw [ended] at last
        exact absurd last (faultless _ error)
    · intro ended place error failed
      rw [handed, ended] at failed
      simp [withEnding] at failed
  · rintro rfl place
    rw [handed]
    rfl
  · intro clusters chained
    refine ⟨chained.nodup, chained.length_le, fun place => ?_⟩
    have valid : volume.isCluster start = true := by cases chained <;> assumption
    obtain ⟨items, ending⟩ := chained.walked chained.length_le
    rw [handed, chain_eq_chainWithin valid, items, ending]
    simp [withEnding]
  · intro valid cyclic
    obtain ⟨length, ending⟩ := cyclic.walked count
    rw [← chain_eq_chainWithin valid] at length ending
    rw [length] at before last
    rw [ending] at last
    exact ⟨before, last⟩
  · refine ⟨_, length_itemsOn_chain_le start, before, fun cluster more => ?_, behind⟩
    have ended := last.symm.trans more
    split at ended <;> cases ended

/-- The table of the small volume with all its clusters in a row, and behind the last of them a
link of its own. -/
def rowMedium (last : List UInt8) : Medium := fun _ =>
  .ok (.ofList 512 ([0xF8, 0xFF, 0xFF, 0x0F, 0xFF, 0xFF, 0xFF, 0x0F, 3, 0, 0, 0, 4, 0, 0, 0,
    5, 0, 0, 0, 6, 0, 0, 0, 7, 0, 0, 0, 8, 0, 0, 0, 9, 0, 0, 0] ++ last))

/-- The row is a chain of all eight clusters when its last one is marked as the end, and goes round
when that one links to itself. -/
theorem walk_accepts_iff_chained_row :
    let row : List UInt32 := [2, 3, 4, 5, 6, 7, 8, 9]
    (small.Chained (rowMedium [0xF8, 0xFF, 0xFF, 0xFF]) 2 row ∧
      ∀ place, (small.chain 2).run.nth (rowMedium [0xF8, 0xFF, 0xFF, 0xFF]) place =
        row[place]?.map .ok) ∧
    (small.Cyclic (rowMedium [9]) 2 ∧
      (small.chain 2).run.nth (rowMedium [9]) 8 = some (.error .corruptChain)) := by
  intro row
  have links (last : List UInt8) (known : last = [0xF8, 0xFF, 0xFF, 0xFF] ∨ last = [9]) :
      ∀ cluster ∈ ([2, 3, 4, 5, 6, 7, 8] : List UInt32),
        small.Links (rowMedium last) cluster (cluster + 1) := by
    unfold Links
    -- Decided one by one. For all clusters at once, `decide` may go through every word there is.
    simp only [List.forall_mem_cons, List.not_mem_nil, IsEmpty.forall_iff, implies_true, and_true]
    rcases known with rfl | rfl <;> decide +kernel
  have ends : small.Ends (rowMedium [0xF8, 0xFF, 0xFF, 0xFF]) 9 :=
    ⟨0x0FFFFFF8, by decide +kernel, by decide⟩
  have round : small.Links (rowMedium [9]) 9 9 := by
    unfold Links
    decide +kernel
  have chained : small.Chained (rowMedium [0xF8, 0xFF, 0xFF, 0xFF]) 2 row := by
    have link := links _ (.inl rfl)
    exact .link rfl (link 2 (by decide)) <| .link rfl (link 3 (by decide)) <|
      .link rfl (link 4 (by decide)) <| .link rfl (link 5 (by decide)) <|
      .link rfl (link 6 (by decide)) <| .link rfl (link 7 (by decide)) <|
      .link rfl (link 8 (by decide)) <| .last rfl ends
  have cyclic : small.Cyclic (rowMedium [9]) 2 := by
    have link := links _ (.inr rfl)
    refine ⟨9, ?_, .single round⟩
    exact .head (link 2 (by decide)) <| .head (link 3 (by decide)) <|
      .head (link 4 (by decide)) <| .head (link 5 (by decide)) <|
      .head (link 6 (by decide)) <| .head (link 7 (by decide)) <|
      .head (link 8 (by decide)) .refl
  obtain ⟨-, -, walked, -⟩ := walk_accepts_iff_chained small (rowMedium [0xF8, 0xFF, 0xFF, 0xFF]) 2
  obtain ⟨-, -, -, stopped, -⟩ := walk_accepts_iff_chained small (rowMedium [9]) 2
  exact ⟨⟨chained, (walked row chained).2.2⟩, cyclic, (stopped rfl cyclic).2⟩

end Fat32.Volume
