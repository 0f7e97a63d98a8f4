import Fat32.Proofs.Scan.Spent
import Fat32.Proofs.Volume.Cost

/-!
Walks along a chain are lazy. A link is read when the cluster behind it is wanted
(`spentOn_chain`), and a reader that goes through the sectors of a chain one by
one has read the sectors so far and the links between their clusters
(`requestsTo`).
-/

namespace Fat32

namespace Volume

/-- The requests of a reader that goes through the sectors of some clusters, up to the one with
the number `sector`. -/
def requestsTo (volume : Volume) : List UInt32 → Nat → List UInt32
  | [], _ => []
  | cluster :: rest, sector =>
    if sector < volume.sectorsPerCluster.toNat then (volume.addresses cluster).take (sector + 1)
    else volume.addresses cluster ++ volume.linkAddress cluster ::
      volume.requestsTo rest (sector - volume.sectorsPerCluster.toNat)

variable {κ σ ρ : Type} {volume : Volume} {medium : Medium}

/-- Up to a sector, all the sectors in front of it are read, and the links of the clusters that
are left. -/
theorem WellFormed.costs_requestsTo (wellFormed : volume.WellFormed) {clusters : List UInt32}
    (valid : ∀ cluster ∈ clusters, volume.isCluster cluster = true) {sector : Nat}
    (inside : sector < clusters.length * volume.sectorsPerCluster.toNat) :
    volume.Costs (volume.requestsTo clusters sector)
      ((clusters.take (sector / volume.sectorsPerCluster.toNat)).map volume.linkAddress)
      ((clusters.flatMap volume.addresses).take (sector + 1)) := by
  have perCluster := wellFormed.perCluster_pos
  induction clusters generalizing sector with
  | nil =>
    rw [List.length_nil, Nat.zero_mul] at inside
    exact absurd inside (Nat.not_lt_zero sector)
  | cons cluster rest ih =>
    have length := volume.length_addresses cluster
    have firstValid := valid cluster List.mem_cons_self
    rw [requestsTo, List.flatMap_cons]
    split
    · rename_i inFirst
      rw [Nat.div_eq_of_lt inFirst, List.take_append_of_le_length (by omega)]
      exact wellFormed.costs_sectors firstValid (List.take_subset _ _)
    · rename_i behind
      have beyond := Nat.le_of_not_lt behind
      have quotient : sector / volume.sectorsPerCluster.toNat =
          (sector - volume.sectorsPerCluster.toNat) / volume.sectorsPerCluster.toNat + 1 := by
        rw [← Nat.add_div_right _ perCluster, Nat.sub_add_cancel beyond]
      have sectors : (volume.addresses cluster ++ rest.flatMap volume.addresses).take (sector + 1) =
          volume.addresses cluster ++ (rest.flatMap volume.addresses).take
            (sector - volume.sectorsPerCluster.toNat + 1) := by
        rw [List.take_append, List.take_of_length_le (by omega), length, Nat.sub_add_comm beyond]
      rw [List.length_cons, Nat.succ_mul] at inside
      have further := ih (fun other later => valid other (List.mem_cons_of_mem _ later))
        (Nat.sub_lt_right_of_lt_add beyond inside)
      have whole := wellFormed.costs_sectors firstValid (List.Subset.refl _)
      rw [quotient, List.take_succ_cons, List.map_cons, sectors]
      exact whole.append ((wellFormed.costs_link firstValid).append further)

theorem spentOn_chainWithin_succ (budget : Nat) (cluster : UInt32) (before : List UInt32) :
    (volume.chainWithin (budget + 1) cluster).run.spentOn medium before =
      (cluster, before) :: match volume.linkOn medium cluster with
        | .ok (some next) =>
          (volume.chainWithin budget next).run.spentOn medium
            (before ++ [volume.linkAddress cluster])
        | _ => [] := by
  have silent : (volume.successor cluster : Attempt UInt32 _).run.spentOn medium before = [] :=
    Scan.spentOn_eq_nil medium (itemsOn_successor volume medium cluster) before
  rw [chainWithin]
  simp only [Attempt.spentOn_bind, Attempt.spentOn_emit, Attempt.result_emit,
    Attempt.readsOn_emit, result_successor, readsOn_successor, List.append_nil, silent,
    List.nil_append, List.singleton_append]
  cases volume.linkOn medium cluster with
  | error error => rfl
  | ok link => cases link <;> rfl

theorem spentOn_chainWithin (budget : Nat) (cluster : UInt32) (before : List UInt32)
    (place : Nat) :
    let clusters := (volume.chainWithin budget cluster).run.itemsOn medium
    ((volume.chainWithin budget cluster).run.spentOn medium before)[place]? =
      clusters[place]?.map fun here =>
        (here, before ++ (clusters.take place).map volume.linkAddress) := by
  induction budget generalizing cluster before place with
  | zero => rfl
  | succ budget ih =>
    intro clusters
    unfold clusters
    rw [itemsOn_chainWithin_succ, spentOn_chainWithin_succ]
    cases place with
    | zero => simp
    | succ place =>
      rw [List.getElem?_cons_succ, List.getElem?_cons_succ, List.take_succ_cons, List.map_cons]
      cases volume.linkOn medium cluster with
      | error error => rfl
      | ok link =>
        cases link with
        | none => rfl
        | some next =>
          dsimp only
          rw [ih next (before ++ [volume.linkAddress cluster]) place]
          simp

theorem spentOn_chain (volume : Volume) (medium : Medium) (start : UInt32) (place : Nat) :
    let clusters := (volume.chain start).run.itemsOn medium
    ((volume.chain start).run.spentOn medium [])[place]? =
      clusters[place]?.map fun here => (here, (clusters.take place).map volume.linkAddress) := by
  unfold chain
  split
  · rfl
  · split
    · exact spentOn_chainWithin _ start [] place
    · rfl

end Volume

end Fat32
