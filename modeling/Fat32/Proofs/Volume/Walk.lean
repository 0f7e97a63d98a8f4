import Mathlib.Data.Finset.Card
import Mathlib.Order.Interval.Finset.Nat
import Fat32.Proofs.Volume.Path
import Fat32.Proofs.Volume.Requests

/-!
How a walk along a chain ends. The chain walker stops after as many clusters as
the volume has, and it may: a walk that gets that far has met a cluster twice,
so it goes round for ever (`travel_of_repeat`).
-/

namespace Fat32

theorem Attempt.visit_sector_bind {ι κ σ ρ : Type} (visitor : σ → ι → Attempt κ (Step σ ρ))
    (lba : UInt32) (f : Sector → Attempt ι Unit) (state : σ) :
    (Attempt.sector lba >>= f).visit visitor state =
      (do (f (← Attempt.sector lba)).visit visitor state) := by
  refine congrArg (fun next => ExceptT.mk (Scan.read lba next)) (funext fun answer => ?_)
  cases answer <;> rfl

namespace Volume

variable {volume : Volume} {medium : Medium}

/-- Every sector of the volume can be read. -/
def Faultless (volume : Volume) (medium : Medium) : Prop :=
  ∀ lba : UInt32, lba.toNat ∈ volume.wholeExtent → ∃ sector, medium lba = .ok sector

theorem linkOn_eq_error {cluster : UInt32} {error : Error}
    (failed : volume.linkOn medium cluster = .error error) :
    (∃ cause, error = .device cause) ∨ error = .corruptChain := by
  unfold linkOn at failed
  split at failed
  · cases failed
    exact .inl ⟨_, rfl⟩
  · dsimp only at failed
    split at failed
    · cases failed
    · split at failed
      · cases failed
      · cases failed
        exact .inr rfl

theorem linkOn_ne_incompleteRead (volume : Volume) (medium : Medium) (cluster : UInt32) :
    volume.linkOn medium cluster ≠ .error .incompleteRead := by
  intro failed
  rcases linkOn_eq_error failed with ⟨cause, impossible⟩ | impossible <;> cases impossible

section Visit

variable {κ σ ρ : Type} (visitor : σ → UInt32 → Attempt κ (Step σ ρ))

theorem visit_successor_bind (cluster : UInt32) (f : Option UInt32 → Attempt UInt32 Unit)
    (state : σ) :
    (volume.successor cluster >>= f).visit visitor state =
      (do (f (← volume.successor cluster)).visit visitor state) := by
  unfold successor tableEntry
  simp only [bind_assoc, pure_bind, Attempt.visit_sector_bind]
  refine congrArg (Attempt.sector _ >>= ·) (funext fun sector => ?_)
  split
  · rfl
  · split <;> rfl

theorem visit_chainWithin_succ (budget : Nat) (cluster : UInt32) (state : σ) :
    (volume.chainWithin (budget + 1) cluster).visit visitor state = (do
      match ← visitor state cluster with
      | .more state =>
        match ← volume.successor cluster with
        | none => pure (.more state)
        | some next => (volume.chainWithin budget next).visit visitor state
      | .enough result => pure (.enough result)) := by
  refine congrArg (visitor state cluster >>= ·) (funext fun step => ?_)
  cases step with
  | enough result => rfl
  | more state =>
    refine (visit_successor_bind visitor cluster _ state).trans ?_
    refine congrArg (volume.successor cluster >>= ·) (funext fun link => ?_)
    cases link <;> rfl

theorem result_visit_chainWithin_succ (budget : Nat) (cluster : UInt32) (state : σ) :
    ((volume.chainWithin (budget + 1) cluster).visit visitor state).run.result medium =
      match (visitor state cluster).run.result medium with
      | .error error => .error error
      | .ok (.enough result) => .ok (.enough result)
      | .ok (.more next) =>
        match volume.linkOn medium cluster with
        | .error error => .error error
        | .ok none => .ok (.more next)
        | .ok (some behind) =>
          ((volume.chainWithin budget behind).visit visitor next).run.result medium := by
  rw [visit_chainWithin_succ, Attempt.result_bind]
  cases (visitor state cluster).run.result medium with
  | error error => rfl
  | ok step =>
    cases step with
    | enough result => rfl
    | more next =>
      dsimp only
      rw [Attempt.result_bind, result_successor]
      cases volume.linkOn medium cluster with
      | error error => rfl
      | ok link => cases link <;> rfl

theorem itemsOn_visit_chainWithin_succ (budget : Nat) (cluster : UInt32) (state : σ) :
    ((volume.chainWithin (budget + 1) cluster).visit visitor state).run.itemsOn medium =
      (visitor state cluster).run.itemsOn medium ++
        match (visitor state cluster).run.result medium, volume.linkOn medium cluster with
        | .ok (.more next), .ok (some behind) =>
          ((volume.chainWithin budget behind).visit visitor next).run.itemsOn medium
        | _, _ => [] := by
  rw [visit_chainWithin_succ, Attempt.itemsOn_bind]
  cases (visitor state cluster).run.result medium with
  | error error => rfl
  | ok step =>
    cases step with
    | enough result => rfl
    | more next =>
      dsimp only
      rw [Attempt.itemsOn_bind, itemsOn_successor, result_successor, List.nil_append]
      cases volume.linkOn medium cluster with
      | error error => rfl
      | ok link => cases link <;> rfl

end Visit

/-- A chain is in error when it goes on behind the bound, or when a link of it cannot be
followed. It may end anywhere. -/
theorem result_chainWithin (budget : Nat) (cluster : UInt32) :
    (volume.chainWithin budget cluster).run.result medium =
      match volume.travel medium budget cluster with
      | .ok _ => .error .corruptChain
      | .error .incompleteRead => .ok ()
      | .error error => .error error := by
  induction budget generalizing cluster with
  | zero => rfl
  | succ budget ih =>
    rw [chainWithin, travel]
    simp only [Attempt.result_bind, Attempt.result_emit, result_successor]
    cases linked : volume.linkOn medium cluster with
    | error error =>
      have notEnd := linkOn_ne_incompleteRead volume medium cluster
      cases error <;> first | rfl | exact absurd linked notEnd
    | ok link =>
      cases link with
      | none => rfl
      | some next => exact ih next

theorem result_chain {start : UInt32} (valid : volume.isCluster start = true)
    (reserved : start ≠ 0) :
    (volume.chain start).run.result medium =
      match volume.travel medium volume.clusterCount.toNat start with
      | .ok _ => .error .corruptChain
      | .error .incompleteRead => .ok ()
      | .error error => .error error := by
  rw [chain, if_neg reserved, if_pos valid, result_chainWithin]

theorem result_chain_eq_error {start : UInt32} {error : Error}
    (failed : (volume.chain start).run.result medium = .error error) :
    (∃ cause, error = .device cause) ∨ error = .corruptChain := by
  have within (budget : Nat) (cluster : UInt32)
      (failed : (volume.chainWithin budget cluster).run.result medium = .error error) :
      (∃ cause, error = .device cause) ∨ error = .corruptChain := by
    induction budget generalizing cluster with
    | zero =>
      cases failed
      exact .inr rfl
    | succ budget ih =>
      rw [chainWithin] at failed
      simp only [Attempt.result_bind, Attempt.result_emit, result_successor] at failed
      cases linked : volume.linkOn medium cluster with
      | error broken =>
        rw [linked] at failed
        cases failed
        exact linkOn_eq_error linked
      | ok link =>
        rw [linked] at failed
        cases link with
        | none => cases failed
        | some next => exact ih next failed
  unfold chain at failed
  split at failed
  · cases failed
  · split at failed
    · exact within _ _ failed
    · cases failed
      exact .inr rfl

theorem travel_eq_error_of_le {start : UInt32} {hops more : Nat} (shorter : hops ≤ more)
    {error : Error} (failed : volume.travel medium hops start = .error error) :
    volume.travel medium more start = .error error := by
  obtain ⟨rest, rfl⟩ := Nat.exists_eq_add_of_le shorter
  rw [travel_add, failed]
  rfl

theorem travel_ok_of_le {start cluster : UInt32} {hops more : Nat} (shorter : hops ≤ more)
    (reached : volume.travel medium more start = .ok cluster) :
    ∃ before, volume.travel medium hops start = .ok before := by
  cases walked : volume.travel medium hops start with
  | error error =>
    rw [travel_eq_error_of_le shorter walked] at reached
    cases reached
  | ok before => exact ⟨before, rfl⟩

theorem isCluster_of_travel {start cluster : UInt32} (valid : volume.isCluster start = true)
    {hops : Nat} (reached : volume.travel medium hops start = .ok cluster) :
    volume.isCluster cluster = true := by
  have here := travel_eq_ok_iff.mp reached
  rcases Nat.eq_zero_or_pos hops with rfl | moved
  · cases here
    exact valid
  · exact isCluster_of_pathOn moved here

namespace WellFormed

variable (wellFormed : volume.WellFormed)

include wellFormed

theorem ne_zero_of_isCluster {cluster : UInt32} (valid : volume.isCluster cluster = true) :
    cluster ≠ 0 := by
  rintro rfl
  exact absurd (wellFormed.isCluster_iff.mp valid).1 (by decide)

theorem answers_cluster (faultless : volume.Faultless medium) {cluster : UInt32}
    (valid : volume.isCluster cluster = true) :
    ∀ index < volume.sectorsPerCluster.toNat,
      ∃ sector, medium (volume.clusterStart cluster + .ofNat index) = .ok sector :=
  fun _ inCluster => faultless _ (wellFormed.inside_of_address (.cluster valid inCluster))

theorem linkOn_faultless (faultless : volume.Faultless medium) {cluster : UInt32}
    (valid : volume.isCluster cluster = true) {error : Error}
    (failed : volume.linkOn medium cluster = .error error) : error = .corruptChain := by
  obtain ⟨sector, answered⟩ := faultless _ (wellFormed.inside_of_address (.link valid))
  rcases linkOn_eq_error failed with ⟨cause, rfl⟩ | same
  · unfold linkOn at failed
    rw [answered] at failed
    dsimp only at failed
    split at failed
    · cases failed
    · split at failed <;> cases failed
  · exact same

theorem travel_faultless (faultless : volume.Faultless medium) {start : UInt32}
    (valid : volume.isCluster start = true) {hops : Nat} {error : Error}
    (failed : volume.travel medium hops start = .error error) :
    error = .incompleteRead ∨ error = .corruptChain := by
  induction hops generalizing start with
  | zero => cases failed
  | succ hops ih =>
    rw [travel] at failed
    split at failed
    · rename_i next linked
      exact ih (isCluster_of_linkOn linked) failed
    · cases failed
      exact .inl rfl
    · rename_i broken linked
      cases failed
      exact .inr (wellFormed.linkOn_faultless faultless valid linked)

/-- A walk along as many links as the volume has clusters has met a cluster twice. -/
theorem exists_repeat {start last : UInt32} (valid : volume.isCluster start = true)
    (reached : volume.travel medium volume.clusterCount.toNat start = .ok last) :
    ∃ first second cluster, first < second ∧ second ≤ volume.clusterCount.toNat ∧
      volume.travel medium first start = .ok cluster ∧
      volume.travel medium second start = .ok cluster := by
  have onWay : ∀ hops ≤ volume.clusterCount.toNat, ∃ cluster,
      volume.travel medium hops start = .ok cluster := fun hops atMost =>
    travel_ok_of_le atMost reached
  choose! visited visits using onWay
  have inVolume : ∀ hops ∈ Finset.range (volume.clusterCount.toNat + 1),
      (visited hops).toNat ∈ Finset.Icc 2 (volume.clusterCount.toNat + 1) := by
    intro hops member
    have atMost := Nat.lt_succ_iff.mp (Finset.mem_range.mp member)
    have isCluster := isCluster_of_travel valid (visits hops atMost)
    exact Finset.mem_Icc.mpr (wellFormed.isCluster_iff.mp isCluster)
  -- The walk makes one visit more than there are cluster numbers.
  have fewer : (Finset.Icc 2 (volume.clusterCount.toNat + 1)).card <
      (Finset.range (volume.clusterCount.toNat + 1)).card := by
    simp
  obtain ⟨first, firstIn, second, secondIn, apart, same⟩ :=
    Finset.exists_ne_map_eq_of_card_lt_of_maps_to fewer inVolume
  rw [Finset.mem_range, Nat.lt_succ_iff] at firstIn secondIn
  have meet : visited first = visited second := UInt32.toNat_inj.mp same
  rcases Nat.lt_or_gt_of_ne apart with before | behind
  · exact ⟨first, second, visited second, before, secondIn, meet ▸ visits first firstIn,
      visits second secondIn⟩
  · exact ⟨second, first, visited first, behind, firstIn, meet ▸ visits second secondIn,
      visits first firstIn⟩

end WellFormed

/-- A walk that has met a cluster twice never ends. -/
theorem travel_of_repeat {start cluster : UInt32} {first second : Nat} (before : first < second)
    (once : volume.travel medium first start = .ok cluster)
    (again : volume.travel medium second start = .ok cluster) (hops : Nat) :
    ∃ last, volume.travel medium hops start = .ok last := by
  induction hops using Nat.strong_induction_on with
  | _ hops ih =>
    rcases Nat.le_total hops second with shorter | further
    · exact travel_ok_of_le shorter again
    · obtain ⟨rest, rfl⟩ := Nat.exists_eq_add_of_le further
      -- The rest of the way is the same from the first visit on.
      obtain ⟨last, reached⟩ := ih (first + rest) (Nat.add_lt_add_right before rest)
      refine ⟨last, ?_⟩
      rw [travel_add, once] at reached
      rw [travel_add, again]
      exact reached

end Volume

end Fat32
