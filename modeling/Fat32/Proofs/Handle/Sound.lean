import Fat32.Proofs.Handle.Spans

/-!
What an open file remembers on a fixed device: its position is on the path of
its first cluster and its cache holds the bytes of a cluster behind or at the
position. Every move and every load keeps this, those that fail included, so a
read hands out what the start of the file alone determines (`readOn`).
-/

namespace Fat32

namespace OpenFile

/-- What an open file remembers is right. -/
structure Sound (volume : Volume) (medium : Medium) (start size : UInt32) (file : OpenFile) :
    Prop where
  start_eq : file.startCluster = start
  size_eq : file.size = size
  onPath : volume.pathOn medium start file.position.index = some file.position.cluster
  /-- Only a start that is a cluster is ever left. -/
  entered : 0 < file.position.index → volume.isCluster start = true
  inside : 0 < file.position.index →
    file.position.index * volume.bytesPerCluster.toNat < size.toNat
  cached : ∀ cache, file.cache = some cache →
    volume.isCluster cache.cluster = true ∧
      volume.contentOn medium cache.cluster = .ok cache.bytes ∧
      ∃ index ≤ file.position.index, volume.pathOn medium start index = some cache.cluster

variable {ι : Type} {volume : Volume} {medium : Medium} {start size : UInt32} {file : OpenFile}

theorem sound_atStart (volume : Volume) (medium : Medium) (start size : UInt32) :
    (atStart start size).Sound volume medium start size where
  start_eq := rfl
  size_eq := rfl
  onPath := rfl
  entered := fun moved => absurd moved (Nat.lt_irrefl 0)
  inside := fun moved => absurd moved (Nat.lt_irrefl 0)
  cached := fun cache impossible => by cases impossible

theorem Sound.rewind (sound : file.Sound volume medium start size) :
    file.rewind.Sound volume medium start size := by
  unfold OpenFile.rewind
  rw [sound.start_eq, sound.size_eq]
  exact sound_atStart volume medium start size

theorem Sound.advance (sound : file.Sound volume medium start size)
    (valid : volume.isCluster start = true)
    (inside : (file.position.index + 1) * volume.bytesPerCluster.toNat < size.toNat)
    {next : UInt32} (linked : volume.linkOn medium file.position.cluster = .ok (some next)) :
    ({ file with position := ⟨file.position.index + 1, next⟩ } : OpenFile).Sound volume medium
      start size where
  start_eq := sound.start_eq
  size_eq := sound.size_eq
  onPath := (Volume.pathOn_succ sound.onPath next).mpr linked
  entered := fun _ => valid
  inside := fun _ => inside
  cached := fun cache held => by
    obtain ⟨isCluster, loaded, index, behind, located⟩ := sound.cached cache held
    exact ⟨isCluster, loaded, index, Nat.le_succ_of_le behind, located⟩

theorem result_follow (index : Nat) {hops : Nat} (valid : volume.isCluster start = true)
    (sound : file.Sound volume medium start size)
    (inside : 0 < hops →
      (file.position.index + hops) * volume.bytesPerCluster.toNat < size.toNat) :
    let outcome := (file.follow volume index hops : Scan ι _).result medium
    outcome.1.Sound volume medium start size ∧
      outcome.2 = (volume.travel medium hops file.position.cluster).map (fun _ => ()) ∧
      (outcome.2 = .ok () → outcome.1.position.index = file.position.index + hops) := by
  induction hops generalizing file with
  | zero => exact ⟨sound, rfl, fun _ => rfl⟩
  | succ hops ih =>
    rw [follow, Volume.travel]
    simp only [Scan.bind_eq, Scan.result_bind, Volume.result_successor]
    cases linked : volume.linkOn medium file.position.cluster with
    | error error => exact ⟨sound, rfl, fun ended => by cases ended⟩
    | ok link =>
      cases link with
      | none => exact ⟨sound, rfl, fun ended => by cases ended⟩
      | some next =>
        have reaches := inside (Nat.succ_pos hops)
        have nextInside : (file.position.index + 1) * volume.bytesPerCluster.toNat <
            size.toNat := by
          refine Nat.lt_of_le_of_lt (Nat.mul_le_mul_right _ ?_) reaches
          omega
        have further := ih (sound.advance valid nextInside linked)
        rw [Nat.add_assoc, Nat.add_comm 1] at further
        exact further fun _ => reaches

/-- A move ends at a place that the start of the file determines, wherever the file was. -/
theorem result_seek {index : Nat} (sound : file.Sound volume medium start size)
    (inside : index * volume.bytesPerCluster.toNat < size.toNat) :
    let outcome := (file.seek volume index : Scan ι _).result medium
    outcome.1.Sound volume medium start size ∧
      outcome.2 = (volume.clusterAt medium start index).map (fun _ => ()) ∧
      (outcome.2 = .ok () → outcome.1.position.index = index) := by
  unfold seek
  generalize rewound : (if index < file.position.index then file.rewind else file) = origin
  have originSound : origin.Sound volume medium start size := by
    rw [← rewound]
    split
    · exact sound.rewind
    · exact sound
  have notBeyond : origin.position.index ≤ index := by
    rw [← rewound]
    split
    · exact Nat.zero_le index
    · omega
  dsimp only
  split
  · rename_i unfit
    rw [Bool.and_eq_true, decide_eq_true_eq, Bool.not_eq_true'] at unfit
    have onPath := originSound.onPath
    rw [unfit.1] at onPath
    cases onPath
    refine ⟨originSound, ?_, fun ended => by cases ended⟩
    rw [Volume.clusterAt, if_neg (by rw [unfit.2]; exact Bool.false_ne_true)]
    rfl
  · rename_i fit
    -- A file that has left its start was checked there before.
    have valid : volume.isCluster start = true := by
      by_cases moved : 0 < origin.position.index
      · exact originSound.entered moved
      · have atStart : origin.position.index = 0 := by omega
        have onPath := originSound.onPath
        rw [atStart] at onPath
        cases onPath
        simpa [atStart] using fit
    have arrives : origin.position.index + (index - origin.position.index) = index := by omega
    obtain ⟨kept, ended, moved⟩ :=
      result_follow (ι := ι) index valid originSound (fun _ => by rwa [arrives])
    refine ⟨kept, ?_, fun succeeded => (moved succeeded).trans arrives⟩
    rw [ended, Volume.clusterAt, if_pos valid]
    conv => rhs; rw [← arrives, Volume.travel_add, Volume.travel_eq_ok_iff.mpr originSound.onPath]
    rfl

theorem result_load (sound : file.Sound volume medium start size)
    (valid : volume.isCluster file.position.cluster = true) :
    let outcome := (file.load volume : Scan ι _).result medium
    outcome.1.Sound volume medium start size ∧
      outcome.2 = (volume.contentOn medium file.position.cluster).mapError .device := by
  unfold load
  dsimp only
  cases held : file.cache.filter (·.cluster == file.position.cluster) with
  | some cache =>
    obtain ⟨present, same⟩ := Option.filter_eq_some_iff.mp held
    obtain ⟨-, loaded, -⟩ := sound.cached cache present
    rw [eq_of_beq same] at loaded
    rw [loaded]
    exact ⟨sound, rfl⟩
  | none =>
    simp only [Scan.bind_eq, Scan.result_bind, Scan.result_toList]
    have content : volume.contentOn medium file.position.cluster =
      ((Scan.sectors (volume.clusterStart file.position.cluster).toNat
        volume.sectorsPerCluster.toNat).result medium).map fun () =>
          ((Scan.sectors (volume.clusterStart file.position.cluster).toNat
            volume.sectorsPerCluster.toNat).itemsOn medium).flatMap (·.toList) := rfl
    cases answered : (Scan.sectors (volume.clusterStart file.position.cluster).toNat
        volume.sectorsPerCluster.toNat).result medium with
    | error cause =>
      rw [answered] at content
      rw [content]
      exact ⟨{ sound with cached := fun cache impossible => by cases impossible }, rfl⟩
    | ok =>
      rw [answered] at content
      rw [content]
      refine ⟨{ sound with cached := fun cache same => ?_ }, rfl⟩
      cases same
      exact ⟨valid, content, file.position.index, Nat.le_refl _, sound.onPath⟩

@[simp] theorem itemsOn_follow (index hops : Nat) (file : OpenFile) :
    (file.follow volume index hops : Scan ι _).itemsOn medium = [] := by
  induction hops generalizing file with
  | zero => rfl
  | succ hops ih =>
    rw [follow, Scan.bind_eq, Scan.itemsOn_bind, Volume.itemsOn_successor, List.nil_append]
    split
    · rfl
    · rfl
    · exact ih _

@[simp] theorem itemsOn_seek (index : Nat) (file : OpenFile) :
    (file.seek volume index : Scan ι _).itemsOn medium = [] := by
  unfold seek
  generalize (if index < file.position.index then file.rewind else file) = origin
  dsimp only
  split
  · rfl
  · exact itemsOn_follow _ _ _

@[simp] theorem itemsOn_load (file : OpenFile) :
    (file.load volume : Scan ι _).itemsOn medium = [] := by
  unfold load
  dsimp only
  split
  · rfl
  · rw [Scan.bind_eq, Scan.itemsOn_bind, Scan.itemsOn_toList, List.nil_append]
    split <;> rfl

/-- Spans are handed out alike by every file that is sound for the same start. -/
theorem readSpans_eq_spansOn {spans : List Span} (sound : file.Sound volume medium start size)
    (inside : ∀ span ∈ spans, span.index * volume.bytesPerCluster.toNat < size.toNat) :
    let reading := file.readSpans volume spans
    (reading.result medium).1.Sound volume medium start size ∧
      (reading.itemsOn medium, (reading.result medium).2) =
        volume.spansOn medium start spans := by
  induction spans generalizing file with
  | nil => exact ⟨sound, rfl⟩
  | cons span rest ih =>
    have spanInside := inside span List.mem_cons_self
    obtain ⟨sought, arrived, placed⟩ := result_seek (ι := List UInt8) sound spanInside
    dsimp only
    rw [readSpans, Volume.spansOn]
    simp only [Scan.bind_eq, Scan.result_bind, Scan.itemsOn_bind, itemsOn_seek, List.nil_append]
    revert sought arrived placed
    generalize (file.seek volume span.index : Scan (List UInt8) _).result medium = outcome
    obtain ⟨moved, answer⟩ := outcome
    intro sought arrived placed
    dsimp only at sought arrived placed ⊢
    cases located : volume.clusterAt medium start span.index with
    | error error =>
      rw [located] at arrived
      cases arrived
      exact ⟨sought, rfl⟩
    | ok cluster =>
      rw [located] at arrived
      cases arrived
      -- The file has arrived at the cluster that the path names, wherever it came from.
      have here := (Volume.pathOn_of_clusterAt located).2
      have valid := Volume.isCluster_of_clusterAt located
      have there := sought.onPath
      rw [placed rfl, here] at there
      cases there
      obtain ⟨kept, loaded⟩ := result_load (ι := List UInt8) sought valid
      dsimp only [Except.map]
      simp only [Scan.result_bind, Scan.itemsOn_bind, itemsOn_load, List.nil_append]
      revert kept loaded
      generalize (moved.load volume : Scan (List UInt8) _).result medium = outcome
      obtain ⟨held, answer⟩ := outcome
      intro kept loaded
      dsimp only at kept loaded ⊢
      cases content : volume.contentOn medium moved.position.cluster with
      | error cause =>
        rw [content] at loaded
        cases loaded
        exact ⟨kept, rfl⟩
      | ok bytes =>
        rw [content] at loaded
        cases loaded
        obtain ⟨sound, handed⟩ :=
          ih kept fun other later => inside other (List.mem_cons_of_mem _ later)
        refine ⟨sound, ?_⟩
        rw [← handed]
        rfl

/-- What a read hands out and answers, from the start and the size of the file alone. -/
def readOn (volume : Volume) (medium : Medium) (start size : UInt32) (offset count : Nat) :
    List (List UInt8) × Except Error Nat :=
  if count = 0 then ([], .ok 0)
  else if size.toNat ≤ offset then ([], .error .endOfFile)
  else
    let stop := min size.toNat (offset + count)
    let (parts, ending) := volume.spansOn medium start
      (Span.cover volume.bytesPerCluster.toNat offset stop)
    (parts, ending.map fun () => stop - offset)

theorem read_eq_readOn (sound : file.Sound volume medium start size) (offset count : Nat) :
    let reading := file.read volume offset count
    (reading.result medium).1.Sound volume medium start size ∧
      (reading.itemsOn medium, (reading.result medium).2) =
        readOn volume medium start size offset count := by
  unfold read readOn
  rw [sound.size_eq]
  dsimp only
  split
  · exact ⟨sound, rfl⟩
  · split
    · exact ⟨sound, rfl⟩
    · rename_i some behind
      have inside : ∀ span ∈ Span.cover volume.bytesPerCluster.toNat offset
          (min size.toNat (offset + count)),
          span.index * volume.bytesPerCluster.toNat < size.toNat := by
        intro span member
        have before := Span.index_mul_lt_of_mem_cover (by omega) member
        omega
      obtain ⟨kept, handed⟩ := readSpans_eq_spansOn sound inside
      simp only [Scan.bind_eq, Scan.result_bind, Scan.itemsOn_bind]
      rw [← handed]
      exact ⟨kept, congrArg (·, _) (List.append_nil _)⟩

end OpenFile

end Fat32
