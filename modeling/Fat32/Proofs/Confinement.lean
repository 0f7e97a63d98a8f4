import Fat32.Proofs.Call
import Fat32.Proofs.Handle.Table
import Fat32.Proofs.Volume.Requests

/-!
Reads stay inside the volume. Every call asks for sectors of the first table
and for sectors of clusters only, whatever the device answers. What carries
this from call to call is that an open file is at its start or at a cluster
that a link led to (`Confined`).
-/

namespace Fat32

theorem Volume.usage_asks {ι : Type} (volume : Volume) :
    (volume.usage : Attempt ι Usage).Asks volume.Computed := by
  -- The sectors still to come are those from `index` on, so the bound is on the sum.
  have counting (count : Nat) : ∀ index free, index + count ≤ volume.maxCluster.toNat / 128 + 1 →
      (volume.countFree index count free : Attempt ι Nat).Asks volume.Computed := by
    induction count with
    | zero => exact fun index free _ => .pure _
    | succ count ih =>
      intro index free room
      have used : index ≤ volume.maxCluster.toNat / 128 := by omega
      refine .bind (.sector ⟨_, .scanned used⟩) ?_
      intro sector
      exact ih _ _ (by omega)
  exact .bind (counting _ 0 0 (by omega)) fun free => .pure _

theorem Scan.sectors_ensures {asks : UInt32 → Prop} {block count : Nat}
    (allowed : ∀ index < count, asks (.ofNat (block + index))) :
    (Scan.sectors block count).Ensures asks (fun _ => True) fun _ => True := by
  induction count generalizing block with
  | zero => exact .done trivial
  | succ count ih =>
    unfold Scan.sectors
    split
    · refine .read (allowed 0 (by omega)) ?_
      intro answer
      cases answer with
      | error cause => exact .done trivial
      | ok sector =>
        refine .item trivial (ih fun index below => ?_)
        have next := allowed (index + 1) (by omega)
        rwa [← Nat.add_assoc, Nat.add_right_comm] at next
    · exact .done trivial

namespace OpenFile

variable {ι : Type} {volume : Volume} {emits : ι → Prop}

/-- A file is at its start, which is checked before it is read, or at a cluster
of the volume. -/
def Placed (volume : Volume) (file : OpenFile) : Prop :=
  file.position.index = 0 ∨ volume.isCluster file.position.cluster = true

theorem placed_atStart (startCluster size : UInt32) :
    (atStart startCluster size).Placed volume := .inl rfl

theorem follow_ensures (index hops : Nat) {file : OpenFile}
    (valid : volume.isCluster file.position.cluster = true) :
    (follow volume index hops file : Scan ι _).Ensures volume.Computed emits
      fun outcome => volume.isCluster outcome.1.position.cluster = true := by
  induction hops generalizing file with
  | zero => exact .done valid
  | succ hops ih =>
    refine Scan.Ensures.bind (Volume.successor_ensures valid) ?_
    intro next nextValid
    rcases next with error | (_ | next)
    · exact .done valid
    · exact .report (.done valid)
    · exact ih (nextValid _ rfl next rfl)

theorem seek_ensures (index : Nat) {file : OpenFile} (placed : file.Placed volume) :
    (seek volume index file : Scan ι _).Ensures volume.Computed emits fun outcome =>
      outcome.1.Placed volume ∧
        (outcome.2 = .ok () → volume.isCluster outcome.1.position.cluster = true) := by
  have restarted : (if index < file.position.index then file.rewind else file).Placed volume := by
    split
    · exact placed_atStart _ _
    · exact placed
  unfold seek
  dsimp only
  generalize (if index < file.position.index then file.rewind else file) = file at restarted
  split
  · exact .report (.done ⟨restarted, fun succeeded => by cases succeeded⟩)
  · rename_i checked
    -- At its start the cluster was just checked, and behind it a link led there.
    have valid : volume.isCluster file.position.cluster = true := by
      rcases restarted with atStart | valid
      · simpa [atStart] using checked
      · exact valid
    exact (follow_ensures _ _ valid).mono (fun _ emitted => emitted)
      fun outcome next => ⟨.inr next, fun _ => next⟩

theorem load_ensures {file : OpenFile} (valid : volume.isCluster file.position.cluster = true) :
    (load volume file : Scan ι _).Ensures volume.Computed emits
      fun outcome => volume.isCluster outcome.1.position.cluster = true := by
  unfold load
  dsimp only
  split
  · exact .done valid
  · have reading : (Scan.sectors (volume.clusterStart file.position.cluster).toNat
        volume.sectorsPerCluster.toNat).Ensures volume.Computed (fun _ => True) fun _ => True := by
      apply Scan.sectors_ensures
      intro index below
      rw [UInt32.ofNat_add, UInt32.ofNat_toNat]
      exact ⟨_, .cluster valid below⟩
    refine Scan.Ensures.bind reading.toList ?_
    intro outcome _
    rcases outcome with ⟨sectors, cause | _⟩
    · exact .done valid
    · exact .done valid

theorem readSpans_ensures (spans : List Span) {file : OpenFile} (placed : file.Placed volume) :
    (readSpans volume spans file).Ensures volume.Computed (fun _ => True)
      fun outcome => outcome.1.Placed volume := by
  induction spans generalizing file with
  | nil => exact .done placed
  | cons span rest ih =>
    refine Scan.Ensures.bind (seek_ensures span.index placed) ?_
    intro moved known
    rcases moved with ⟨file, error | _⟩
    · exact .done known.1
    · refine Scan.Ensures.bind (load_ensures (known.2 rfl)) ?_
      intro loaded valid
      rcases loaded with ⟨file, error | bytes⟩
      · exact .done (.inr valid)
      · exact .item trivial (ih (.inr valid))

theorem read_ensures (offset count : Nat) {file : OpenFile} (placed : file.Placed volume) :
    (file.read volume offset count).Ensures volume.Computed (fun _ => True)
      fun outcome => outcome.1.Placed volume := by
  unfold read
  dsimp only
  split
  · exact .done placed
  · split
    · exact .done placed
    · exact Scan.Ensures.bind (readSpans_ensures _ placed) fun _ kept => .done kept

end OpenFile

namespace Filesystem

variable {ι : Type} {fs : Filesystem}

theorem copySectors_asks {asks : UInt32 → Prop} {lba : UInt32} {count : Nat}
    (allowed : ∀ index < count, asks (lba + .ofNat index)) (wanted : Nat) :
    (copySectors lba count wanted).Asks asks := by
  induction count generalizing lba wanted with
  | zero => exact .pure _
  | succ count ih =>
    have first : asks lba := by simpa using allowed 0 (by omega)
    refine .bind (.sector first) fun sector => .bind (.emit _) fun _ => ?_
    split
    · exact .pure _
    · refine ih (fun index below => ?_) _
      have next := allowed (index + 1) (by omega)
      rwa [Word.add_ofNat_succ] at next

theorem find?_asks (cluster : UInt32) (test : Entry → Bool) :
    (fs.find? cluster test : Attempt ι _).Asks fs.volume.Computed := by
  refine Attempt.Asks.bind ?_ fun step => ?_
  · refine Scan.Ensures.visit (Directory.entries_asks fs.volume cluster) (fun _ entry _ => ?_) ()
    exact Attempt.Asks.pure _
  · cases step <;> exact .pure _

theorem step_asks (location : Location) (move : Path.Move) :
    (fs.step location move : Attempt ι _).Asks fs.volume.Computed := by
  cases move with
  | stay => exact .pure _
  | up =>
    change (fs.ascend location).Asks _
    unfold ascend
    split
    · exact .pure _
    · refine .bind (find?_asks _ _) fun parent => ?_
      cases parent with
      | none => exact .throw _
      | some parent => exact .bind (.note _) fun _ => .pure _
  | down name =>
    change (fs.descend location name).Asks _
    unfold descend
    refine .bind (find?_asks _ _) fun found => ?_
    cases found with
    | none => exact .failWith _ _
    | some entry => exact .ofExcept _

theorem walk_asks (location : Location) (moves : List Path.Move) :
    (fs.walk location moves : Attempt ι _).Asks fs.volume.Computed := by
  induction moves generalizing location with
  | nil => exact .pure _
  | cons move rest ih => exact .bind (step_asks _ _) fun next => ih next

theorem resolve_asks (path : String) :
    (fs.resolve path : Attempt ι _).Asks fs.volume.Computed := by
  unfold resolve
  split
  split
  · exact .bind (.ofExcept _) fun origin => walk_asks _ _
  · exact .bind (.pure _) fun origin => walk_asks _ _

theorem lookup_asks (path : String) :
    (fs.lookup path : Attempt ι _).Asks fs.volume.Computed := by
  unfold lookup
  split
  dsimp only
  split
  · refine .bind (resolve_asks _) ?_
    intro location
    refine .bind (find?_asks _ _) fun found => ?_
    cases found with
    | none => exact .throw _
    | some entry => exact .pure _
  · exact .throw_bind _ _

theorem lookupFile_asks (path : String) :
    (fs.lookupFile path : Attempt ι _).Asks fs.volume.Computed := by
  refine .bind (lookup_asks path) ?_
  intro entry
  dsimp only
  split
  · exact .throw_bind _ _
  · exact .pure _

theorem fileSize_asks (path : String) :
    (fs.fileSize path : Attempt ι _).Asks fs.volume.Computed :=
  .bind (lookupFile_asks path) fun _ => .pure _

theorem entryContents_asks (entry : Entry) (limit : Nat) :
    (fs.entryContents entry limit).Asks fs.volume.Computed := by
  unfold entryContents
  dsimp only
  split
  · exact .pure _
  · refine .bind ?_ fun copied => ?_
    · refine .visit (fs.volume.chain_ensures _) (fun left cluster valid => ?_) _
      exact copySectors_asks (fun _ inCluster => ⟨_, .cluster valid inCluster⟩) _
    · cases copied with
      | enough => exact .pure _
      | more left => exact .failWith _ _

theorem fileContents_asks (path : String) (limit : Nat) :
    (fs.fileContents path limit).Asks fs.volume.Computed :=
  .bind (lookupFile_asks path) fun entry => entryContents_asks entry limit

theorem measureNames_asks (cluster : UInt32) :
    (fs.measureNames cluster : Attempt ι _).Asks fs.volume.Computed := by
  refine .bind ?_ fun step => ?_
  · refine Scan.Ensures.visit (Directory.entries_asks fs.volume cluster) (fun _ _ _ => ?_) 0
    exact Attempt.Asks.pure _
  · cases step with
    | more size => exact .pure _
    | enough result => exact result.elim

theorem readNames_asks (cluster : UInt32) (limit : Nat) :
    (fs.readNames cluster limit).Asks fs.volume.Computed := by
  refine .bind ?_ fun step => ?_
  · refine Scan.Ensures.visit (Directory.entries_asks fs.volume cluster) (fun size _ _ => ?_) 0
    change Attempt.Asks _ _
    dsimp only
    split
    · exact .throw_bind _ _
    · exact .bind (.emit _) fun _ => .pure _
  · cases step with
    | more size => exact .pure _
    | enough result => exact result.elim

theorem pathContents_asks (path : String) (limit : Nat) :
    (fs.pathContents path limit).Asks fs.volume.Computed := by
  refine Scan.Ensures.bind (resolve_asks path) ?_
  intro found _
  split
  · refine Attempt.Asks.bind (measureNames_asks _) ?_
    intro size
    dsimp only
    split
    · exact .throw_bind _ _
    · exact readNames_asks _ _
  · exact fileContents_asks path limit
  · exact .done trivial

/-- A state over a volume in which every open file is placed. -/
structure Confined (volume : Volume) (fs : Filesystem) : Prop where
  mounted : fs.volume = volume
  placed : ∀ handle file, fs.files.get? handle = some file → file.Placed volume

theorem Confined.put {volume : Volume} {handle : Handle} {file : OpenFile}
    (confined : fs.Confined volume) (inside : handle < maxOpenFiles)
    (placed : file.Placed volume) :
    Confined volume { fs with files := fs.files.put handle file } := by
  refine ⟨confined.mounted, ?_⟩
  intro other opened found
  obtain ⟨-, rfl⟩ | ⟨-, held⟩ := HandleTable.get?_put_eq_some fs.files inside found
  · exact placed
  · exact confined.placed other opened held

end Filesystem

namespace Call

open Filesystem

variable {ι κ : Type} {volume : Volume} {fs : Filesystem}

theorem changeDirectory_ensures (confined : fs.Confined volume)
    (path : String) :
    (fs.changeDirectory path : Attempt ι _).Ensures volume.Computed (fun _ => True)
      fun next => next.Confined volume := by
  obtain ⟨rfl, placed⟩ := confined
  refine .bind (resolve_asks path).ensures ?_
  intro location _
  exact .bind (.note _) fun _ _ => .pure ⟨rfl, placed⟩

theorem openFile_ensures (confined : fs.Confined volume)
    (path : String) :
    (fs.openFile path : Attempt ι _).Ensures volume.Computed (fun _ => True)
      fun opened => opened.2.Confined volume := by
  have mounted := confined.mounted
  subst mounted
  refine .bind (lookupFile_asks path).ensures ?_
  intro entry _
  refine .bind (.ofExcept ?_) fun opened confined => .pure confined
  intro opened allocated
  obtain ⟨handle, files⟩ := opened
  obtain ⟨inside, -, rfl⟩ := HandleTable.alloc_eq_ok _ allocated
  exact confined.put inside (OpenFile.placed_atStart _ _)

theorem readAt_ensures (confined : fs.Confined volume)
    (handle : Handle) (offset limit : Nat) :
    (fs.readAt handle offset limit).Ensures volume.Computed (fun _ => True)
      fun outcome => outcome.1.Confined volume := by
  have mounted := confined.mounted
  subst mounted
  unfold Filesystem.readAt
  split
  · exact .done confined
  · rename_i file found
    have opened := (HandleTable.get_eq_ok_iff _).mp found
    have placed := confined.placed handle file opened
    have reading := OpenFile.read_ensures offset limit placed
    refine Scan.Ensures.bind reading fun outcome kept => .done ?_
    exact confined.put (HandleTable.lt_of_get? _ opened) kept

theorem closeFile_confined (confined : fs.Confined volume) (handle : Handle) :
    (fs.closeFile handle).Confined volume := by
  refine ⟨confined.mounted, ?_⟩
  intro other file found
  obtain ⟨-, held⟩ := HandleTable.get?_close_eq_some fs.files found
  exact confined.placed other file held

/-- One call stays inside the volume and leaves a state from which the next one does. -/
theorem run_ensures (confined : fs.Confined volume) {call : Call}
    (admissible : call.Admissible volume) :
    (call.run fs : Scan κ _).Ensures volume.Computed (fun _ => True)
      fun outcome => outcome.1.Confined volume := by
  have mounted := confined.mounted
  subst mounted
  cases call with
  | list limit => exact browse_ensures confined (Directory.entries_asks fs.volume _) limit
  | directory cluster limit =>
    exact browse_ensures confined (Directory.entries_asks fs.volume _) limit
  | chain start limit => exact browse_ensures confined (fs.volume.chain_ensures start).toAsks limit
  | changeDirectory path =>
    exact advance_ensures _ confined (changeDirectory_ensures confined path)
  | resolve path => exact watch_ensures confined (resolve_asks path)
  | lookup path => exact watch_ensures confined (lookup_asks path)
  | fileSize path => exact watch_ensures confined (fileSize_asks path)
  | fileContents path limit =>
    exact watch_ensures confined (fileContents_asks path limit)
  | pathContents path limit =>
    exact watch_ensures confined (pathContents_asks path limit)
  | openFile path => exact advance_ensures _ confined (openFile_ensures confined path)
  | closeFile handle => exact .done (closeFile_confined confined handle)
  | readAt handle offset limit =>
    have reading := readAt_ensures confined handle offset limit
    exact Scan.Ensures.bind reading.toList fun _ kept => .done kept
  | usage => exact watch_ensures confined fs.volume.usage_asks
  | successor cluster =>
    have asking : (fs.volume.successor cluster : Attempt Empty _).Ensures fs.volume.Computed
        (fun _ => True) _ := Volume.successor_ensures admissible
    exact watch_ensures confined asking.toAsks
  | tableEntry cluster =>
    have asking : (fs.volume.tableEntry cluster : Attempt Empty _).Ensures fs.volume.Computed
        (fun _ => True) _ := Volume.tableEntry_ensures admissible
    exact watch_ensures confined asking.toAsks

theorem runAll_ensures {calls : List Call}
    (admissible : ∀ call ∈ calls, call.Admissible volume) (confined : fs.Confined volume) :
    (runAll calls fs : Scan κ _).Ensures volume.Computed (fun _ => True)
      fun last => last.Confined volume := by
  induction calls generalizing fs with
  | nil => exact .done confined
  | cons call rest ih =>
    have first := run_ensures (κ := κ) confined (admissible call List.mem_cons_self)
    refine Scan.Ensures.bind first ?_
    intro outcome confined
    exact ih (fun call later => admissible call (List.mem_cons_of_mem _ later)) confined

end Call

/-- Whatever the device answers and however its answers change, a run of calls
on a volume that was just mounted asks for sectors of the first table and of
clusters only. These lie inside the volume, the clusters lie apart from each
other and from all tables, and no computation of an address wraps around: every
address that the run asks for is the number that exact arithmetic makes of the
same operands. -/
theorem requests_stay_inside {start : UInt32} {sector : Sector} {fs : Filesystem}
    (accepted : Volume.ofBootSector start sector = (pure fs.volume : Attempt Empty Volume))
    (closed : ∀ handle, fs.files.get? handle = none) {calls : List Call}
    (admissible : ∀ call ∈ calls, call.Admissible fs.volume) (script : Script) :
    (∀ lba ∈ (Call.runAll calls fs : Scan Empty Filesystem).asked script,
      fs.volume.Readable lba ∧
        lba.toNat ∈ Set.Ico start.toNat
          (start.toNat + (Header.ofSector sector).totalSectors.toNat) ∧
        ∃ exact, fs.volume.Address lba exact ∧ lba.toNat = exact) ∧
    (∀ first second, fs.volume.isCluster first = true → fs.volume.isCluster second = true →
      first ≠ second → ∀ lba ∈ fs.volume.extent first, lba ∉ fs.volume.extent second) ∧
    (∀ cluster, fs.volume.isCluster cluster = true → ∀ copy < fs.volume.header.fatCount.toNat,
      ∀ lba ∈ fs.volume.extent cluster, lba ∉ fs.volume.tableExtent copy) ∧
    fs.volume.Exact := by
  have laidOut := Volume.ofBootSector_eq_pure_iff.mp accepted
  have wellFormed := Volume.ofHeader_wellFormed laidOut
  obtain ⟨headerEq, startEq⟩ := Volume.ofHeader_eq laidOut
  have confined : fs.Confined fs.volume := by
    refine ⟨rfl, ?_⟩
    intro handle file found
    rw [closed handle] at found
    cases found
  have run := Call.runAll_ensures (κ := Empty) admissible confined
  refine ⟨fun lba requested => ?_, ?_, ?_, wellFormed.exact⟩
  · obtain ⟨exact, address⟩ := run.asked script lba requested
    obtain ⟨located, readable⟩ := wellFormed.readable_of_address address
    have inside := wellFormed.readable_inside readable
    rw [Volume.wholeExtent, headerEq, startEq] at inside
    exact ⟨readable, inside, exact, address, located⟩
  · exact fun first second firstValid secondValid different =>
      wellFormed.extent_apart firstValid secondValid different
  · exact fun cluster _ copy inTables =>
      wellFormed.extent_apart_tableExtent cluster inTables

/-- A run on the small volume over a device that takes turns in answering and failing. -/
theorem requests_stay_inside_small :
    let fs : Filesystem := ⟨.small, ⟨2, "/", []⟩, .empty⟩
    let calls := [.openFile "/a", .successor 9, .directory 0xFFFFFFFF none, .readAt 0 0 10, .usage]
    let script : Script := fun request =>
      if request % 2 = 0 then .ok Volume.smallBoot else .error .readError
    (Volume.ofBootSector 0 Volume.smallBoot : Attempt Empty _) = pure fs.volume ∧
      (∀ handle, fs.files.get? handle = none) ∧
      (∀ call ∈ calls, call.Admissible fs.volume) ∧
      (∀ lba ∈ (Call.runAll calls fs : Scan Empty Filesystem).asked script,
        fs.volume.Readable lba ∧ lba.toNat ∈ Set.Ico 0 (0 + 10) ∧
          ∃ exact, fs.volume.Address lba exact ∧ lba.toNat = exact) ∧
      (∀ first second, fs.volume.isCluster first = true → fs.volume.isCluster second = true →
        first ≠ second → ∀ lba ∈ fs.volume.extent first, lba ∉ fs.volume.extent second) ∧
      (∀ cluster, fs.volume.isCluster cluster = true → ∀ copy < 1,
        ∀ lba ∈ fs.volume.extent cluster, lba ∉ fs.volume.tableExtent copy) ∧
      fs.volume.Exact := by
  intro fs calls script
  have accepted : (Volume.ofBootSector 0 Volume.smallBoot : Attempt Empty _) = pure fs.volume :=
    Volume.ofBootSector_eq_pure_iff.mpr Volume.ofHeader_small
  have admissible : ∀ call ∈ calls, call.Admissible fs.volume := by
    intro call member
    simp only [calls, List.mem_cons, List.not_mem_nil, or_false] at member
    have numbered : Volume.small.isCluster 9 = true := rfl
    rcases member with rfl | rfl | rfl | rfl | rfl
    case inr.inl => exact numbered
    all_goals exact True.intro
  have closed : ∀ handle, fs.files.get? handle = none := HandleTable.get?_empty
  have inside := requests_stay_inside accepted closed admissible script
  rw [Volume.ofSector_smallBoot] at inside
  exact ⟨accepted, closed, admissible, inside⟩

end Fat32
