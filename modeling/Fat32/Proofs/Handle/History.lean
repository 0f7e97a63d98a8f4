import Fat32.Proofs.Call
import Fat32.Proofs.Handle.Sound
import Fat32.Proofs.Mounting

/-!
Runs of calls on a fixed device. A ledger beside the state says for which entry
every handle was opened. Whatever was read, opened, closed and left again, an
open handle gives what a handle that was just opened for its entry gives, and
these are the bytes of the entry's file.
-/

namespace Fat32

/-- The entries that handles were opened for. -/
abbrev Ledger := Handle → Option Entry

namespace Ledger

def empty : Ledger := fun _ => none

def set (ledger : Ledger) (handle : Handle) (entry : Option Entry) : Ledger :=
  fun other => if other = handle then entry else ledger other

@[simp] theorem set_self (ledger : Ledger) (handle : Handle) (entry : Option Entry) :
    ledger.set handle entry handle = entry := if_pos rfl

theorem set_of_ne (ledger : Ledger) {handle other : Handle} (entry : Option Entry)
    (apart : other ≠ handle) : ledger.set handle entry other = ledger other := if_neg apart

theorem set_eq_self {ledger : Ledger} {handle : Handle} {entry : Option Entry}
    (same : ledger handle = entry) : ledger.set handle entry = ledger := by
  funext other
  by_cases here : other = handle
  · rw [here, set_self, same]
  · rw [set_of_ne ledger entry here]

end Ledger

def Call.track (medium : Medium) (fs : Filesystem) (ledger : Ledger) : Call → Ledger
  | .openFile path =>
    match (fs.lookupFile path : Attempt Empty _).run.result medium,
      (fs.openFile path : Attempt Empty _).run.result medium with
    | .ok entry, .ok (handle, _) => ledger.set handle (some entry)
    | _, _ => ledger
  | .closeFile handle => ledger.set handle none
  | _ => ledger

/-- The states that runs of calls reach from a mount, with their ledgers. -/
inductive Reachable (medium : Medium) : Filesystem → Ledger → Prop
  | mounted {files : HandleTable} {start : UInt32} {mountPoint : String} {fs : Filesystem} :
      (((Filesystem.mount start mountPoint).upon files : Scan Empty _).result medium).1 = .ok fs →
      Reachable medium fs .empty
  | called {fs : Filesystem} {ledger : Ledger} (call : Call) :
      Reachable medium fs ledger →
      Reachable medium ((call.run fs : Scan Empty _).result medium).1
        (call.track medium fs ledger)

/-- Every open file is sound for the entry that it was opened for. -/
structure Kept (medium : Medium) (fs : Filesystem) (ledger : Ledger) : Prop where
  wellFormed : fs.volume.WellFormed
  sound : ∀ handle file, fs.files.get? handle = some file →
    ∃ entry, ledger handle = some entry ∧
      file.Sound fs.volume medium entry.cluster entry.size

namespace Filesystem

variable {ι κ α : Type} {medium : Medium} {fs : Filesystem}

theorem result_watch (attempt : Attempt ι α) :
    ((fs.watch attempt : Scan κ _).result medium).1 = fs := by
  unfold watch
  simp

theorem result_browse (attempt : Attempt ι Unit) (limit : Option Nat) :
    ((fs.browse attempt limit : Scan κ _).result medium).1 = fs := by
  cases limit with
  | none => exact result_watch attempt
  | some limit =>
    unfold browse
    simp

theorem result_advance (attempt : Attempt κ α) (next : α → Filesystem) :
    (fs.advance attempt next).result medium =
      match attempt.run.result medium with
      | .ok value => (next value, .ok ())
      | .error error => (fs, .error error) := by
  unfold advance
  rw [Scan.bind_eq, Scan.result_bind]
  cases attempt.run.result medium <;> rfl

theorem result_openFile {path : String} {handle : Handle} {next : Filesystem}
    (opened : (fs.openFile path : Attempt ι _).run.result medium = .ok (handle, next)) :
    ∃ entry, (fs.lookupFile path : Attempt ι _).run.result medium = .ok entry ∧
      handle < maxOpenFiles ∧
      next = { fs with files := fs.files.put handle (.atStart entry.cluster entry.size) } := by
  unfold openFile at opened
  simp only [Attempt.result_bind, Attempt.result_ofExcept] at opened
  split at opened
  · rename_i entry found
    split at opened
    · rename_i allocated slotted
      cases opened
      obtain ⟨inside, -, placed⟩ := HandleTable.alloc_eq_ok _ slotted
      exact ⟨entry, found, inside, congrArg (Filesystem.mk _ _) placed⟩
    · cases opened
  · cases opened

/-- A read from a sound file answers what its start and its size determine, and keeps it sound. -/
theorem readAt_eq_readOn {handle : Handle} {file : OpenFile} {start size : UInt32}
    (isOpen : fs.files.get? handle = some file) (sound : file.Sound fs.volume medium start size)
    (offset limit : Nat) :
    let reading := fs.readAt handle offset limit
    (∃ next, (reading.result medium).1 = { fs with files := fs.files.put handle next } ∧
      next.Sound fs.volume medium start size) ∧
    (reading.itemsOn medium, (reading.result medium).2) =
      OpenFile.readOn fs.volume medium start size offset limit := by
  obtain ⟨kept, answered⟩ := OpenFile.read_eq_readOn sound offset limit
  unfold readAt
  rw [(HandleTable.get_eq_ok_iff _).mpr isOpen]
  simp only [Scan.bind_eq, Scan.result_bind, Scan.itemsOn_bind]
  exact ⟨⟨_, rfl, kept⟩, (congrArg (·, _) (List.append_nil _)).trans answered⟩

theorem readInto_eq_readOn {handle : Handle} {file : OpenFile} {start size : UInt32}
    (isOpen : fs.files.get? handle = some file) (sound : file.Sound fs.volume medium start size)
    (offset : Nat) (buffer : List UInt8) :
    let reading := (fs.readInto handle offset buffer : Scan κ _).result medium
    let expected := OpenFile.readOn fs.volume medium start size offset buffer.length
    reading.1 = overlay buffer expected.1.flatten ∧ reading.2.2 = expected.2 := by
  have answered := (readAt_eq_readOn isOpen sound offset buffer.length).2
  unfold readInto
  rw [Scan.result_fill]
  dsimp only at answered ⊢
  rw [← answered]
  exact ⟨rfl, rfl⟩

theorem readInto_of_sound {handle : Handle} {file : OpenFile} {start size : UInt32}
    (isOpen : fs.files.get? handle = some file) (sound : file.Sound fs.volume medium start size)
    (offset : Nat) (buffer : List UInt8) :
    ∃ next, ((fs.readInto handle offset buffer : Scan κ _).result medium).2.1 =
        { fs with files := fs.files.put handle next } ∧
      next.Sound fs.volume medium start size := by
  obtain ⟨next, moved, kept⟩ := (readAt_eq_readOn isOpen sound offset buffer.length).1
  refine ⟨next, ?_, kept⟩
  unfold readInto
  rw [Scan.result_fill]
  exact moved

theorem readInto_afresh (medium : Medium) (fs : Filesystem) (table : HandleTable) {handle : Handle}
    (inside : handle < maxOpenFiles) (start size : UInt32) (offset : Nat) (buffer : List UInt8) :
    let opened : Filesystem := { fs with files := table.put handle (.atStart start size) }
    let reading := (opened.readInto handle offset buffer : Scan κ _).result medium
    let expected := OpenFile.readOn fs.volume medium start size offset buffer.length
    reading.1 = overlay buffer expected.1.flatten ∧ reading.2.2 = expected.2 := by
  intro opened
  have isOpen : opened.files.get? handle = some (.atStart start size) :=
    HandleTable.get?_put_self table _ inside
  exact readInto_eq_readOn isOpen (OpenFile.sound_atStart fs.volume medium start size) offset buffer

end Filesystem

namespace Kept

variable {medium : Medium} {fs : Filesystem} {ledger : Ledger}

theorem fresh {mountPoint : String} (mounted : fs.Fresh mountPoint) : Kept medium fs .empty := by
  refine ⟨mounted.wellFormed, ?_⟩
  intro handle file found
  rw [mounted.closed handle] at found
  cases found

theorem put (kept : Kept medium fs ledger) {handle : Handle} {entry : Entry} {file : OpenFile}
    (inside : handle < maxOpenFiles)
    (sound : file.Sound fs.volume medium entry.cluster entry.size) :
    Kept medium { fs with files := fs.files.put handle file }
      (ledger.set handle (some entry)) := by
  refine ⟨kept.wellFormed, ?_⟩
  intro other opened found
  obtain ⟨rfl, rfl⟩ | ⟨apart, held⟩ := HandleTable.get?_put_eq_some fs.files inside found
  · exact ⟨entry, Ledger.set_self _ _ _, sound⟩
  · rw [Ledger.set_of_ne _ _ apart]
    exact kept.sound other opened held

theorem openFile (kept : Kept medium fs ledger) (path : String) :
    Kept medium ((Call.openFile path |>.run fs : Scan Empty _).result medium).1
      (Call.track medium fs ledger (.openFile path)) := by
  rw [Call.run, Call.track, Filesystem.result_advance]
  cases opened : (fs.openFile path : Attempt Empty _).run.result medium with
  | error error =>
    cases (fs.lookupFile path : Attempt Empty _).run.result medium <;> exact kept
  | ok slot =>
    obtain ⟨handle, next⟩ := slot
    obtain ⟨entry, found, inside, rfl⟩ := Filesystem.result_openFile opened
    rw [found]
    exact kept.put inside (OpenFile.sound_atStart _ _ _ _)

theorem closeFile (kept : Kept medium fs ledger) (handle : Handle) :
    Kept medium (fs.closeFile handle) (ledger.set handle none) := by
  refine ⟨kept.wellFormed, ?_⟩
  intro other file found
  obtain ⟨apart, held⟩ := HandleTable.get?_close_eq_some fs.files found
  rw [Ledger.set_of_ne _ _ apart]
  exact kept.sound other file held

theorem changeDirectory (kept : Kept medium fs ledger) (path : String) :
    Kept medium ((Call.changeDirectory path |>.run fs : Scan Empty _).result medium).1 ledger := by
  rw [Call.run, Filesystem.result_advance]
  cases moved : (fs.changeDirectory path : Attempt Empty _).run.result medium with
  | error error => exact kept
  | ok next =>
    unfold Filesystem.changeDirectory at moved
    simp only [Attempt.result_bind, Attempt.result_note, Attempt.result_pure] at moved
    split at moved
    · cases moved
      exact ⟨kept.wellFormed, kept.sound⟩
    · cases moved

theorem readAt (kept : Kept medium fs ledger) (handle : Handle) (offset limit : Nat) :
    Kept medium ((Call.readAt handle offset limit |>.run fs : Scan Empty _).result medium).1
      ledger := by
  have state : ((Call.readAt handle offset limit |>.run fs : Scan Empty _).result medium).1 =
      ((fs.readAt handle offset limit).result medium).1 := by
    rw [Call.run, Scan.bind_eq, Scan.result_bind, Scan.result_toList]
    rfl
  rw [state]
  cases isOpen : fs.files.get? handle with
  | none =>
    unfold Filesystem.readAt HandleTable.get
    rw [isOpen]
    exact kept
  | some file =>
    obtain ⟨entry, recorded, sound⟩ := kept.sound handle file isOpen
    obtain ⟨next, moved, still⟩ := (Filesystem.readAt_eq_readOn isOpen sound offset limit).1
    rw [moved, ← Ledger.set_eq_self recorded]
    exact kept.put (HandleTable.lt_of_get? _ isOpen) still

/-- One call keeps every open file sound. -/
theorem run (kept : Kept medium fs ledger) (call : Call) :
    Kept medium ((call.run fs : Scan Empty _).result medium).1 (call.track medium fs ledger) := by
  cases call with
  | list limit =>
    rw [Call.run, Filesystem.result_browse]
    exact kept
  | directory cluster limit =>
    rw [Call.run, Filesystem.result_browse]
    exact kept
  | chain start limit =>
    rw [Call.run, Filesystem.result_browse]
    exact kept
  | changeDirectory path => exact kept.changeDirectory path
  | openFile path => exact kept.openFile path
  | closeFile handle => exact kept.closeFile handle
  | readAt handle offset limit => exact kept.readAt handle offset limit
  | _ =>
    rw [Call.run, Filesystem.result_watch]
    exact kept

end Kept

theorem Filesystem.fresh_of_mount {medium : Medium} {files : HandleTable} {start : UInt32}
    {mountPoint : String} {fs : Filesystem}
    (answered : (((mount start mountPoint).upon files : Scan Empty _).result medium).1 = .ok fs) :
    fs.Fresh mountPoint :=
  ((MountRequest.volume start mountPoint).upon_gives files).result medium fs answered

theorem Reachable.kept {medium : Medium} {fs : Filesystem} {ledger : Ledger}
    (reachable : Reachable medium fs ledger) : Kept medium fs ledger := by
  induction reachable with
  | mounted answered => exact .fresh (Filesystem.fresh_of_mount answered)
  | called call _ ih => exact ih.run call

theorem OpenFile.readOn_eq_ok {volume : Volume} {medium : Medium} (wellFormed : volume.WellFormed)
    {start size : UInt32} {offset : Nat} {buffer : List UInt8} {count : Nat}
    (wanted : buffer ≠ [])
    (succeeded : (readOn volume medium start size offset buffer.length).2 = .ok count) :
    count = min buffer.length (size.toNat - offset) ∧
      ∀ place < count, ∃ byte, volume.byteOn medium start (offset + place) = some byte ∧
        (overlay buffer (readOn volume medium start size offset
          buffer.length).1.flatten)[place]? = some byte := by
  have nonempty : buffer.length ≠ 0 := by
    intro zero
    exact wanted (List.length_eq_zero_iff.mp zero)
  unfold readOn at succeeded ⊢
  rw [if_neg nonempty] at succeeded ⊢
  split at succeeded
  · cases succeeded
  · rename_i before
    rw [if_neg before]
    have ordered : offset < min size.toNat (offset + buffer.length) := by omega
    have handsOut :=
      Volume.handsOut_cover medium start wellFormed.clusterBytes wellFormed.bytesPerCluster_pos
        ordered
    dsimp only at succeeded ⊢
    generalize volume.spansOn medium start (Span.cover volume.bytesPerCluster.toNat offset
      (min size.toNat (offset + buffer.length))) = reading at *
    obtain ⟨parts, ending⟩ := reading
    cases ending with
    | error error => cases succeeded
    | ok =>
      have counted : min size.toNat (offset + buffer.length) - offset = count :=
        Except.ok.inj succeeded
      refine ⟨by omega, ?_⟩
      intro place inside
      obtain ⟨byte, onDevice, handed⟩ := handsOut.getElem?_flatten (counted ▸ inside)
      have here := (List.getElem?_eq_some_iff.mp handed).1
      refine ⟨byte, onDevice, ?_⟩
      rw [overlay, List.getElem?_append_left here]
      exact handed

/-- In every state that a run of calls reaches, an open handle reads as one that was opened just
now for the same entry, and a read that succeeds gives the bytes of the entry's file. -/
theorem reads_forget_history {medium : Medium} {fs : Filesystem} {ledger : Ledger}
    (reachable : Reachable medium fs ledger) {handle : Handle}
    (isOpen : (fs.files.get? handle).isSome = true) (offset : Nat) (buffer : List UInt8) :
    let reading := (fs.readInto handle offset buffer : Scan Empty _).result medium
    ∃ entry, ledger handle = some entry ∧
      (∀ (table : HandleTable) fresh opened,
        table.alloc entry.cluster entry.size = .ok (fresh, opened) →
        let afresh := (Filesystem.readInto { fs with files := opened } fresh offset buffer :
          Scan Empty _).result medium
        reading.1 = afresh.1 ∧ reading.2.2 = afresh.2.2) ∧
      ∀ count, buffer ≠ [] → reading.2.2 = .ok count →
        count = min buffer.length (entry.size.toNat - offset) ∧
          ∀ place < count, ∃ byte,
            fs.volume.byteOn medium entry.cluster (offset + place) = some byte ∧
              reading.1[place]? = some byte := by
  obtain ⟨file, found⟩ := Option.isSome_iff_exists.mp isOpen
  obtain ⟨entry, recorded, sound⟩ := reachable.kept.sound handle file found
  obtain ⟨filled, answered⟩ := Filesystem.readInto_eq_readOn (κ := Empty) found sound offset buffer
  refine ⟨entry, recorded, fun table fresh opened allocated => ?_, fun count wanted succeeded => ?_⟩
  · obtain ⟨inside, -, rfl⟩ := HandleTable.alloc_eq_ok _ allocated
    have expected := Filesystem.readInto_afresh (κ := Empty) medium fs table inside
      entry.cluster entry.size offset buffer
    exact ⟨filled.trans expected.1.symm, answered.trans expected.2.symm⟩
  · rw [answered] at succeeded
    rw [filled]
    exact OpenFile.readOn_eq_ok reachable.kept.wellFormed wanted succeeded

/-- The small volume can be mounted from every device that starts with its boot sector. -/
theorem Reachable.small {medium : Medium} {mountPoint : String}
    (boot : medium 0 = .ok Volume.smallBoot) (accepted : Path.checkMountPoint mountPoint = .ok ())
    (fits : mountPoint.utf8ByteSize ≤ Path.maxBytes) :
    Reachable medium ⟨.small, ⟨2, mountPoint, []⟩, .empty⟩ .empty := by
  have root : Location.root 2 mountPoint = .ok ⟨2, mountPoint, []⟩ := if_neg (Nat.not_lt_of_le fits)
  have mounted := Filesystem.result_mount (ι := Empty) boot Volume.ofHeader_small accepted root .empty
  exact .mounted (congrArg Prod.fst mounted)

/-- A device with the small volume. Its root directory holds the file `a.txt` of 600 bytes, with
ones in its first cluster and twos in its second. -/
def Volume.smallMedium : Medium := fun lba =>
  match lba.toNat with
  | 0 => .ok smallBoot
  | 1 => .ok (.ofList 512 [0xF8, 0xFF, 0xFF, 0x0F, 0xFF, 0xFF, 0xFF, 0x0F, 0xFF, 0xFF, 0xFF, 0x0F,
      4, 0, 0, 0, 0xFF, 0xFF, 0xFF, 0x0F])
  | 2 => .ok (.ofList 512 [0x41, 0x20, 0x20, 0x20, 0x20, 0x20, 0x20, 0x20, 0x54, 0x58, 0x54, 0x20,
      0, 0, 0, 0, 0, 0, 0, 0, 0, 0, 0, 0, 0, 0, 3, 0, 0x58, 2, 0, 0])
  | 3 => .ok (.replicate 512 1)
  | 4 => .ok (.replicate 512 2)
  | _ => .error .readError

/-- The file was opened and read in its second cluster, and is then read back across the border
of its clusters. -/
theorem reads_forget_history_small :
    let fs : Filesystem := ⟨.small, ⟨2, "/", []⟩, .empty⟩
    let opened := (((Call.openFile "a.txt").run fs : Scan Empty _).result Volume.smallMedium).1
    let visited := (((Call.readAt 0 512 9).run opened : Scan Empty _).result Volume.smallMedium).1
    let reading := (visited.readInto 0 510 [7, 7, 7, 7] : Scan Empty _).result Volume.smallMedium
    ∃ ledger entry,
      Reachable Volume.smallMedium visited ledger ∧
      (visited.files.get? 0).isSome = true ∧
      ledger 0 = some entry ∧
      (∀ (table : HandleTable) fresh opened,
        table.alloc entry.cluster entry.size = .ok (fresh, opened) →
        let afresh := (Filesystem.readInto { visited with files := opened } fresh 510
          [7, 7, 7, 7] : Scan Empty _).result Volume.smallMedium
        reading.1 = afresh.1 ∧ reading.2.2 = afresh.2.2) ∧
      reading.2.2 = .ok 4 ∧
      4 = min 4 (entry.size.toNat - 510) ∧
      ∀ place < 4, ∃ byte,
        visited.volume.byteOn Volume.smallMedium entry.cluster (510 + place) = some byte ∧
          reading.1[place]? = some byte := by
  intro fs opened visited reading
  have mounted : Reachable Volume.smallMedium fs .empty :=
    .small rfl rfl (by decide)
  have reachable : ∃ ledger, Reachable Volume.smallMedium visited ledger :=
    ⟨_, (mounted.called (.openFile "a.txt")).called (.readAt 0 512 9)⟩
  have isOpen : (visited.files.get? 0).isSome = true := by decide +kernel
  have counted : reading.2.2.toOption = some 4 := by decide +kernel
  -- The state itself is not needed any more, and evaluating it is slow.
  clear_value visited
  have answered : reading.2.2 = .ok 4 := eq_ok_of_toOption counted
  obtain ⟨ledger, reachable⟩ := reachable
  obtain ⟨entry, recorded, afresh, bytes⟩ := reads_forget_history reachable isOpen 510 [7, 7, 7, 7]
  obtain ⟨within, placed⟩ := bytes 4 (List.cons_ne_nil _ _) answered
  exact ⟨ledger, entry, reachable, isOpen, recorded, afresh, answered, within, placed⟩

end Fat32
