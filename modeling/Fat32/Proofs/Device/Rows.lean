import Fat32.Scan.Basic
import Fat32.Scan.Lemmas

/-!
Reads of sectors in a row. The device may change with every read, so a sector in the middle is read
from the device behind those in front of it (`answerAt`). A row is read up to its first fault, which
is an address of more than 32 bits or an error of the device.
-/

namespace Fat32

abbrev Exchange := UInt32 × Except DeviceError Sector

namespace Scan

variable {α β δ : Type} [Device δ]

/-- The requests that a scan makes, each with the answer of the device in its state by then. -/
def exchanges : Scan Empty α → δ → List Exchange
  | done _, _ => []
  | item value _, _ => value.elim
  | read lba next, device =>
    let reply := Device.readSector device lba
    (lba, reply.answer) :: (next reply.answer).exchanges reply.device
  | report _ rest, device => rest.exchanges device

theorem runOn_bind (scan : Scan Empty α) (f : α → Scan Empty β) (device : δ)
    (diagnostics : Array Diagnostic) :
    (scan.bind f).runOn device diagnostics =
      let first := scan.runOn device diagnostics
      (f first.value).runOn first.device first.diagnostics := by
  induction scan generalizing device diagnostics with
  | done value => rfl
  | item value => exact value.elim
  | read lba next ih => exact ih _ _ _
  | report diagnostic rest ih => exact ih _ _

theorem exchanges_bind (scan : Scan Empty α) (f : α → Scan Empty β) (device : δ)
    (diagnostics : Array Diagnostic) :
    (scan.bind f).exchanges device =
      let first := scan.runOn device diagnostics
      scan.exchanges device ++ (f first.value).exchanges first.device := by
  induction scan generalizing device diagnostics with
  | done value => rfl
  | item value => exact value.elim
  | read lba next ih => exact congrArg (_ :: ·) (ih _ _ _)
  | report diagnostic rest ih => exact ih _ _

end Scan

namespace Device

variable {δ : Type} [Device δ]

def behind (device : δ) (block : Nat) : Nat → δ
  | 0 => device
  | count + 1 => behind (readSector device (.ofNat block)).device (block + 1) count

/-- The answer to the read of the sector in place `index` of a row, behind those in front of it. -/
def answerAt (device : δ) (block index : Nat) : Except DeviceError Sector :=
  (readSector (behind device block index) (.ofNat (block + index))).answer

def row (device : δ) (block count : Nat) : List Exchange :=
  (List.range count).map fun index => (.ofNat (block + index), answerAt device block index)

theorem answerAt_succ (device : δ) (block index : Nat) :
    answerAt device block (index + 1) =
      answerAt (readSector device (.ofNat block)).device (block + 1) index := by
  unfold answerAt
  rw [Nat.add_right_comm block 1 index]
  rfl

theorem row_zero (device : δ) (block : Nat) : row device block 0 = [] := rfl

theorem row_succ (device : δ) (block count : Nat) :
    row device block (count + 1) =
      (.ofNat block, (readSector device (.ofNat block)).answer) ::
        row (readSector device (.ofNat block)).device (block + 1) count := by
  unfold row
  rw [List.range_succ_eq_map, List.map_cons, List.map_map]
  refine congrArg _ (List.map_congr_left fun index _ => ?_)
  simp only [Function.comp, answerAt_succ, Nat.succ_eq_add_one, Nat.add_right_comm block 1 index,
    Nat.add_assoc]

def Loads (device : δ) (block : Nat) (sectors : List Sector) : Prop :=
  ∀ index (within : index < sectors.length),
    block + index < Word.limit ∧ answerAt device block index = .ok sectors[index]

theorem Loads.nil (device : δ) (block : Nat) : Loads device block [] := nofun

theorem Loads.cons {device : δ} {block : Nat} {sector : Sector} {sectors : List Sector}
    (inside : block < Word.limit) (read : (readSector device (.ofNat block)).answer = .ok sector)
    (rest : Loads (readSector device (.ofNat block)).device (block + 1) sectors) :
    Loads device block (sector :: sectors) := by
  intro index within
  cases index with
  | zero => exact ⟨inside, read⟩
  | succ index =>
    obtain ⟨inside, read⟩ := rest index (Nat.lt_of_succ_lt_succ within)
    exact ⟨by omega, (answerAt_succ device block index).trans read⟩

/-- How a read of `count` sectors in a row ends behind `loaded` of them, and how many were asked
for by then. -/
inductive Ends (device : δ) (block count : Nat) :
    (loaded asked : Nat) → Except DeviceError Unit → Prop
  | full : Ends device block count count count (.ok ())
  | outside {loaded} : loaded < count → Word.limit ≤ block + loaded →
      Ends device block count loaded loaded (.error .invalidAddress)
  | refused {loaded cause} : loaded < count → block + loaded < Word.limit →
      answerAt device block loaded = .error cause →
      Ends device block count loaded (loaded + 1) (.error cause)

theorem Ends.succ {device : δ} {block count loaded asked : Nat} {result : Except DeviceError Unit}
    (ends : Ends (readSector device (.ofNat block)).device (block + 1) count loaded asked result) :
    Ends device block (count + 1) (loaded + 1) (asked + 1) result := by
  cases ends with
  | full => exact .full
  | outside short far => exact .outside (by omega) (by omega)
  | refused short near refused =>
    exact .refused (by omega) (by omega) ((answerAt_succ device block loaded).trans refused)

end Device

namespace Scan

variable {δ : Type} [Device δ]

open Device

/-- The loop reads a row up to its first fault. The induction is on the number of sectors, and the
device it goes on with is the one behind the first read. -/
theorem collect_sectors_runOn (device : δ) (block count : Nat) (taken : List Sector)
    (diagnostics : Array Diagnostic) :
    let scan : Scan Empty _ := (Scan.sectors block count).collect taken
    ∃ loaded asked result,
      (scan.runOn device diagnostics).value = (taken.reverse ++ loaded, result) ∧
      scan.exchanges device = row device block asked ∧
      Loads device block loaded ∧ Ends device block count loaded.length asked result := by
  induction count generalizing device block taken diagnostics with
  | zero =>
    refine ⟨[], 0, .ok (), ?_, rfl, .nil device block, .full⟩
    rw [List.append_nil]
    rfl
  | succ count ih =>
    unfold Scan.sectors
    by_cases inside : block < Word.limit
    · rw [if_pos inside]
      cases read : (readSector device (.ofNat block)).answer with
      | error cause =>
        refine ⟨[], 1, .error cause, ?_, ?_, .nil device block,
          .refused (Nat.zero_lt_succ _) inside read⟩
        · simp [collect, runOn, read]
        · simp [collect, exchanges, read, row_succ, row_zero]
      | ok sector =>
        obtain ⟨loaded, asked, result, value, exchanged, loads, ends⟩ :=
          ih (readSector device (.ofNat block)).device (block + 1) (sector :: taken)
            (diagnostics.appendList (readSector device (.ofNat block)).diagnostics)
        refine ⟨sector :: loaded, asked + 1, result, ?_, ?_, .cons inside read loads, ends.succ⟩
        · simpa [collect, runOn, read] using value
        · simp [collect, exchanges, read, exchanged, row_succ]
    · rw [if_neg inside]
      refine ⟨[], 0, .error .invalidAddress, ?_, rfl, .nil device block,
        .outside (Nat.zero_lt_succ _) (Nat.le_of_not_lt inside)⟩
      rw [List.append_nil]
      rfl

theorem fillSectors_runOn (device : δ) (block : Nat) (buffers : List Sector)
    (diagnostics : Array Diagnostic) :
    let scan : Scan Empty _ := Scan.fillSectors block buffers
    ∃ loaded asked result,
      (scan.runOn device diagnostics).value = (overlay buffers loaded, result) ∧
      scan.exchanges device = row device block asked ∧
      Loads device block loaded ∧ Ends device block buffers.length loaded.length asked result := by
  intro scan
  obtain ⟨loaded, asked, result, value, exchanged, loads, ends⟩ :=
    collect_sectors_runOn device block buffers.length [] diagnostics
  refine ⟨loaded, asked, result, ?_, ?_, loads, ends⟩
  · unfold scan fillSectors toList
    simp only [bind_eq, runOn_bind, value]
    rfl
  · unfold scan fillSectors toList
    simp only [bind_eq, exchanges_bind _ _ _ diagnostics, exchanged, value]
    exact List.append_nil _

end Scan

end Fat32
