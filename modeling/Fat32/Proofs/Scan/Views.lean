import Fat32.Scan.Lemmas

/-!
The views of a scan on a fixed device, constructor by constructor, and the runs
of sectors that a device is asked for.
-/

namespace Fat32

theorem eq_ok_of_toOption {ε α : Type} {answer : Except ε α} {value : α}
    (succeeded : answer.toOption = some value) : answer = .ok value := by
  cases answer with
  | error error => cases succeeded
  | ok other =>
    cases succeeded
    rfl

namespace Scan

variable {ι α : Type} (medium : Medium)

@[simp] theorem result_done (value : α) : (done value : Scan ι α).result medium = value := rfl

@[simp] theorem result_item (value : ι) (rest : Scan ι α) :
    (item value rest).result medium = rest.result medium := rfl

@[simp] theorem result_read (lba : UInt32) (next : Except DeviceError Sector → Scan ι α) :
    (read lba next).result medium = (next (medium lba)).result medium := rfl

@[simp] theorem result_report (diagnostic : Diagnostic) (rest : Scan ι α) :
    (report diagnostic rest).result medium = rest.result medium := rfl

@[simp] theorem itemsOn_done (value : α) : (done value : Scan ι α).itemsOn medium = [] := rfl

@[simp] theorem itemsOn_item (value : ι) (rest : Scan ι α) :
    (item value rest).itemsOn medium = value :: rest.itemsOn medium := rfl

@[simp] theorem itemsOn_read (lba : UInt32) (next : Except DeviceError Sector → Scan ι α) :
    (read lba next).itemsOn medium = (next (medium lba)).itemsOn medium := rfl

@[simp] theorem itemsOn_report (diagnostic : Diagnostic) (rest : Scan ι α) :
    (report diagnostic rest).itemsOn medium = rest.itemsOn medium := rfl

@[simp] theorem readsOn_done (value : α) : (done value : Scan ι α).readsOn medium = [] := rfl

@[simp] theorem readsOn_item (value : ι) (rest : Scan ι α) :
    (item value rest).readsOn medium = rest.readsOn medium := rfl

@[simp] theorem readsOn_read (lba : UInt32) (next : Except DeviceError Sector → Scan ι α) :
    (read lba next).readsOn medium = lba :: (next (medium lba)).readsOn medium := rfl

@[simp] theorem readsOn_report (diagnostic : Diagnostic) (rest : Scan ι α) :
    (report diagnostic rest).readsOn medium = rest.readsOn medium := rfl

@[simp] theorem readsOn_fill {κ : Type} (buffer : List UInt8) (scan : Scan (List UInt8) α) :
    (scan.fill buffer : Scan κ _).readsOn medium = scan.readsOn medium := by
  rw [fill, bind_eq, readsOn_bind, readsOn_toList]
  exact List.append_nil _

@[simp] theorem itemsOn_collect {κ : Type} (scan : Scan ι α) (taken : List ι) :
    (scan.collect taken : Scan κ _).itemsOn medium = [] := by
  induction scan generalizing taken with
  | done value => rfl
  | item value rest ih => exact ih (value :: taken)
  | read lba next ih => exact ih (medium lba) taken
  | report diagnostic rest ih => exact ih taken

@[simp] theorem itemsOn_toList {κ : Type} (scan : Scan ι α) :
    (scan.toList : Scan κ _).itemsOn medium = [] := itemsOn_collect medium scan []

theorem itemsOn_sectors {block count : Nat}
    (succeeded : (sectors block count).result medium = .ok ()) :
    ((sectors block count).itemsOn medium).length = count ∧
      ∀ index < count, ∃ sector, medium (.ofNat (block + index)) = .ok sector ∧
        ((sectors block count).itemsOn medium)[index]? = some sector := by
  induction count generalizing block with
  | zero => exact ⟨rfl, fun index impossible => by omega⟩
  | succ count ih =>
    unfold sectors at succeeded ⊢
    split at succeeded
    · rename_i fits
      rw [if_pos fits, itemsOn_read]
      rw [result_read] at succeeded
      cases first : medium (.ofNat block) with
      | error cause =>
        rw [first] at succeeded
        cases succeeded
      | ok sector =>
        rw [first] at succeeded
        obtain ⟨length, rest⟩ := ih succeeded
        refine ⟨congrArg (· + 1) length, ?_⟩
        intro index inRange
        cases index with
        | zero => exact ⟨sector, first, rfl⟩
        | succ index =>
          have found := rest index (by omega)
          rwa [Nat.add_assoc, Nat.add_comm 1] at found
    · cases succeeded

end Scan

namespace Attempt

variable {ι α β : Type} (medium : Medium)

@[simp] theorem itemsOn_bind (attempt : Attempt ι α) (f : α → Attempt ι β) :
    (attempt >>= f).run.itemsOn medium =
      attempt.run.itemsOn medium ++
        match attempt.run.result medium with
        | .ok value => (f value).run.itemsOn medium
        | .error _ => [] := by
  rw [ExceptT.run_bind, Scan.bind_eq, Scan.itemsOn_bind]
  cases attempt.run.result medium <;> rfl

@[simp] theorem itemsOn_pure (value : α) :
    (pure value : Attempt ι α).run.itemsOn medium = [] := rfl

@[simp] theorem itemsOn_throw (error : Error) :
    (throw error : Attempt ι α).run.itemsOn medium = [] := rfl

@[simp] theorem itemsOn_sector (lba : UInt32) :
    (Attempt.sector lba : Attempt ι Sector).run.itemsOn medium = [] := rfl

@[simp] theorem itemsOn_failWith (diagnostic : Diagnostic) (error : Error) :
    (Attempt.failWith diagnostic error : Attempt ι α).run.itemsOn medium = [] := rfl

@[simp] theorem itemsOn_emit (value : ι) :
    (Attempt.emit value).run.itemsOn medium = [value] := rfl

@[simp] theorem readsOn_bind (attempt : Attempt ι α) (f : α → Attempt ι β) :
    (attempt >>= f).run.readsOn medium =
      attempt.run.readsOn medium ++
        match attempt.run.result medium with
        | .ok value => (f value).run.readsOn medium
        | .error _ => [] := by
  rw [ExceptT.run_bind, Scan.bind_eq, Scan.readsOn_bind]
  cases attempt.run.result medium <;> rfl

@[simp] theorem readsOn_pure (value : α) :
    (pure value : Attempt ι α).run.readsOn medium = [] := rfl

@[simp] theorem readsOn_throw (error : Error) :
    (throw error : Attempt ι α).run.readsOn medium = [] := rfl

@[simp] theorem readsOn_emit (value : ι) : (Attempt.emit value).run.readsOn medium = [] := rfl

@[simp] theorem readsOn_failWith (diagnostic : Diagnostic) (error : Error) :
    (Attempt.failWith diagnostic error : Attempt ι α).run.readsOn medium = [] := rfl

@[simp] theorem readsOn_sector (lba : UInt32) :
    (Attempt.sector lba : Attempt ι Sector).run.readsOn medium = [lba] := rfl

@[simp] theorem result_sector (lba : UInt32) :
    (Attempt.sector lba : Attempt ι Sector).run.result medium = (medium lba).mapError .device :=
  rfl

theorem result_sector_of_ok {lba : UInt32} {sector : Sector} (answered : medium lba = .ok sector) :
    (Attempt.sector lba : Attempt ι Sector).run.result medium = .ok sector := by
  rw [result_sector, answered]
  rfl

theorem result_sector_of_error {lba : UInt32} {cause : DeviceError}
    (answered : medium lba = .error cause) :
    (Attempt.sector lba : Attempt ι Sector).run.result medium = .error (.device cause) := by
  rw [result_sector, answered]
  rfl

@[simp] theorem result_failWith (diagnostic : Diagnostic) (error : Error) :
    (Attempt.failWith diagnostic error : Attempt ι α).run.result medium = .error error := rfl

@[simp] theorem result_note (diagnostic : Diagnostic) :
    (Attempt.note diagnostic : Attempt ι Unit).run.result medium = .ok () := rfl

@[simp] theorem result_ofExcept (result : Except Error α) :
    (Attempt.ofExcept result : Attempt ι α).run.result medium = result := rfl

@[simp] theorem result_emit (value : ι) :
    (Attempt.emit value).run.result medium = .ok () := rfl

section Visit

variable {κ σ ρ : Type} (visitor : σ → ι → Attempt κ (Step σ ρ))

/-- The items that a visitor hands out on the way through a list. -/
def visitItems : List ι → σ → List κ
  | [], _ => []
  | value :: rest, state =>
    (visitor state value).run.itemsOn medium ++
      match (visitor state value).run.result medium with
      | .ok (.more state) => visitItems rest state
      | _ => []

theorem visitItems_eq_nil (silent : ∀ state value, (visitor state value).run.itemsOn medium = [])
    (items : List ι) (state : σ) : visitItems medium visitor items state = [] := by
  induction items generalizing state with
  | nil => rfl
  | cons value rest ih =>
    rw [visitItems, silent, List.nil_append]
    split
    · exact ih _
    · rfl

theorem itemsOn_scanVisit (scan : Scan ι (Except Error Unit)) (state : σ) :
    (scan.visit visitor state).run.itemsOn medium =
      visitItems medium visitor (scan.itemsOn medium) state := by
  induction scan generalizing state with
  | done ending => cases ending <;> rfl
  | item value rest ih =>
    rw [Scan.visit, itemsOn_bind, Scan.itemsOn_item, visitItems]
    cases (visitor state value).run.result medium with
    | error error => rfl
    | ok step =>
      cases step with
      | more next => exact congrArg (_ ++ ·) (ih next)
      | enough result => rfl
  | read lba next ih => exact ih (medium lba) state
  | report diagnostic rest ih => exact ih state

theorem itemsOn_visit (attempt : Attempt ι Unit) (state : σ) :
    (attempt.visit visitor state).run.itemsOn medium =
      visitItems medium visitor (attempt.run.itemsOn medium) state :=
  itemsOn_scanVisit medium visitor attempt.run state

end Visit

end Attempt

end Fat32
