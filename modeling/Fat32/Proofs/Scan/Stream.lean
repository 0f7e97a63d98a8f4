import Fat32.Proofs.Scan.Views

/-!
An attempt as a stream on a fixed device: a consumer takes the items one at a
time, then the error that ends them, and nothing from then on (`nth_eq`).
-/

namespace Fat32

/-- Items, and behind them the error that ended them. -/
def withEnding {ι : Type} (items : List ι) (ending : Except Error Unit) : List (Except Error ι) :=
  items.map .ok ++
    match ending with
    | .ok () => []
    | .error error => [.error error]

namespace Scan

variable {ι : Type} (medium : Medium)

/-- What is handed out next, and the stream behind it. An error is handed out once. -/
def next : Scan ι (Except Error Unit) →
    Option (Except Error ι) × Scan ι (Except Error Unit)
  | done (.ok ()) => (none, done (.ok ()))
  | done (.error error) => (some (.error error), done (.ok ()))
  | item value rest => (some (.ok value), rest)
  | read lba answered => next (answered (medium lba))
  | report _ rest => next rest

/-- What is handed out after `count` others. -/
def nth (scan : Scan ι (Except Error Unit)) : Nat → Option (Except Error ι)
  | 0 => (scan.next medium).1
  | count + 1 => nth (scan.next medium).2 count

theorem next_spec (scan : Scan ι (Except Error Unit)) :
    match withEnding (scan.itemsOn medium) (scan.result medium) with
    | [] => (scan.next medium).1 = none ∧
        withEnding ((scan.next medium).2.itemsOn medium) ((scan.next medium).2.result medium) = []
    | first :: rest => (scan.next medium).1 = some first ∧
        withEnding ((scan.next medium).2.itemsOn medium) ((scan.next medium).2.result medium) =
          rest := by
  induction scan with
  | done ending => cases ending <;> exact ⟨rfl, rfl⟩
  | item value rest ih => exact ⟨rfl, rfl⟩
  | read lba answered ih => exact ih (medium lba)
  | report diagnostic rest ih => exact ih

theorem nth_eq (scan : Scan ι (Except Error Unit)) (count : Nat) :
    scan.nth medium count =
      (withEnding (scan.itemsOn medium) (scan.result medium))[count]? := by
  induction count generalizing scan with
  | zero =>
    have spec := next_spec medium scan
    split at spec <;> rename_i handed
    · rw [handed]
      exact spec.1
    · rw [handed]
      exact spec.1
  | succ count ih =>
    have spec := next_spec medium scan
    rw [nth, ih]
    split at spec <;> rename_i handed
    · rw [handed, spec.2]
      rfl
    · rw [handed, spec.2]
      rfl

/-- The items come first, the error if there is one behind them, and nothing behind that. -/
theorem nth_spec (scan : Scan ι (Except Error Unit)) :
    (∀ place < (scan.itemsOn medium).length, ∃ value, scan.nth medium place = some (.ok value)) ∧
      scan.nth medium (scan.itemsOn medium).length =
        (match scan.result medium with
        | .ok () => none
        | .error error => some (.error error)) ∧
      ∀ place > (scan.itemsOn medium).length, scan.nth medium place = none := by
  simp only [nth_eq, withEnding]
  refine ⟨fun place before => ⟨(scan.itemsOn medium)[place], ?_⟩, ?_, fun place behind => ?_⟩
  · rw [List.getElem?_append_left (by simpa using before)]
    simp [before]
  · rw [List.getElem?_append_right (by simp)]
    cases scan.result medium <;> simp
  · apply List.getElem?_eq_none
    cases scan.result medium <;> simp <;> omega

end Scan

end Fat32
