import Fat32.Scan.Attempt
import Fat32.Scan.Basic
import Fat32.Scan.Run

/-!
Scans on a fixed device. A scan followed by another has the trace of the first
and then that of the second (`trace_bind`), collecting the items of a scan
changes nothing but the items (`result_toList`), and a visit is a loop over the
items that the scan hands out (`result_visit`).
-/

namespace Fat32

namespace Scan

variable {ι κ α β : Type} (medium : Medium)

@[simp] theorem bind_eq (scan : Scan ι α) (f : α → Scan ι β) : (scan >>= f) = scan.bind f := rfl

@[simp] theorem pure_eq (value : α) : (pure value : Scan ι α) = done value := rfl

@[simp] theorem result_bind (scan : Scan ι α) (f : α → Scan ι β) :
    (scan.bind f).result medium = (f (scan.result medium)).result medium := by
  induction scan with
  | done value => rfl
  | item value rest ih => exact ih
  | read lba next ih => exact ih (medium lba)
  | report diagnostic rest ih => exact ih

@[simp] theorem trace_bind (scan : Scan ι α) (f : α → Scan ι β) :
    (scan.bind f).trace medium =
      scan.trace medium ++ (f (scan.result medium)).trace medium := by
  induction scan with
  | done value => rfl
  | item value rest ih => simp [Scan.bind, trace, result, ih]
  | read lba next ih => simp [Scan.bind, trace, result, ih]
  | report diagnostic rest ih => simp [Scan.bind, trace, result, ih]

@[simp] theorem itemsOn_bind (scan : Scan ι α) (f : α → Scan ι β) :
    (scan.bind f).itemsOn medium =
      scan.itemsOn medium ++ (f (scan.result medium)).itemsOn medium := by
  simp [itemsOn]

@[simp] theorem readsOn_bind (scan : Scan ι α) (f : α → Scan ι β) :
    (scan.bind f).readsOn medium =
      scan.readsOn medium ++ (f (scan.result medium)).readsOn medium := by
  simp [readsOn]

@[simp] theorem reportsOn_bind (scan : Scan ι α) (f : α → Scan ι β) :
    (scan.bind f).reportsOn medium =
      scan.reportsOn medium ++ (f (scan.result medium)).reportsOn medium := by
  simp [reportsOn]

theorem result_collect (scan : Scan ι α) (taken : List ι) :
    (scan.collect taken : Scan κ _).result medium =
      (taken.reverse ++ scan.itemsOn medium, scan.result medium) := by
  induction scan generalizing taken with
  | done value => simp [collect, result, itemsOn, trace]
  | item value rest ih => simp [collect, result, ih, itemsOn, trace, Event.item?]
  | read lba next ih => exact ih (medium lba) taken
  | report diagnostic rest ih => exact ih taken

theorem readsOn_collect (scan : Scan ι α) (taken : List ι) :
    (scan.collect taken : Scan κ _).readsOn medium = scan.readsOn medium := by
  induction scan generalizing taken with
  | done value => rfl
  | item value rest ih => exact ih (value :: taken)
  | read lba next ih => exact congrArg (lba :: ·) (ih (medium lba) taken)
  | report diagnostic rest ih => exact ih taken

theorem reportsOn_collect (scan : Scan ι α) (taken : List ι) :
    (scan.collect taken : Scan κ _).reportsOn medium = scan.reportsOn medium := by
  induction scan generalizing taken with
  | done value => rfl
  | item value rest ih => exact ih (value :: taken)
  | read lba next ih => exact ih (medium lba) taken
  | report diagnostic rest ih => exact congrArg (diagnostic :: ·) (ih taken)

@[simp] theorem result_toList (scan : Scan ι α) :
    (scan.toList : Scan κ _).result medium = (scan.itemsOn medium, scan.result medium) :=
  result_collect medium scan []

@[simp] theorem readsOn_toList (scan : Scan ι α) :
    (scan.toList : Scan κ _).readsOn medium = scan.readsOn medium :=
  readsOn_collect medium scan []

@[simp] theorem reportsOn_toList (scan : Scan ι α) :
    (scan.toList : Scan κ _).reportsOn medium = scan.reportsOn medium :=
  reportsOn_collect medium scan []

@[simp] theorem result_fill (buffer : List UInt8) (scan : Scan (List UInt8) α) :
    (scan.fill buffer : Scan ι _).result medium =
      (overlay buffer (scan.itemsOn medium).flatten, scan.result medium) := by
  simp [fill, result]

end Scan

namespace Attempt

variable {ι κ α β σ ρ : Type} (medium : Medium)

@[simp] theorem result_bind (attempt : Attempt ι α) (f : α → Attempt ι β) :
    (attempt >>= f).run.result medium =
      match attempt.run.result medium with
      | .ok value => (f value).run.result medium
      | .error error => .error error := by
  rw [ExceptT.run_bind, Scan.bind_eq, Scan.result_bind]
  cases attempt.run.result medium <;> rfl

@[simp] theorem result_pure (value : α) :
    (pure value : Attempt ι α).run.result medium = .ok value := rfl

@[simp] theorem result_throw (error : Error) :
    (throw error : Attempt ι α).run.result medium = .error error := rfl

/-- A visit of a list of items that ends in a result. -/
def visitList (visitor : σ → ι → Except Error (Step σ ρ)) :
    List ι → Except Error Unit → σ → Except Error (Step σ ρ)
  | [], ending, state => ending.map fun () => .more state
  | value :: rest, ending, state =>
    match visitor state value with
    | .ok (.more state) => visitList visitor rest ending state
    | .ok (.enough result) => .ok (.enough result)
    | .error error => .error error

theorem result_scanVisit (visitor : σ → ι → Attempt κ (Step σ ρ))
    (scan : Scan ι (Except Error Unit)) (state : σ) :
    (scan.visit visitor state).run.result medium =
      visitList (fun state value => (visitor state value).run.result medium)
        (scan.itemsOn medium) (scan.result medium) state := by
  induction scan generalizing state with
  | done ending => cases ending <;> rfl
  | item value rest ih =>
    have unfolded : (Scan.item value rest).itemsOn medium = value :: rest.itemsOn medium := rfl
    simp only [Scan.visit, result_bind, unfolded, visitList, Scan.result]
    cases (visitor state value).run.result medium with
    | error error => rfl
    | ok step =>
      cases step with
      | more state => exact ih state
      | enough result => rfl
  | read lba next ih => exact ih (medium lba) state
  | report diagnostic rest ih => exact ih state

theorem result_visit (scan : Attempt ι Unit) (visitor : σ → ι → Attempt κ (Step σ ρ))
    (state : σ) :
    (scan.visit visitor state).run.result medium =
      visitList (fun state value => (visitor state value).run.result medium)
        (scan.run.itemsOn medium) (scan.run.result medium) state :=
  result_scanVisit medium visitor scan.run state

end Attempt

end Fat32
