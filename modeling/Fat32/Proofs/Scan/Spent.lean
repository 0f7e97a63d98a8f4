import Fat32.Proofs.Scan.Views

/-!
When a scan makes its requests. Every item comes with the requests up to it
(`spentOn`), and a client that takes some items causes those up to the last of
them and no more (`readsOn_take`).
-/

namespace Fat32

namespace Scan

variable {ι κ α β : Type} (medium : Medium)

/-- The items that a scan hands out on a fixed device, each with the requests up to it, those in
`before` included. -/
def spentOn (before : List UInt32) : Scan ι α → List (ι × List UInt32)
  | done _ => []
  | item value rest => (value, before) :: rest.spentOn before
  | read lba next => (next (medium lba)).spentOn (before ++ [lba])
  | report _ rest => rest.spentOn before

theorem map_fst_spentOn (scan : Scan ι α) (before : List UInt32) :
    (scan.spentOn medium before).map Prod.fst = scan.itemsOn medium := by
  induction scan generalizing before with
  | done value => rfl
  | item value rest ih => exact congrArg (value :: ·) (ih before)
  | read lba next ih => exact ih (medium lba) _
  | report diagnostic rest ih => exact ih before

theorem spentOn_eq_nil {scan : Scan ι α} (silent : scan.itemsOn medium = [])
    (before : List UInt32) : scan.spentOn medium before = [] := by
  rw [← map_fst_spentOn medium scan before, List.map_eq_nil_iff] at silent
  exact silent

theorem spentOn_bind (scan : Scan ι α) (f : α → Scan ι β) (before : List UInt32) :
    (scan.bind f).spentOn medium before =
      scan.spentOn medium before ++
        (f (scan.result medium)).spentOn medium (before ++ scan.readsOn medium) := by
  induction scan generalizing before with
  | done value => simp [Scan.bind, spentOn, result]
  | item value rest ih => exact congrArg ((value, before) :: ·) (ih before)
  | read lba next ih =>
    have behind := ih (medium lba) (before ++ [lba])
    rw [List.append_assoc] at behind
    exact behind
  | report diagnostic rest ih => exact ih before

theorem readsOn_collectWithin_zero (scan : Scan ι α) (taken : List ι) :
    (scan.collectWithin 0 taken : Scan κ _).readsOn medium = [] := by
  cases scan <;> rfl

theorem readsOn_collectWithin {scan : Scan ι α} {count : Nat} {before spent : List UInt32}
    {value : ι} (handed : (scan.spentOn medium before)[count]? = some (value, spent))
    (taken : List ι) :
    before ++ (scan.collectWithin (count + 1) taken : Scan κ _).readsOn medium = spent := by
  induction scan generalizing count before taken with
  | done value => cases handed
  | item first rest ih =>
    cases count with
    | zero =>
      cases handed
      rw [collectWithin, readsOn_collectWithin_zero, List.append_nil]
    | succ count => exact ih handed (first :: taken)
  | read lba next ih =>
    rw [collectWithin, if_neg (Nat.succ_ne_zero count), readsOn_read, List.append_cons]
    exact ih (medium lba) handed taken
  | report diagnostic rest ih =>
    rw [collectWithin, if_neg (Nat.succ_ne_zero count), readsOn_report]
    exact ih handed taken

/-- Whoever takes some items causes the requests up to the last of them. -/
theorem readsOn_take {scan : Scan ι α} {count : Nat} {value : ι} {spent : List UInt32}
    (handed : (scan.spentOn medium [])[count]? = some (value, spent)) :
    (scan.take (count + 1) : Scan κ _).readsOn medium = spent :=
  readsOn_collectWithin medium handed []

end Scan

namespace Attempt

variable {ι α β : Type} (medium : Medium)

theorem spentOn_bind (attempt : Attempt ι α) (f : α → Attempt ι β) (before : List UInt32) :
    (attempt >>= f).run.spentOn medium before =
      attempt.run.spentOn medium before ++
        match attempt.run.result medium with
        | .ok value => (f value).run.spentOn medium (before ++ attempt.run.readsOn medium)
        | .error _ => [] := by
  rw [ExceptT.run_bind, Scan.bind_eq, Scan.spentOn_bind]
  cases attempt.run.result medium <;> rfl

@[simp] theorem spentOn_pure (value : α) (before : List UInt32) :
    (pure value : Attempt ι α).run.spentOn medium before = [] := rfl

@[simp] theorem spentOn_failWith (diagnostic : Diagnostic) (error : Error)
    (before : List UInt32) :
    (Attempt.failWith diagnostic error : Attempt ι α).run.spentOn medium before = [] := rfl

@[simp] theorem spentOn_sector (lba : UInt32) (before : List UInt32) :
    (Attempt.sector lba : Attempt ι Sector).run.spentOn medium before = [] := rfl

@[simp] theorem spentOn_emit (value : ι) (before : List UInt32) :
    (Attempt.emit value).run.spentOn medium before = [(value, before)] := rfl

end Attempt

end Fat32
