import Fat32.Proofs.Scan.Answers

/-!
Warnings and the errors that they announce. A volume that contradicts itself makes an operation fail
with one of two errors. `Warns` says of a scan that it warns right in front of such an end and
nowhere else, whatever the device answers. Since a scan ends behind its warning, a client that stops
early has heard none (`Warns.visit`), and one that goes on to the end has heard one at most.
-/

namespace Fat32

/-- A result that tells of a volume that contradicts itself. -/
def Corrupt {α : Type} (result : Except Error α) : Prop :=
  result = .error .corruptChain ∨ result = .error .incompleteRead

theorem not_corrupt_ok {α : Type} (value : α) : ¬ Corrupt (.ok value) := by
  rintro (same | same) <;> cases same

theorem Corrupt.exists_error {α β : Type} {result : Except Error α} (corrupt : Corrupt result) :
    ∃ error, result = .error error ∧ Corrupt (.error error : Except Error β) := by
  rcases corrupt with rfl | rfl
  · exact ⟨_, rfl, .inl rfl⟩
  · exact ⟨_, rfl, .inr rfl⟩

theorem corrupt_error_iff {α β : Type} {error : Error} :
    Corrupt (.error error : Except Error α) ↔ Corrupt (.error error : Except Error β) := by
  simp [Corrupt]

theorem corrupt_map_iff {α β : Type} {result : Except Error α} {f : α → β} :
    Corrupt (result.map f) ↔ Corrupt result := by
  cases result with
  | error error => exact corrupt_error_iff
  | ok value => exact iff_of_false (not_corrupt_ok _) (not_corrupt_ok _)

theorem not_corrupt_device {α : Type} (cause : DeviceError) :
    ¬ Corrupt (.error (.device cause) : Except Error α) := by
  rintro (same | same) <;> cases same

namespace Scan

variable {ι κ α β σ ρ : Type}

/-- Whatever the device answers, the scan warns right in front of an end that `blames` the volume,
and nowhere else. -/
inductive Warns (blames : α → Prop) : Scan ι α → Prop
  | silent {value} : ¬ blames value → Warns blames (.done value)
  | warned {diagnostic value} : diagnostic.level = .warn → blames value →
      Warns blames (.report diagnostic (.done value))
  | item {value rest} : Warns blames rest → Warns blames (.item value rest)
  | read {lba next} : (∀ answer, Warns blames (next answer)) → Warns blames (.read lba next)
  | report {diagnostic rest} : diagnostic.level ≠ .warn → Warns blames rest →
      Warns blames (.report diagnostic rest)

/-- The warnings that a scan gives on a fixed device. -/
def warningsOn (medium : Medium) (scan : Scan ι α) : List Diagnostic :=
  (scan.reportsOn medium).filter (·.level = .warn)

namespace Warns

variable {blames : α → Prop} {scan : Scan ι α}

/-- One warning stands for an end that blames the volume, and none for any other end. -/
theorem warningsOn_spec (warns : scan.Warns blames) (medium : Medium) :
    (blames (scan.result medium) ∧ (scan.warningsOn medium).length = 1) ∨
      (¬ blames (scan.result medium) ∧ scan.warningsOn medium = []) := by
  induction warns with
  | silent sound => exact .inr ⟨sound, rfl⟩
  | @warned diagnostic value warning blamed =>
    have alone : (Scan.report diagnostic (.done value) : Scan ι α).warningsOn medium =
        [diagnostic] := List.filter_cons_of_pos (decide_eq_true warning)
    exact .inl ⟨blamed, congrArg List.length alone⟩
  | item _ ih => exact ih
  | read _ ih => exact ih (medium _)
  | @report diagnostic rest other _ ih =>
    have passed : (Scan.report diagnostic rest).warningsOn medium = rest.warningsOn medium :=
      List.filter_cons_of_neg (by simpa using other)
    rw [passed]
    exact ih

theorem bind {f : α → Scan ι β} {blames' : β → Prop} (first : scan.Warns blames)
    (ends : ∀ value, blames value → ∃ last, f value = .done last ∧ blames' last)
    (second : ∀ value, ¬ blames value → (f value).Warns blames') :
    (scan.bind f).Warns blames' := by
  induction first with
  | silent sound => exact second _ sound
  | @warned diagnostic value warning blamed =>
    obtain ⟨last, ended, still⟩ := ends value blamed
    change Warns blames' (.report diagnostic (f value))
    rw [ended]
    exact .warned warning still
  | item _ ih => exact .item ih
  | read _ ih => exact .read ih
  | report other _ ih => exact .report other ih

theorem map {f : α → β} {blames' : β → Prop} (warns : scan.Warns blames)
    (same : ∀ value, blames' (f value) ↔ blames value) :
    (scan.bind fun value => .done (f value)).Warns blames' :=
  warns.bind (fun value blamed => ⟨f value, rfl, (same value).mpr blamed⟩)
    fun value sound => .silent (mt (same value).mp sound)

theorem collect (warns : scan.Warns blames) (taken : List ι) :
    (scan.collect taken : Scan κ _).Warns fun outcome => blames outcome.2 := by
  induction warns generalizing taken with
  | silent sound => exact .silent sound
  | warned warning blamed => exact .warned warning blamed
  | @item value _ _ ih => exact ih (value :: taken)
  | read _ ih => exact .read fun answer => ih answer taken
  | report other _ ih => exact .report other (ih taken)

theorem toList (warns : scan.Warns blames) :
    (scan.toList : Scan κ _).Warns fun outcome => blames outcome.2 :=
  warns.collect []

theorem collectWithin (warns : scan.Warns blames) (count : Nat) (taken : List ι) :
    (scan.collectWithin count taken : Scan κ _).Warns fun outcome =>
      ∃ value, outcome.2 = some value ∧ blames value := by
  have unheard : ¬ ∃ value, (none : Option α) = some value ∧ blames value := by
    rintro ⟨value, ended, -⟩
    cases ended
  induction warns generalizing count taken with
  | silent sound =>
    refine .silent ?_
    rintro ⟨value, ended, blamed⟩
    dsimp only at ended
    split at ended
    · cases ended
    · cases ended
      exact sound blamed
  | warned warning blamed =>
    unfold Scan.collectWithin
    split
    · exact .silent unheard
    · rename_i more
      unfold Scan.collectWithin
      rw [if_neg more]
      exact .warned warning ⟨_, rfl, blamed⟩
  | @item value _ _ ih =>
    cases count with
    | zero => exact .silent unheard
    | succ count => exact ih count (value :: taken)
  | read _ ih =>
    unfold Scan.collectWithin
    split
    · exact .silent unheard
    · exact .read fun answer => ih answer count taken
  | report other _ ih =>
    unfold Scan.collectWithin
    split
    · exact .silent unheard
    · exact .report other (ih count taken)

end Warns

end Scan

namespace Attempt

variable {ι κ α β σ ρ : Type}

/-- Whatever the device answers, the attempt warns right in front of an error that tells of a volume
that contradicts itself, and nowhere else. -/
def Warns (attempt : Attempt ι α) : Prop := attempt.run.Warns Corrupt

namespace Warns

theorem pure (value : α) : (Pure.pure value : Attempt ι α).Warns :=
  .silent (not_corrupt_ok value)

theorem throw {error : Error} (sound : ¬ Corrupt (.error error : Except Error α)) :
    (MonadExcept.throw error : Attempt ι α).Warns := .silent sound

theorem throw_bind {error : Error} (sound : ¬ Corrupt (.error error : Except Error β))
    (f : α → Attempt ι β) : ((MonadExcept.throw error : Attempt ι α) >>= f).Warns := .silent sound

theorem ofExcept {result : Except Error α} (sound : ¬ Corrupt result) :
    (Attempt.ofExcept result : Attempt ι α).Warns := .silent sound

theorem emit (value : ι) : (Attempt.emit value).Warns := .item (.silent (not_corrupt_ok ()))

theorem note {diagnostic : Diagnostic} (other : diagnostic.level ≠ .warn) :
    (Attempt.note diagnostic : Attempt ι Unit).Warns :=
  .report other (.silent (not_corrupt_ok ()))

theorem failWith {diagnostic : Diagnostic} {error : Error} (warning : diagnostic.level = .warn)
    (corrupt : Corrupt (.error error : Except Error α)) :
    (Attempt.failWith diagnostic error : Attempt ι α).Warns := .warned warning corrupt

theorem failQuietly {diagnostic : Diagnostic} {error : Error} (other : diagnostic.level ≠ .warn)
    (sound : ¬ Corrupt (.error error : Except Error α)) :
    (Attempt.failWith diagnostic error : Attempt ι α).Warns := .report other (.silent sound)

theorem sector (lba : UInt32) : (Attempt.sector lba : Attempt ι Sector).Warns := by
  refine .read fun answer => .silent ?_
  cases answer with
  | error cause => exact not_corrupt_device cause
  | ok sector => exact not_corrupt_ok sector

theorem bind {attempt : Attempt ι α} {f : α → Attempt ι β} (first : attempt.Warns)
    (second : ∀ value, (f value).Warns) : (attempt >>= f).Warns := by
  refine Scan.Warns.bind first ?_ ?_
  · intro result corrupt
    obtain ⟨error, rfl, still⟩ := corrupt.exists_error
    exact ⟨.error error, rfl, still⟩
  · intro result sound
    cases result with
    | error error => exact .silent (mt corrupt_error_iff.mp sound)
    | ok value => exact second value

end Warns

end Attempt

/-- A visit warns where the visited scan or the visitor does, and ends there. -/
theorem Scan.Warns.visit {ι κ σ ρ : Type} {scan : Scan ι (Except Error Unit)}
    {visitor : σ → ι → Attempt κ (Step σ ρ)} (visited : scan.Warns Corrupt)
    (visits : ∀ state value, (visitor state value).Warns) (state : σ) :
    (scan.visit visitor state).Warns := by
  induction visited generalizing state with
  | @silent ending sound =>
    cases ending with
    | error error => exact .silent (mt corrupt_error_iff.mp sound)
    | ok => exact .pure _
  | warned warning corrupt =>
    obtain ⟨error, rfl, still⟩ := corrupt.exists_error
    exact .warned warning still
  | @item value _ _ ih =>
    refine Attempt.Warns.bind (visits state value) fun step => ?_
    cases step with
    | more state => exact ih state
    | enough result => exact .pure _
  | read _ ih => exact .read fun answer => ih answer state
  | report other _ ih => exact .report other (ih state)

namespace Attempt.Warns

variable {ι κ σ ρ : Type}

theorem visit {attempt : Attempt ι Unit} {visitor : σ → ι → Attempt κ (Step σ ρ)}
    (visited : attempt.Warns) (visits : ∀ state value, (visitor state value).Warns) (state : σ) :
    (attempt.visit visitor state).Warns :=
  Scan.Warns.visit visited visits state

theorem find? {attempt : Attempt ι Unit} (searched : attempt.Warns) (test : ι → Bool) :
    (attempt.find? test : Attempt κ _).Warns := by
  refine bind (visit searched (fun _ _ => pure _) ()) fun step => ?_
  cases step with
  | more state => exact pure _
  | enough value => exact pure _

end Attempt.Warns

end Fat32
