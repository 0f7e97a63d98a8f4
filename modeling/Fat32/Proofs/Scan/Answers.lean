import Fat32.Scan.Lemmas

/-!
Scans on a device that may answer anything. A script lists the answers of a
device to the requests of one run, so nothing ties an answer to its address and
a device may change from read to read. `Ensures` speaks about all scripts at
once: it bounds what a scan asks for, what it hands out and what it finishes
with, and it is proved along the structure of the scan.
-/

namespace Fat32

/-- The answers of a device to the requests of one run, in order. -/
abbrev Script := Nat → Except DeviceError Sector

namespace Scan

variable {ι κ α β σ ρ : Type}

def asked : Scan ι α → Script → List UInt32
  | done _, _ => []
  | item _ rest, script => rest.asked script
  | read lba next, script => lba :: (next (script 0)).asked fun n => script (n + 1)
  | report _ rest, script => rest.asked script

/-- The value that a scan finishes with on a scripted device. -/
def finish : Scan ι α → Script → α
  | done value, _ => value
  | item _ rest, script => rest.finish script
  | read _ next, script => (next (script 0)).finish fun n => script (n + 1)
  | report _ rest, script => rest.finish script

theorem finish_bind (scan : Scan ι α) (f : α → Scan ι β) (script : Script) :
    (scan.bind f).finish script =
      (f (scan.finish script)).finish fun n => script (n + (scan.asked script).length) := by
  induction scan generalizing script with
  | done value => rfl
  | item value rest ih => exact ih script
  | read lba next ih => exact ih (script 0) _
  | report diagnostic rest ih => exact ih script

/-- Whatever the device answers, the scan asks for addresses in `asks` only,
hands out items in `emits` only and finishes with a value in `ends`. -/
inductive Ensures (asks : UInt32 → Prop) (emits : ι → Prop) (ends : α → Prop) : Scan ι α → Prop
  | done {value} : ends value → Ensures asks emits ends (.done value)
  | item {value rest} : emits value → Ensures asks emits ends rest →
      Ensures asks emits ends (.item value rest)
  | read {lba next} : asks lba → (∀ answer, Ensures asks emits ends (next answer)) →
      Ensures asks emits ends (.read lba next)
  | report {diagnostic rest} : Ensures asks emits ends rest →
      Ensures asks emits ends (.report diagnostic rest)

namespace Ensures

variable {asks : UInt32 → Prop} {emits : ι → Prop} {emits' : κ → Prop} {ends : α → Prop}
  {scan : Scan ι α}

theorem asked (ensures : scan.Ensures asks emits ends) (script : Script) :
    ∀ lba ∈ scan.asked script, asks lba := by
  induction ensures generalizing script with
  | done ended => intro lba member; cases member
  | item emitted _ ih => exact ih script
  | read allowed _ ih =>
    intro other member
    rcases List.mem_cons.mp member with rfl | later
    · exact allowed
    · exact ih (script 0) _ other later
  | report _ ih => exact ih script

theorem finish (ensures : scan.Ensures asks emits ends) (script : Script) :
    ends (scan.finish script) := by
  induction ensures generalizing script with
  | done ended => exact ended
  | item emitted _ ih => exact ih script
  | read allowed _ ih => exact ih (script 0) _
  | report _ ih => exact ih script

/-- What holds of a scan whatever it is answered holds on every device. -/
theorem runOn {δ : Type} [Device δ] {emits : Empty → Prop} {scan : Scan Empty α}
    (ensures : scan.Ensures asks emits ends) (device : δ) (diagnostics : Array Diagnostic) :
    ends (scan.runOn device diagnostics).value := by
  induction ensures generalizing device diagnostics with
  | done ended => exact ended
  | @item value => exact value.elim
  | read _ _ ih => exact ih _ _ _
  | report _ ih => exact ih _ _

theorem result (ensures : scan.Ensures asks emits ends) (medium : Medium) :
    ends (scan.result medium) := by
  induction ensures with
  | done ended => exact ended
  | item _ _ ih => exact ih
  | read _ _ ih => exact ih _
  | report _ ih => exact ih

theorem itemsOn (ensures : scan.Ensures asks emits ends) (medium : Medium) :
    ∀ value ∈ scan.itemsOn medium, emits value := by
  induction ensures with
  | done _ => exact List.forall_mem_nil _
  | item emitted _ ih => exact List.forall_mem_cons.mpr ⟨emitted, ih⟩
  | read _ _ ih => exact ih _
  | report _ ih => exact ih

theorem mono {emitsMore : ι → Prop} {endsMore : α → Prop}
    (ensures : scan.Ensures asks emits ends) (emitted : ∀ value, emits value → emitsMore value)
    (ended : ∀ value, ends value → endsMore value) :
    scan.Ensures asks emitsMore endsMore := by
  induction ensures with
  | done last => exact .done (ended _ last)
  | item value _ ih => exact .item (emitted _ value) ih
  | read allowed _ ih => exact .read allowed ih
  | report _ ih => exact .report ih

theorem and {others : α → Prop} (first : scan.Ensures asks emits ends)
    (second : scan.Ensures asks emits others) :
    scan.Ensures asks emits fun value => ends value ∧ others value := by
  induction first with
  | done ended =>
    cases second with
    | done other => exact .done ⟨ended, other⟩
  | item emitted _ ih =>
    cases second with
    | item _ rest => exact .item emitted (ih rest)
  | read allowed _ ih =>
    cases second with
    | read _ rest => exact .read allowed fun answer => ih answer (rest answer)
  | report _ ih =>
    cases second with
    | report rest => exact .report (ih rest)

theorem bind {f : α → Scan ι β} {ends' : β → Prop} (first : scan.Ensures asks emits ends)
    (second : ∀ value, ends value → (f value).Ensures asks emits ends') :
    (scan.bind f).Ensures asks emits ends' := by
  induction first with
  | done ended => exact second _ ended
  | item emitted _ ih => exact .item emitted ih
  | read allowed _ ih => exact .read allowed ih
  | report _ ih => exact .report ih

theorem collect (ensures : scan.Ensures asks emits ends) (taken : List ι) :
    (scan.collect taken : Scan κ _).Ensures asks emits' fun outcome => ends outcome.2 := by
  induction ensures generalizing taken with
  | done ended => exact .done ended
  | @item value _ _ _ ih => exact ih (value :: taken)
  | read allowed _ ih => exact .read allowed fun answer => ih answer taken
  | report _ ih => exact .report (ih taken)

theorem toList (ensures : scan.Ensures asks emits ends) :
    (scan.toList : Scan κ _).Ensures asks emits' fun outcome => ends outcome.2 :=
  ensures.collect []

theorem collectWithin (ensures : scan.Ensures asks emits ends) (count : Nat) (taken : List ι) :
    (scan.collectWithin count taken : Scan κ _).Ensures asks emits' fun _ => True := by
  induction ensures generalizing count taken with
  | done => exact .done trivial
  | @item value _ _ _ ih =>
    cases count with
    | zero => exact .done trivial
    | succ count => exact ih count (value :: taken)
  | read allowed _ ih =>
    unfold Scan.collectWithin
    split
    · exact .done trivial
    · exact .read allowed fun answer => ih answer count taken
  | report _ ih =>
    unfold Scan.collectWithin
    split
    · exact .done trivial
    · exact .report (ih count taken)

theorem take (ensures : scan.Ensures asks emits ends) (count : Nat) :
    (scan.take count : Scan κ _).Ensures asks emits' fun _ => True :=
  ensures.collectWithin count []

/-- A visit asks for what the visited scan and the visitor ask for. The visitor
may rely on what is known about the items. -/
theorem visit {scan : Scan ι (Except Error Unit)} {ends : Except Error Unit → Prop}
    {visitor : σ → ι → Attempt κ (Step σ ρ)}
    (visited : scan.Ensures asks emits ends)
    (visits : ∀ state value, emits value →
      (visitor state value).run.Ensures asks emits' fun _ => True) (state : σ) :
    (scan.visit visitor state).run.Ensures asks emits' fun _ => True := by
  induction visited generalizing state with
  | @done ending => cases ending <;> exact .done trivial
  | item emitted _ ih =>
    refine Ensures.bind (visits state _ emitted) ?_
    intro step _
    rcases step with error | (state | result)
    · exact .done trivial
    · exact ih state
    · exact .done trivial
  | read allowed _ ih => exact .read allowed fun answer => ih answer state
  | report _ ih => exact .report (ih state)

end Ensures

theorem ensures_true (scan : Scan ι α) :
    scan.Ensures (fun _ => True) (fun _ => True) fun _ => True := by
  induction scan with
  | done value => exact .done trivial
  | item value rest ih => exact .item trivial ih
  | read lba next ih => exact .read trivial ih
  | report diagnostic rest ih => exact .report ih

end Scan

namespace Attempt

variable {ι κ α β σ ρ : Type}

/-- Like `Scan.Ensures`, where `ends` speaks about success only. -/
def Ensures (asks : UInt32 → Prop) (emits : ι → Prop) (ends : α → Prop)
    (attempt : Attempt ι α) : Prop :=
  attempt.run.Ensures asks emits fun result => ∀ value, result = .ok value → ends value

/-- Whatever the device answers, the attempt asks for addresses in `asks` only. -/
def Asks (asks : UInt32 → Prop) (attempt : Attempt ι α) : Prop :=
  attempt.run.Ensures asks (fun _ => True) fun _ => True

/-- Whatever the device answers, the attempt gives a value in `ends`, if it gives one. -/
abbrev Gives (ends : α → Prop) (attempt : Attempt ι α) : Prop :=
  attempt.Ensures (fun _ => True) (fun _ => True) ends

theorem gives_true (attempt : Attempt ι α) : attempt.Gives fun _ => True :=
  attempt.run.ensures_true.mono (fun _ _ => trivial) fun _ _ _ _ => trivial

variable {asks : UInt32 → Prop} {emits : ι → Prop}

namespace Ensures

theorem and {attempt : Attempt ι α} {ends others : α → Prop}
    (first : attempt.Ensures asks emits ends) (second : attempt.Ensures asks emits others) :
    attempt.Ensures asks emits fun value => ends value ∧ others value :=
  (Scan.Ensures.and first second).mono (fun _ known => known)
    fun _ known value same => ⟨known.1 value same, known.2 value same⟩

theorem toAsks {attempt : Attempt ι α} {ends : α → Prop}
    (ensures : attempt.Ensures asks emits ends) : attempt.Asks asks :=
  ensures.mono (fun _ _ => trivial) fun _ _ => trivial

theorem pure {ends : α → Prop} {value : α} (ended : ends value) :
    (Pure.pure value : Attempt ι α).Ensures asks emits ends := by
  refine .done ?_
  intro other same
  cases same
  exact ended

theorem throw {ends : α → Prop} (error : Error) :
    (MonadExcept.throw error : Attempt ι α).Ensures asks emits ends :=
  .done fun _ same => by cases same

theorem failWith {ends : α → Prop} (diagnostic : Diagnostic) (error : Error) :
    (Attempt.failWith diagnostic error : Attempt ι α).Ensures asks emits ends :=
  .report (throw error)

theorem note (diagnostic : Diagnostic) :
    (Attempt.note diagnostic : Attempt ι Unit).Ensures asks emits fun _ => True :=
  .report (.done fun _ _ => trivial)

theorem ofExcept {ends : α → Prop} {result : Except Error α}
    (ended : ∀ value, result = .ok value → ends value) :
    (Attempt.ofExcept result : Attempt ι α).Ensures asks emits ends :=
  .done ended

theorem emit {value : ι} (emitted : emits value) :
    (Attempt.emit value).Ensures asks emits fun _ => True :=
  .item emitted (.done fun _ _ => trivial)

theorem sector {lba : UInt32} (allowed : asks lba) :
    (Attempt.sector lba : Attempt ι Sector).Ensures asks emits fun _ => True :=
  .read allowed fun _ => .done fun _ _ => trivial

theorem bind {attempt : Attempt ι α} {f : α → Attempt ι β} {between : α → Prop} {ends : β → Prop}
    (first : attempt.Ensures asks emits between)
    (second : ∀ value, between value → (f value).Ensures asks emits ends) :
    (attempt >>= f).Ensures asks emits ends := by
  refine Scan.Ensures.bind first ?_
  intro result known
  cases result with
  | error error => exact throw error
  | ok value => exact second value (known value rfl)

end Ensures

namespace Asks

theorem ensures {attempt : Attempt ι α} (attemptAsks : attempt.Asks asks) :
    attempt.Ensures asks (fun _ => True) fun _ => True :=
  attemptAsks.mono (fun _ _ => trivial) fun _ _ _ _ => trivial

theorem pure (value : α) : (Pure.pure value : Attempt ι α).Asks asks := .done trivial

theorem throw (error : Error) : (MonadExcept.throw error : Attempt ι α).Asks asks := .done trivial

theorem failWith (diagnostic : Diagnostic) (error : Error) :
    (Attempt.failWith diagnostic error : Attempt ι α).Asks asks := .report (.done trivial)

theorem note (diagnostic : Diagnostic) :
    (Attempt.note diagnostic : Attempt ι Unit).Asks asks := .report (.done trivial)

theorem emit (value : ι) : (Attempt.emit value).Asks asks := .item trivial (.done trivial)

theorem ofExcept (result : Except Error α) : (Attempt.ofExcept result : Attempt ι α).Asks asks :=
  .done trivial

theorem sector {lba : UInt32} (allowed : asks lba) :
    (Attempt.sector lba : Attempt ι Sector).Asks asks :=
  .read allowed fun _ => .done trivial

theorem bind {attempt : Attempt ι α} {f : α → Attempt ι β} (first : attempt.Asks asks)
    (second : ∀ value, (f value).Asks asks) : (attempt >>= f).Asks asks := by
  refine Scan.Ensures.bind first ?_
  intro result _
  cases result with
  | error error => exact throw error
  | ok value => exact second value

theorem throw_bind (error : Error) (f : α → Attempt ι β) :
    ((MonadExcept.throw error : Attempt ι α) >>= f).Asks asks := .done trivial

theorem visit {attempt : Attempt ι Unit} {visitor : σ → ι → Attempt κ (Step σ ρ)}
    {ends : Unit → Prop} (visited : attempt.Ensures asks emits ends)
    (visits : ∀ state value, emits value → (visitor state value).Asks asks) (state : σ) :
    (attempt.visit visitor state).Asks asks :=
  Scan.Ensures.visit visited visits state

end Asks

end Attempt

end Fat32
