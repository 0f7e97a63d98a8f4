import Mathlib.Data.Finmap
import Mathlib.Data.Nat.Find
import Fat32.Proofs.Handle.Table

/-!
The table of open files as a finite map. A handle is bound to the first cluster and the size of a
file, and every use of the table answers as an operation on the map of these bindings does
(`Shows.runAll`). Where a file stands and what it has in its cache is the business of its handle
alone (`get?_serve_of_not_concerns`).
-/

namespace Fat32

structure Binding where
  startCluster : UInt32
  size : UInt32
  deriving DecidableEq, Repr

def OpenFile.binding (file : OpenFile) : Binding := ⟨file.startCluster, file.size⟩

abbrev Bindings := Finmap fun _ : Handle => Binding

namespace HandleTable

/-- A use of a table on its own. -/
inductive Request where
  | alloc (startCluster size : UInt32)
  | close (handle : Handle)
  | closeAll
  | get (handle : Handle)
  /-- Take a file out of the table to leave it at another position, with another cache. -/
  | move (handle : Handle) (position : Position) (cache : Option CachedCluster)
  deriving DecidableEq

inductive Answer where
  | done
  | opened (handle : Handle)
  | found (binding : Binding)
  | refused (error : Error)
  deriving DecidableEq, Repr

namespace Request

def runAll {σ : Type} (serve : σ → Request → Answer × σ) : List Request → σ → List Answer × σ
  | [], state => ([], state)
  | request :: rest, state =>
    let (answer, state) := serve state request
    let (answers, state) := runAll serve rest state
    (answer :: answers, state)

def Spares (handle : Handle) (request : Request) : Prop :=
  request ≠ .close handle ∧ request ≠ .closeAll

instance (handle : Handle) : DecidablePred (Spares handle) := fun request =>
  inferInstanceAs (Decidable (request ≠ .close handle ∧ request ≠ .closeAll))

/-- A request that is answered so has to do with what is at a handle. -/
def Concerns (handle : Handle) (answer : Answer) : Request → Prop
  | alloc _ _ => answer = .opened handle
  | close other => other = handle
  | closeAll => True
  | get _ => False
  | move other _ _ => other = handle

end Request

def serve (table : HandleTable) : Request → Answer × HandleTable
  | .alloc startCluster size =>
    match table.alloc startCluster size with
    | .ok (handle, next) => (.opened handle, next)
    | .error error => (.refused error, table)
  | .close handle => (.done, table.close handle)
  | .closeAll => (.done, table.closeAll)
  | .get handle =>
    match table.get handle with
    | .ok file => (.found file.binding, table)
    | .error error => (.refused error, table)
  | .move handle position cache =>
    match table.get handle with
    | .ok file => (.found file.binding, table.put handle { file with position, cache })
    | .error error => (.refused error, table)

end HandleTable

open HandleTable

namespace Bindings

variable (map : Bindings)

def free? : Option Handle :=
  if room : ∃ handle, handle < maxOpenFiles ∧ handle ∉ map then some (Nat.find room) else none

def find (handle : Handle) : Answer :=
  match map.lookup handle with
  | some binding => .found binding
  | none => .refused .badHandle

def serve : Request → Answer × Bindings
  | .alloc startCluster size =>
    match map.free? with
    | some handle => (.opened handle, map.insert handle ⟨startCluster, size⟩)
    | none => (.refused .tooManyOpenFiles, map)
  | .close handle => (.done, map.erase handle)
  | .closeAll => (.done, ∅)
  | .get handle | .move handle _ _ => (map.find handle, map)

variable {map}

theorem free?_eq_some_iff {handle : Handle} :
    map.free? = some handle ↔
      handle < maxOpenFiles ∧ handle ∉ map ∧ ∀ other < handle, other ∈ map := by
  unfold free?
  split
  · rename_i room
    rw [Option.some.injEq, Nat.find_eq_iff]
    refine ⟨fun ⟨⟨inside, free⟩, least⟩ => ⟨inside, free, fun other before => ?_⟩,
      fun ⟨inside, free, least⟩ => ⟨⟨inside, free⟩, fun other before unbound => ?_⟩⟩
    · by_contra unbound
      exact least other before ⟨before.trans inside, unbound⟩
    · exact unbound.2 (least other before)
  · rename_i full
    exact iff_of_false (nofun) fun ⟨inside, free, _⟩ => full ⟨handle, inside, free⟩

theorem free?_eq_none_iff : map.free? = none ↔ ∀ handle < maxOpenFiles, handle ∈ map := by
  unfold free?
  split
  · rename_i room
    obtain ⟨handle, inside, free⟩ := room
    exact iff_of_false (nofun) fun full => free (full handle inside)
  · rename_i full
    refine iff_of_true rfl fun handle inside => ?_
    by_contra free
    exact full ⟨handle, inside, free⟩

theorem find_ne_opened (handle : Handle) {other : Handle} : map.find handle ≠ .opened other := by
  unfold find
  cases map.lookup handle <;> nofun

theorem lookup_serve_of_spares {handle : Handle} {binding : Binding} {request : Request}
    (bound : map.lookup handle = some binding) (spares : request.Spares handle) :
    (map.serve request).2.lookup handle = some binding ∧
      (map.serve request).1 ≠ .opened handle := by
  cases request with
  | alloc startCluster size =>
    cases free : map.free? with
    | none =>
      simp only [serve, free]
      exact ⟨bound, nofun⟩
    | some other =>
      have apart : handle ≠ other := by
        rintro rfl
        exact (free?_eq_some_iff.mp free).2.1 (Finmap.mem_of_lookup_eq_some bound)
      simp only [serve, free]
      rw [Finmap.lookup_insert_of_ne map apart]
      exact ⟨bound, fun same => apart (Answer.opened.inj same).symm⟩
  | close other =>
    have apart : handle ≠ other := by
      rintro rfl
      exact spares.1 rfl
    exact ⟨(Finmap.lookup_erase_ne apart).trans bound, nofun⟩
  | closeAll => exact absurd rfl spares.2
  | get other => exact ⟨bound, find_ne_opened other⟩
  | move other position cache => exact ⟨bound, find_ne_opened other⟩

theorem lookup_runAll_of_spares {handle : Handle} {binding : Binding} {requests : List Request}
    (bound : map.lookup handle = some binding)
    (spares : ∀ request ∈ requests, request.Spares handle) :
    (Request.runAll serve requests map).2.lookup handle = some binding ∧
      .opened handle ∉ (Request.runAll serve requests map).1 := by
  induction requests generalizing map with
  | nil => exact ⟨bound, List.not_mem_nil⟩
  | cons request rest ih =>
    obtain ⟨first, others⟩ := List.forall_mem_cons.mp spares
    obtain ⟨still, apart⟩ := lookup_serve_of_spares bound first
    obtain ⟨later, never⟩ := ih still others
    refine ⟨later, fun given => ?_⟩
    rcases List.mem_cons.mp given with here | behind
    · exact apart here.symm
    · exact never behind

end Bindings

namespace HandleTable

/-- The map holds what the handles of a table are bound to. -/
def Shows (table : HandleTable) (map : Bindings) : Prop :=
  ∀ handle, (table.get? handle).map OpenFile.binding = map.lookup handle

variable {table : HandleTable} {map : Bindings}

theorem shows_of_closed (closed : ∀ handle, table.get? handle = none) : table.Shows ∅ := by
  intro handle
  rw [closed, Finmap.lookup_empty]
  rfl

theorem shows_empty : empty.Shows ∅ := shows_of_closed get?_empty

namespace Shows

variable (shows : table.Shows map)

include shows

theorem mem_iff {handle : Handle} : handle ∈ map ↔ (table.get? handle).isSome = true := by
  rw [← Finmap.lookup_isSome, ← shows handle, Option.isSome_map]

theorem notMem_iff {handle : Handle} : handle ∉ map ↔ (table.get? handle).isNone = true := by
  rw [shows.mem_iff, Bool.not_eq_true, Option.isSome_eq_false_iff]

theorem free?_eq : table.free? = map.free? := by
  rw [Option.ext_iff]
  intro handle
  rw [Bindings.free?_eq_some_iff, free?, List.find?_range_eq_some, List.mem_range,
    ← shows.notMem_iff, and_left_comm]
  refine and_congr_right fun _ => and_congr_right fun _ => forall₂_congr fun other _ => ?_
  rw [shows.mem_iff, Bool.not_eq_true', Option.isNone_eq_false_iff]

theorem alloc_cases (startCluster size : UInt32) :
    (∃ handle < maxOpenFiles, IsLeast {free | free ∉ map} handle ∧
      table.alloc startCluster size = .ok (handle, table.put handle (.atStart startCluster size))) ∨
    ((∀ handle < maxOpenFiles, handle ∈ map) ∧
      table.alloc startCluster size = .error .tooManyOpenFiles) := by
  unfold HandleTable.alloc
  rw [shows.free?_eq]
  cases free : map.free? with
  | none => exact .inr ⟨Bindings.free?_eq_none_iff.mp free, rfl⟩
  | some handle =>
    obtain ⟨inside, unbound, least⟩ := Bindings.free?_eq_some_iff.mp free
    refine .inl ⟨handle, inside, ⟨unbound, fun other otherUnbound => ?_⟩, rfl⟩
    exact Nat.le_of_not_lt fun before => otherUnbound (least other before)

theorem find_eq (handle : Handle) :
    map.find handle =
      match table.get handle with
      | .ok file => .found file.binding
      | .error error => .refused error := by
  unfold Bindings.find get
  rw [← shows handle]
  cases table.get? handle <;> rfl

theorem put {handle : Handle} {file : OpenFile} (inside : handle < maxOpenFiles) :
    (table.put handle file).Shows (map.insert handle file.binding) := by
  intro other
  by_cases same : other = handle
  · subst same
    rw [get?_put_self table file inside, Finmap.lookup_insert]
    rfl
  · rw [get?_put_of_ne table file same, Finmap.lookup_insert_of_ne map same]
    exact shows other

theorem put_back {handle : Handle} {file opened : OpenFile}
    (found : table.get? handle = some opened) (same : file.binding = opened.binding) :
    (table.put handle file).Shows map := by
  intro other
  by_cases here : other = handle
  · subst here
    rw [get?_put_self table file (lt_of_get? table found), ← shows other, found]
    exact congrArg some same
  · rw [get?_put_of_ne table file here]
    exact shows other

theorem close (handle : Handle) : (table.close handle).Shows (map.erase handle) := by
  intro other
  by_cases same : other = handle
  · subst same
    rw [get?_close_self, Finmap.lookup_erase]
    rfl
  · rw [get?_close_of_ne table same, Finmap.lookup_erase_ne same]
    exact shows other

/-- One request is answered as the map says, and the map behind it is shown. -/
theorem serve (request : Request) :
    (table.serve request).1 = (map.serve request).1 ∧
      (table.serve request).2.Shows (map.serve request).2 := by
  cases request with
  | alloc startCluster size =>
    simp only [HandleTable.serve, Bindings.serve, HandleTable.alloc_eq, shows.free?_eq]
    cases free : map.free? with
    | none => exact ⟨rfl, shows⟩
    | some handle => exact ⟨rfl, shows.put (Bindings.free?_eq_some_iff.mp free).1⟩
  | close handle => exact ⟨rfl, shows.close handle⟩
  | closeAll => exact ⟨rfl, shows_of_closed table.get?_closeAll⟩
  | get handle =>
    simp only [HandleTable.serve, Bindings.serve, shows.find_eq]
    cases table.get handle with
    | error error => exact ⟨rfl, shows⟩
    | ok file => exact ⟨rfl, shows⟩
  | move handle position cache =>
    simp only [HandleTable.serve, Bindings.serve, shows.find_eq]
    cases found : table.get handle with
    | error error => exact ⟨rfl, shows⟩
    | ok file => exact ⟨rfl, shows.put_back ((get_eq_ok_iff table).mp found) rfl⟩

theorem runAll (requests : List Request) :
    (Request.runAll HandleTable.serve requests table).1 =
        (Request.runAll Bindings.serve requests map).1 ∧
      (Request.runAll HandleTable.serve requests table).2.Shows
        (Request.runAll Bindings.serve requests map).2 := by
  induction requests generalizing table map with
  | nil => exact ⟨rfl, shows⟩
  | cons request rest ih =>
    obtain ⟨answered, next⟩ := shows.serve request
    obtain ⟨answers, last⟩ := ih next
    exact ⟨List.cons_eq_cons.mpr ⟨answered, answers⟩, last⟩

theorem keys_subset : map.keys ⊆ Finset.range maxOpenFiles := by
  intro handle bound
  obtain ⟨file, found⟩ := Option.isSome_iff_exists.mp (shows.mem_iff.mp (Finmap.mem_keys.mp bound))
  exact Finset.mem_range.mpr (lt_of_get? table found)

theorem keys_eq : map.keys = {handle ∈ Finset.range maxOpenFiles | (table.get? handle).isSome} := by
  ext handle
  rw [Finset.mem_filter, ← shows.mem_iff, ← Finmap.mem_keys]
  exact ⟨fun bound => ⟨shows.keys_subset bound, bound⟩, And.right⟩

theorem count_eq : table.count = map.keys.card := by
  have slots : table.opened.toList = (List.range maxOpenFiles).map table.get? := by
    apply List.ext_getElem (by simp)
    intro index inList _
    simp [getElem_opened]
  have decided : Option.isSome ∘ table.get? =
      fun handle => decide ((table.get? handle).isSome = true) := by
    funext handle
    rw [Bool.decide_eq_true]
    rfl
  rw [count_eq_countP, slots, List.countP_map, decided, ← Multiset.coe_countP,
    Multiset.countP_eq_card_filter, shows.keys_eq]
  rfl

end Shows

theorem get?_serve_of_not_concerns {handle : Handle} {request : Request}
    (unconcerned : ¬ request.Concerns handle (table.serve request).1) :
    (table.serve request).2.get? handle = table.get? handle := by
  cases request with
  | alloc startCluster size =>
    cases allocated : table.alloc startCluster size with
    | error error => simp only [serve, allocated]
    | ok slot =>
      obtain ⟨other, next⟩ := slot
      simp only [serve, allocated] at unconcerned ⊢
      obtain ⟨-, -, rfl⟩ := alloc_eq_ok table allocated
      have apart : handle ≠ other := by
        rintro rfl
        exact unconcerned rfl
      exact get?_put_of_ne table _ apart
  | close other => exact get?_close_of_ne table (Ne.symm unconcerned)
  | closeAll => exact absurd trivial unconcerned
  | get other => cases found : table.get other <;> simp only [serve, found]
  | move other position cache =>
    cases found : table.get other with
    | error error => simp only [serve, found]
    | ok file =>
      simp only [serve, found]
      exact get?_put_of_ne table _ (Ne.symm unconcerned)

theorem get?_serve_of_opened {handle : Handle} {request : Request}
    (opened : (table.serve request).1 = .opened handle) :
    ∃ startCluster size, request = .alloc startCluster size ∧
      (table.serve request).2.get? handle =
        some { startCluster, size, position := ⟨0, startCluster⟩, cache := none } := by
  cases request with
  | alloc startCluster size =>
    refine ⟨startCluster, size, rfl, ?_⟩
    cases allocated : table.alloc startCluster size with
    | error error => simp [serve, allocated] at opened
    | ok slot =>
      obtain ⟨other, next⟩ := slot
      simp only [serve, allocated] at opened ⊢
      cases opened
      obtain ⟨inside, -, rfl⟩ := alloc_eq_ok table allocated
      exact get?_put_self table _ inside
  | close other => cases opened
  | closeAll => cases opened
  | get other => cases found : table.get other <;> simp [serve, found] at opened
  | move other position cache => cases found : table.get other <;> simp [serve, found] at opened

end HandleTable

/-- However a new table is used, it answers as the finite map of its bindings does, which has
handles below 8 only and as many as the table counts. An open gives out the least handle that is not
bound and binds it to a file at its first cluster with nothing in its cache, or fails with every
slot as it was when all are bound. What a request does not concern keeps its position and its cache,
and a handle that was given out stays bound to its file, and is not given out again, until it is
closed. -/
theorem handles_form_finite_map (requests : List Request) :
    let (answers, table) := Request.runAll HandleTable.serve requests .empty
    let (expected, map) := Request.runAll Bindings.serve requests ∅
    answers = expected ∧
    (∀ handle, (table.get? handle).map OpenFile.binding = map.lookup handle) ∧
    map.keys ⊆ Finset.range 8 ∧ table.count = map.keys.card ∧
    (∀ startCluster size,
      (∃ handle < 8, IsLeast {free | free ∉ map} handle ∧
        ∃ next, table.alloc startCluster size = .ok (handle, next)) ∨
      ((∀ handle < 8, handle ∈ map) ∧
        table.alloc startCluster size = .error .tooManyOpenFiles)) ∧
    ∀ request,
      let (answer, next) := table.serve request
      (∀ handle, ¬ request.Concerns handle answer → next.get? handle = table.get? handle) ∧
      ∀ handle, answer = .opened handle →
        ∃ startCluster size, request = .alloc startCluster size ∧
          next.get? handle =
            some { startCluster, size, position := ⟨0, startCluster⟩, cache := none } ∧
          ∀ later : List Request, (∀ request ∈ later, request.Spares handle) →
            let (others, last) := Request.runAll HandleTable.serve later next
            .opened handle ∉ others ∧
              (last.get? handle).map OpenFile.binding = some ⟨startCluster, size⟩ := by
  obtain ⟨answered, shows⟩ := shows_empty.runAll requests
  refine ⟨answered, shows, shows.keys_subset, shows.count_eq, fun startCluster size => ?_,
    fun request => ⟨fun handle => get?_serve_of_not_concerns, fun handle opened => ?_⟩⟩
  · rcases shows.alloc_cases startCluster size with ⟨handle, inside, least, given⟩ | full
    · exact .inl ⟨handle, inside, least, _, given⟩
    · exact .inr full
  · obtain ⟨startCluster, size, asked, fresh⟩ := get?_serve_of_opened opened
    refine ⟨startCluster, size, asked, fresh, fun later spares => ?_⟩
    have next := (shows.serve request).2
    have bound := (next handle).symm.trans (congrArg (Option.map OpenFile.binding) fresh)
    obtain ⟨still, never⟩ := Bindings.lookup_runAll_of_spares bound spares
    obtain ⟨same, last⟩ := next.runAll later
    exact ⟨fun given => never (same ▸ given), (last handle).trans still⟩

/-- Handle 0 was closed with a file in it that had been moved and cached. It is the least that is
free, so it is given out next, and it stays bound while handle 1 is closed and given out anew. -/
theorem handles_form_finite_map_reopened :
    let requests : List Request :=
      [.alloc 2 100, .alloc 4 20, .move 0 ⟨3, 9⟩ (some ⟨9, [1]⟩), .close 0, .close 99]
    let later : List Request := [.close 1, .alloc 8 1, .move 0 ⟨1, 3⟩ none, .get 8]
    let table := (Request.runAll HandleTable.serve requests .empty).2
    let answer := (table.serve (.alloc 7 50)).1
    let next := (table.serve (.alloc 7 50)).2
    let (others, last) := Request.runAll HandleTable.serve later next
    ¬ (Request.alloc 7 50).Concerns 1 answer ∧ next.get? 1 = table.get? 1 ∧
      answer = .opened 0 ∧
      next.get? 0 = some { startCluster := 7, size := 50, position := ⟨0, 7⟩, cache := none } ∧
      (∀ request ∈ later, request.Spares 0) ∧
      .opened 0 ∉ others ∧ (last.get? 0).map OpenFile.binding = some ⟨7, 50⟩ := by
  intro requests later table answer next
  obtain ⟨-, -, -, -, -, serves⟩ := handles_form_finite_map requests
  obtain ⟨kept, given⟩ := serves (.alloc 7 50)
  have opened : answer = .opened 0 := rfl
  have unconcerned : ¬ (Request.alloc 7 50).Concerns 1 answer := by
    intro given
    cases opened.symm.trans given
  have spares : ∀ request ∈ later, request.Spares 0 := by decide
  obtain ⟨startCluster, size, asked, fresh, stays⟩ := given 0 opened
  cases asked
  obtain ⟨never, bound⟩ := stays later spares
  exact ⟨unconcerned, kept 1 unconcerned, opened, fresh, spares, never, bound⟩

end Fat32
