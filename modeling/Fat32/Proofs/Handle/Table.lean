import Fat32.Handle.Table

/-!
The table of open files seen through `get?`. Every operation is described by
what it does to the slot that it is about and by what it leaves alone. What a
closed file left in its slot is not seen (`opened`), and two tables that differ
in it only serve every use alike.
-/

namespace Fat32

@[simp] theorem OpenFile.rewind_eq (file : OpenFile) :
    file.rewind = .atStart file.startCluster file.size := rfl

namespace HandleTable

variable (table : HandleTable)

@[simp] theorem get?_empty (handle : Handle) : empty.get? handle = none := by
  unfold get? empty
  rw [Vector.getElem?_replicate]
  split <;> rfl

theorem get?_eq_none_of_le {handle : Handle} (outside : maxOpenFiles ≤ handle) :
    table.get? handle = none := by
  unfold get?
  rw [Vector.getElem?_eq_none outside]
  rfl

theorem lt_of_get? {handle : Handle} {file : OpenFile} (found : table.get? handle = some file) :
    handle < maxOpenFiles := by
  apply Nat.lt_of_not_le
  intro outside
  rw [get?_eq_none_of_le table outside] at found
  cases found

theorem slots_modify (handle other : Handle) (change : Slot → Slot) :
    (table.modify handle change).slots[other]? =
      if other = handle then table.slots[other]?.map change else table.slots[other]? := by
  unfold modify
  cases found : table.slots[handle]? with
  | none =>
    by_cases same : other = handle
    · subst same
      rw [if_pos rfl, found]
      rfl
    · rw [if_neg same]
  | some slot =>
    have inside : handle < maxOpenFiles := (Vector.getElem?_eq_some_iff.mp found).1
    by_cases same : other = handle
    · subst same
      rw [if_pos rfl, found, Vector.getElem?_setIfInBounds_self_of_lt inside]
      rfl
    · rw [if_neg same, Vector.getElem?_setIfInBounds_ne (Ne.symm same)]

theorem get?_modify_self (handle : Handle) (change : Slot → Slot) :
    (table.modify handle change).get? handle =
      table.slots[handle]?.bind fun slot => (change slot).opened? := by
  rw [get?, slots_modify, if_pos rfl, Option.bind_map]
  rfl

theorem get?_modify_of_ne {handle other : Handle} (change : Slot → Slot) (apart : other ≠ handle) :
    (table.modify handle change).get? other = table.get? other := by
  rw [get?, slots_modify, if_neg apart, get?]

theorem get?_put_self {handle : Handle} (file : OpenFile) (inside : handle < maxOpenFiles) :
    (table.put handle file).get? handle = some file := by
  unfold put
  rw [get?_modify_self, Vector.getElem?_eq_getElem inside]
  rfl

theorem get?_put_of_ne {handle other : Handle} (file : OpenFile) (apart : other ≠ handle) :
    (table.put handle file).get? other = table.get? other :=
  get?_modify_of_ne table _ apart

theorem get?_put_eq_some {handle other : Handle} {file opened : OpenFile}
    (inside : handle < maxOpenFiles) (found : (table.put handle file).get? other = some opened) :
    (other = handle ∧ opened = file) ∨ (other ≠ handle ∧ table.get? other = some opened) := by
  by_cases same : other = handle
  · subst same
    rw [get?_put_self table file inside] at found
    cases found
    exact .inl ⟨rfl, rfl⟩
  · rw [get?_put_of_ne table file same] at found
    exact .inr ⟨same, found⟩

theorem get?_close_self (handle : Handle) : (table.close handle).get? handle = none := by
  unfold close
  rw [get?_modify_self]
  cases table.slots[handle]? <;> rfl

theorem get?_close_of_ne {handle other : Handle} (apart : other ≠ handle) :
    (table.close handle).get? other = table.get? other :=
  get?_modify_of_ne table _ apart

theorem get?_close_eq_some {handle other : Handle} {file : OpenFile}
    (found : (table.close handle).get? other = some file) :
    other ≠ handle ∧ table.get? other = some file := by
  by_cases same : other = handle
  · subst same
    rw [get?_close_self] at found
    cases found
  · rw [get?_close_of_ne table same] at found
    exact ⟨same, found⟩

@[simp] theorem get?_closeAll (handle : Handle) : table.closeAll.get? handle = none := by
  unfold get? closeAll
  rw [Vector.getElem?_ofFn]
  split <;> rfl

theorem get_eq_ok_iff {handle : Handle} {file : OpenFile} :
    table.get handle = .ok file ↔ table.get? handle = some file := by
  unfold get
  cases table.get? handle <;> simp

/-- A slot that is taken holds a new file, whatever was left in it. -/
theorem modify_occupy (handle : Handle) (startCluster size : UInt32) :
    table.modify handle (·.occupy startCluster size) =
      table.put handle (.atStart startCluster size) := rfl

theorem alloc_eq (startCluster size : UInt32) :
    table.alloc startCluster size =
      match table.free? with
      | some handle => .ok (handle, table.put handle (.atStart startCluster size))
      | none => .error .tooManyOpenFiles := by
  unfold alloc
  cases table.free? with
  | none => rfl
  | some handle =>
    dsimp only
    rw [modify_occupy]

theorem alloc_eq_ok {startCluster size : UInt32} {handle : Handle} {next : HandleTable}
    (opened : table.alloc startCluster size = .ok (handle, next)) :
    handle < maxOpenFiles ∧ table.get? handle = none ∧
      next = table.put handle (.atStart startCluster size) := by
  rw [alloc_eq] at opened
  split at opened
  · rename_i slot free
    cases opened
    have inRange := List.mem_of_find?_eq_some free
    have isFree := List.find?_some free
    exact ⟨List.mem_range.mp inRange, Option.isNone_iff_eq_none.mp isFree, rfl⟩
  · cases opened

/-! A table as it is seen from outside: the files that are open, without what closed ones left. -/

/-- The file that is open in each slot. -/
def opened (table : HandleTable) : Vector (Option OpenFile) maxOpenFiles :=
  table.slots.map Slot.opened?

theorem get?_eq_join (handle : Handle) : table.get? handle = (table.opened[handle]?).join := by
  unfold get? opened
  rw [Vector.getElem?_map]
  cases table.slots[handle]? <;> rfl

theorem getElem_opened (handle : Handle) (inside : handle < maxOpenFiles) :
    table.opened[handle] = table.get? handle := by
  rw [get?_eq_join, Vector.getElem?_eq_getElem inside]
  rfl

theorem opened_put (handle : Handle) (file : OpenFile) :
    (table.put handle file).opened = table.opened.setIfInBounds handle (some file) := by
  apply Vector.ext
  intro other inside
  rw [getElem_opened, Vector.getElem_setIfInBounds inside]
  split
  · rename_i same
    subst same
    exact get?_put_self table file inside
  · rename_i apart
    rw [get?_put_of_ne table file (Ne.symm apart), getElem_opened]

theorem opened_close (handle : Handle) :
    (table.close handle).opened = table.opened.setIfInBounds handle none := by
  apply Vector.ext
  intro other inside
  rw [getElem_opened, Vector.getElem_setIfInBounds inside]
  split
  · rename_i same
    subst same
    exact get?_close_self table handle
  · rename_i apart
    rw [get?_close_of_ne table (Ne.symm apart), getElem_opened]

theorem opened_closeAll : table.closeAll.opened = .replicate maxOpenFiles none := by
  apply Vector.ext
  intro handle inside
  rw [getElem_opened, get?_closeAll, Vector.getElem_replicate]

theorem count_eq_countP : table.count = table.opened.toList.countP Option.isSome := by
  have inUse : Option.isSome ∘ Slot.opened? = Slot.inUse := by
    funext slot
    obtain ⟨inUse, file⟩ := slot
    cases inUse <;> rfl
  rw [count, opened, Vector.toList_map, List.countP_map, inUse]

section Opened

variable {table} {other : HandleTable} (same : table.opened = other.opened)

include same

theorem get?_congr (handle : Handle) : table.get? handle = other.get? handle := by
  rw [get?_eq_join, same, ← get?_eq_join]

theorem get_congr (handle : Handle) : table.get handle = other.get handle := by
  unfold get
  rw [get?_congr same]

theorem free?_congr : table.free? = other.free? := by
  unfold free?
  simp only [get?_congr same]

end Opened

end HandleTable

end Fat32
