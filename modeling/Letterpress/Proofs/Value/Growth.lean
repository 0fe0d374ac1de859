import Letterpress.Value.Basic

/-!
This file tells what a heap holds after a change, and compares a heap with a later one. A heap grows
if new containers come after the ones it has, which keep their contents. It keeps its sizes if none
of its lists and tuples has another size later.
-/

namespace Letterpress.Heap

/-- The later heap has the containers of the earlier one, and then others. -/
structure Grows (before after : Heap) : Prop where
  lists : before.lists.toList <+: after.lists.toList
  tuples : before.tuples.toList <+: after.tuples.toList
  records : before.records.toList <+: after.records.toList

/-- The container of a value is on the heap. Other values need none. -/
def Holds (heap : Heap) : Value → Prop
  | .list reference => reference < heap.lists.size
  | .tuple reference => reference < heap.tuples.size
  | .record reference => reference < heap.records.size
  | _ => True

variable {before middle after heap : Heap} {reference : Reference}

theorem listOfAdd (heap : Heap) (items : Array Value) (reference : Reference) :
    (heap.addList items).2.list reference =
      if reference = heap.lists.size then items else heap.list reference := by
  simp only [addList, list, Array.getD_eq_getD_getElem?, Array.getElem?_push]
  split <;> rfl

theorem listOfSet (heap : Heap) (place : Reference) (index : Nat) (value : Value)
    (reference : Reference) :
    (heap.setItem place index value).list reference =
      if place = reference then (heap.list reference).setIfInBounds index value
      else heap.list reference := by
  simp only [setItem, list, Array.getD_eq_getD_getElem?, Array.getElem?_modify]
  split
  · cases heap.lists[reference]? <;> rfl
  · rfl

theorem recordOfChange (heap : Heap) (place : Reference) (fields : Table Value)
    (reference : Reference) :
    (heap.setRecord place fields).record reference =
      if place = reference ∧ reference < heap.records.size then fields
      else heap.record reference := by
  simp only [setRecord, record, Array.getD_eq_getD_getElem?, Array.getElem?_setIfInBounds]
  by_cases same : place = reference
  · by_cases isOnHeap : reference < heap.records.size <;> simp [same, isOnHeap]
  · simp [same]

theorem recordOfSet (isOnHeap : reference < heap.records.size) (fields : Table Value) :
    (heap.setRecord reference fields).record reference = fields := by
  rw [recordOfChange, if_pos ⟨rfl, isOnHeap⟩]

theorem recordAfterAdd (heap : Heap) (fields : Table Value) (reference : Reference) :
    (heap.addRecord fields).2.record reference =
      if reference = heap.records.size then fields else heap.record reference := by
  simp only [addRecord, record, Array.getD_eq_getD_getElem?, Array.getElem?_push]
  split <;> rfl

theorem recordOfAdd (heap : Heap) (fields : Table Value) :
    (heap.addRecord fields).2.record (heap.addRecord fields).1 = fields := by
  rw [recordAfterAdd, addRecord, if_pos rfl]

theorem Grows.refl (heap : Heap) : heap.Grows heap :=
  ⟨List.prefix_rfl, List.prefix_rfl, List.prefix_rfl⟩

theorem Grows.trans (first : before.Grows middle) (second : middle.Grows after) :
    before.Grows after :=
  ⟨first.lists.trans second.lists, first.tuples.trans second.tuples,
    first.records.trans second.records⟩

theorem growsByRecord (heap : Heap) (fields : Table Value) :
    heap.Grows (heap.addRecord fields).2 where
  lists := List.prefix_rfl
  tuples := List.prefix_rfl
  records := by simp [addRecord]

theorem growsByList (heap : Heap) (items : Array Value) : heap.Grows (heap.addList items).2 where
  lists := by simp [addList]
  tuples := List.prefix_rfl
  records := List.prefix_rfl

theorem Grows.recordCount (grows : before.Grows after) :
    before.records.size ≤ after.records.size :=
  grows.records.length_le

/-- A record that came later may change. -/
theorem Grows.setRecord (grows : before.Grows after) (isLater : before.records.size ≤ reference)
    (fields : Table Value) : before.Grows (after.setRecord reference fields) where
  lists := grows.lists
  tuples := grows.tuples
  records := by
    obtain ⟨rest, whole⟩ := grows.records
    refine ⟨rest.set (reference - before.records.size) fields, ?_⟩
    rw [Heap.setRecord, Array.toList_setIfInBounds, ← whole,
      List.set_append_right _ _ (by simpa using isLater), Array.length_toList]

theorem getOfPrefix {Item : Type} {first second : Array Item} {index : Nat}
    (isPrefix : first.toList <+: second.toList) (isInside : index < first.size) (default : Item) :
    second.getD index default = first.getD index default := by
  obtain ⟨rest, whole⟩ := isPrefix
  have inList : index < first.toList.length := by simpa using isInside
  rw [Array.getD_eq_getD_getElem?, Array.getD_eq_getD_getElem?, ← Array.getElem?_toList,
    ← Array.getElem?_toList, ← whole, List.getElem?_append_left inList]

theorem Grows.recordSame (grows : before.Grows after)
    (isOnHeap : reference < before.records.size) :
    after.record reference = before.record reference :=
  getOfPrefix grows.records isOnHeap _

theorem Grows.listSame (grows : before.Grows after) (isOnHeap : reference < before.lists.size) :
    after.list reference = before.list reference :=
  getOfPrefix grows.lists isOnHeap _

theorem Grows.tupleSame (grows : before.Grows after) (isOnHeap : reference < before.tuples.size) :
    after.tuple reference = before.tuple reference :=
  getOfPrefix grows.tuples isOnHeap _

/-! ### Sizes -/

/-- The lists and tuples of the earlier heap are there later, and none of them has another size. -/
structure KeepsSizes (before after : Heap) : Prop where
  moreLists : before.lists.size ≤ after.lists.size
  moreTuples : before.tuples.size ≤ after.tuples.size
  ofList : ∀ reference < before.lists.size, (after.list reference).size = (before.list reference).size
  ofTuple : ∀ reference < before.tuples.size,
    (after.tuple reference).size = (before.tuple reference).size

theorem KeepsSizes.refl (heap : Heap) : heap.KeepsSizes heap :=
  ⟨Nat.le_refl _, Nat.le_refl _, fun _ _ => rfl, fun _ _ => rfl⟩

theorem KeepsSizes.trans (first : before.KeepsSizes middle) (second : middle.KeepsSizes after) :
    before.KeepsSizes after where
  moreLists := Nat.le_trans first.moreLists second.moreLists
  moreTuples := Nat.le_trans first.moreTuples second.moreTuples
  ofList reference isOnHeap :=
    (second.ofList reference (Nat.lt_of_lt_of_le isOnHeap first.moreLists)).trans
      (first.ofList reference isOnHeap)
  ofTuple reference isOnHeap :=
    (second.ofTuple reference (Nat.lt_of_lt_of_le isOnHeap first.moreTuples)).trans
      (first.ofTuple reference isOnHeap)

/-- A heap that grows keeps all the contents that it has. -/
theorem Grows.keepsSizes (grows : before.Grows after) : before.KeepsSizes after where
  moreLists := by simpa using grows.lists.length_le
  moreTuples := by simpa using grows.tuples.length_le
  ofList _ isOnHeap := congrArg Array.size (grows.listSame isOnHeap)
  ofTuple _ isOnHeap := congrArg Array.size (grows.tupleSame isOnHeap)

theorem addListKeepsSizes (heap : Heap) (items : Array Value) :
    heap.KeepsSizes (heap.addList items).2 := by
  apply Grows.keepsSizes
  refine ⟨?_, List.prefix_rfl, List.prefix_rfl⟩
  simp [addList]

theorem setItemKeepsSizes (heap : Heap) (place : Reference) (index : Nat) (value : Value) :
    heap.KeepsSizes (heap.setItem place index value) where
  moreLists := by simp [setItem]
  moreTuples := Nat.le_refl _
  ofList reference _ := by
    rw [listOfSet]
    split
    case isTrue => exact Array.size_setIfInBounds
    case isFalse => rfl
  ofTuple _ _ := rfl

theorem setRecordKeepsSizes (heap : Heap) (reference : Reference) (fields : Table Value) :
    heap.KeepsSizes (heap.setRecord reference fields) :=
  ⟨Nat.le_refl _, Nat.le_refl _, fun _ _ => rfl, fun _ _ => rfl⟩

/-- A row that has items keeps their number. -/
theorem KeepsSizes.items {value : Value} {found : Array Value} (keeps : before.KeepsSizes after)
    (isFound : before.items? value = some found) (notEmpty : found.size ≠ 0) :
    ∃ later, after.items? value = some later ∧ later.size = found.size := by
  have isOnHeap {rows : Array (Array Value)} {reference : Reference}
      (isRow : found = rows.getD reference #[]) : reference < rows.size := by
    refine Nat.lt_of_not_le fun isOutside => notEmpty ?_
    rw [isRow, Array.getD_eq_getD_getElem?, Array.getElem?_eq_none isOutside]
    rfl
  cases value with
  | list reference =>
      obtain rfl := Option.some.inj isFound
      exact ⟨_, rfl, keeps.ofList reference (isOnHeap rfl)⟩
  | tuple reference =>
      obtain rfl := Option.some.inj isFound
      exact ⟨_, rfl, keeps.ofTuple reference (isOnHeap rfl)⟩
  | _ => exact nomatch isFound

end Letterpress.Heap
