import Letterpress.Proofs.Value.Growth
import Letterpress.Value.Equality
import Letterpress.Value.Text

/-!
This file compares heaps that differ only where nobody looks. Values that are not hidden have the
same texts and compare alike on both heaps.
-/

namespace Letterpress

namespace Table

variable {Entry : Type} {property : Entry → Prop} {table : Table Entry} {name : String}
  {entry : Entry}

/-- Every entry of a table satisfies a property. -/
def All (property : Entry → Prop) (table : Table Entry) : Prop :=
  ∀ field ∈ table.entries, property field.2

theorem allEmpty : (empty : Table Entry).All property := nofun

theorem All.get (all : table.All property) (found : table.get? name = some entry) :
    property entry := by
  obtain ⟨before, after, split, -⟩ := splitOfGet found
  exact all (name, entry) (split ▸ List.mem_append_right before List.mem_cons_self)

theorem allInsertInto {entries : List (String × Entry)}
    (all : ∀ field ∈ entries, property field.2) (name : String) (holds : property entry) :
    ∀ field ∈ insertInto name entry entries, property field.2 := by
  induction entries with
  | nil => exact List.forall_mem_singleton.2 holds
  | cons first rest inductionHypothesis =>
      obtain ⟨ofFirst, ofRest⟩ := List.forall_mem_cons.1 all
      rw [insertInto]
      split
      · exact List.forall_mem_cons.2 ⟨holds, ofRest⟩
      · exact List.forall_mem_cons.2 ⟨ofFirst, inductionHypothesis ofRest⟩

theorem All.insert (all : table.All property) (name : String) (holds : property entry) :
    (table.insert name entry).All property := allInsertInto all name holds

theorem All.erase (all : table.All property) (name : String) : (table.erase name).All property :=
  fun field isInside => all field (List.mem_filter.1 isInside).1

end Table

/-- These are the containers that are not hidden. -/
structure Visibility where
  lists : Reference → Prop
  tuples : Reference → Prop
  records : Reference → Prop

/-- A value shows unless it is a hidden container. -/
def Visibility.Shows (visibility : Visibility) : Value → Prop
  | .list reference => visibility.lists reference
  | .tuple reference => visibility.tuples reference
  | .record reference => visibility.records reference
  | _ => True

namespace Heap

/-- Two heaps look alike if they have as many containers and the same visible ones, in which nothing
hidden lies. New lists are visible. -/
structure LooksLike (visibility : Visibility) (left right : Heap) : Prop where
  listCount : left.lists.size = right.lists.size
  tupleCount : left.tuples.size = right.tuples.size
  recordCount : left.records.size = right.records.size
  newLists : ∀ reference, left.lists.size ≤ reference → visibility.lists reference
  list : ∀ reference, visibility.lists reference → left.list reference = right.list reference ∧
    ∀ item ∈ (left.list reference).toList, visibility.Shows item
  tuple : ∀ reference, visibility.tuples reference → left.tuple reference = right.tuple reference ∧
    ∀ item ∈ (left.tuple reference).toList, visibility.Shows item
  record : ∀ reference, visibility.records reference →
    left.record reference = right.record reference ∧ (left.record reference).All visibility.Shows

variable {visibility : Visibility} {left right : Heap} {values others : List Value}
  {value first second : Value}

theorem LooksLike.depthBound (alike : left.LooksLike visibility right) :
    left.depthBound = right.depthBound := by
  rw [Heap.depthBound, Heap.depthBound, alike.listCount, alike.tupleCount, alike.recordCount]

/-! ### Texts -/

theorem gatherSame {write other : Value → Option String}
    (same : ∀ value ∈ values, write value = other value) :
    gather write values = gather other values := by
  induction values with
  | nil => rfl
  | cons value rest inductionHypothesis =>
      obtain ⟨ofValue, ofRest⟩ := List.forall_mem_cons.1 same
      rw [gather, gather, ofValue, inductionHypothesis ofRest]

theorem gatherFieldsSame {write other : Value → Option String} {fields : List (String × Value)}
    (same : ∀ field ∈ fields, write field.2 = other field.2) :
    gatherFields write fields = gatherFields other fields := by
  induction fields with
  | nil => rfl
  | cons field rest inductionHypothesis =>
      obtain ⟨ofField, ofRest⟩ := List.forall_mem_cons.1 same
      rw [gatherFields, gatherFields, ofField, inductionHypothesis ofRest]

theorem joinTextsSame {write other : Value → Except Fault String}
    (same : ∀ value ∈ values, write value = other value) :
    joinTexts write values = joinTexts other values := by
  induction values with
  | nil => rfl
  | cons value rest inductionHypothesis =>
      obtain ⟨ofValue, ofRest⟩ := List.forall_mem_cons.1 same
      rw [joinTexts, joinTexts, ofValue, inductionHypothesis ofRest]

theorem LooksLike.jsonText (alike : left.LooksLike visibility right) (depth : Nat) :
    ∀ value, visibility.Shows value → left.jsonText depth value = right.jsonText depth value := by
  induction depth with
  | zero => exact fun _ _ => by rw [Heap.jsonText, Heap.jsonText]
  | succ depth inductionHypothesis =>
      have ofItems {items : Array Value} (showItems : ∀ item ∈ items.toList, visibility.Shows item) :
          jsonText.array left depth items = jsonText.array right depth items := by
        rw [jsonText.array, jsonText.array,
          gatherSame fun item isItem => inductionHypothesis item (showItems item isItem)]
      intro value shows
      cases value with
      | list reference =>
          obtain ⟨same, showItems⟩ := alike.list reference shows
          rw [Heap.jsonText, Heap.jsonText, ← same, ofItems showItems]
      | tuple reference =>
          obtain ⟨same, showItems⟩ := alike.tuple reference shows
          rw [Heap.jsonText, Heap.jsonText, ← same, ofItems showItems]
      | record reference =>
          obtain ⟨same, showFields⟩ := alike.record reference shows
          rw [Heap.jsonText, Heap.jsonText, ← same, gatherFieldsSame fun field isField =>
            inductionHypothesis field.2 (showFields field isField)]
      | _ => rw [Heap.jsonText, Heap.jsonText]

theorem LooksLike.textTo (alike : left.LooksLike visibility right) (depth : Nat) :
    ∀ value, visibility.Shows value → left.textTo depth value = right.textTo depth value := by
  induction depth with
  | zero => exact fun _ _ => rfl
  | succ depth inductionHypothesis =>
      intro value shows
      cases value with
      | list reference =>
          obtain ⟨same, showItems⟩ := alike.list reference shows
          rw [Heap.textTo, Heap.textTo, ← same,
            joinTextsSame fun item isItem => inductionHypothesis item (showItems item isItem)]
      | tuple reference =>
          obtain ⟨same, showItems⟩ := alike.tuple reference shows
          rw [Heap.textTo, Heap.textTo, ← same,
            joinTextsSame fun item isItem => inductionHypothesis item (showItems item isItem)]
      | record reference =>
          rw [Heap.textTo, Heap.textTo, alike.depthBound, alike.jsonText _ (.record reference) shows]
      | _ => rfl

theorem LooksLike.text (alike : left.LooksLike visibility right) (shows : visibility.Shows value) :
    left.text value = right.text value := by
  rw [Heap.text, Heap.text, alike.depthBound, alike.textTo _ value shows]

theorem LooksLike.joinTexts (alike : left.LooksLike visibility right)
    (areShown : ∀ value ∈ values, visibility.Shows value) :
    Heap.joinTexts left.text values = Heap.joinTexts right.text values :=
  joinTextsSame fun value isValue => alike.text (areShown value isValue)

theorem LooksLike.isEmpty (alike : left.LooksLike visibility right)
    (shows : visibility.Shows value) : left.isEmpty value = right.isEmpty value := by
  cases value with
  | list reference => rw [Heap.isEmpty, Heap.isEmpty, (alike.list reference shows).1]
  | tuple reference => rw [Heap.isEmpty, Heap.isEmpty, (alike.tuple reference shows).1]
  | record reference => rw [Heap.isEmpty, Heap.isEmpty, (alike.record reference shows).1]
  | _ => rfl

/-! ### Comparisons -/

theorem allEqualSame {equal other : Value → Value → Except Fault Bool}
    (same : ∀ first ∈ values, ∀ second ∈ others, equal first second = other first second) :
    allEqual equal values others = allEqual other values others := by
  induction values generalizing others with
  | nil => cases others <;> rfl
  | cons first rest inductionHypothesis =>
      cases others with
      | nil => rfl
      | cons second others =>
          have ofRest := inductionHypothesis fun one isOne two isTwo =>
            same one (List.mem_cons_of_mem _ isOne) two (List.mem_cons_of_mem _ isTwo)
          rw [allEqual, allEqual, ofRest, same first List.mem_cons_self second List.mem_cons_self]

theorem fieldsEqualSame {equal other : Value → Value → Except Fault Bool} {table : Table Value}
    {fields : List (String × Value)}
    (same : ∀ field ∈ fields, ∀ name second, table.get? name = some second →
      equal second field.2 = other second field.2) :
    fieldsEqual equal table fields = fieldsEqual other table fields := by
  induction fields with
  | nil => rfl
  | cons field rest inductionHypothesis =>
      obtain ⟨ofField, ofRest⟩ := List.forall_mem_cons.1 same
      rw [fieldsEqual, fieldsEqual, inductionHypothesis ofRest]
      cases found : table.get? field.1 with
      | none => rfl
      | some second => simp only [ofField field.1 second found]

theorem LooksLike.equalTo (alike : left.LooksLike visibility right) (depth : Nat) :
    ∀ first second, visibility.Shows first → visibility.Shows second →
      left.equalTo depth first second = right.equalTo depth first second := by
  induction depth with
  | zero => exact fun _ _ _ _ => rfl
  | succ depth inductionHypothesis =>
      intro first second showsFirst showsSecond
      rw [Heap.equalTo.eq_def left, Heap.equalTo.eq_def right]
      dsimp only
      split
      case h_1 one two =>
        obtain ⟨sameOne, showOne⟩ := alike.list one showsFirst
        obtain ⟨sameTwo, showTwo⟩ := alike.list two showsSecond
        rw [← sameOne, ← sameTwo, allEqualSame fun first isFirst second isSecond =>
          inductionHypothesis first second (showOne first isFirst) (showTwo second isSecond)]
      case h_2 one two =>
        obtain ⟨sameOne, showOne⟩ := alike.tuple one showsFirst
        obtain ⟨sameTwo, showTwo⟩ := alike.tuple two showsSecond
        rw [← sameOne, ← sameTwo, allEqualSame fun first isFirst second isSecond =>
          inductionHypothesis first second (showOne first isFirst) (showTwo second isSecond)]
      case h_3 one two =>
        obtain ⟨sameOne, showOne⟩ := alike.record one showsFirst
        obtain ⟨sameTwo, showTwo⟩ := alike.record two showsSecond
        rw [← sameOne, ← sameTwo, fieldsEqualSame fun field isField name second found =>
          inductionHypothesis second field.2 (showTwo.get found) (showOne field isField)]
      case h_4 => rfl

theorem LooksLike.equal (alike : left.LooksLike visibility right)
    (showsFirst : visibility.Shows first) (showsSecond : visibility.Shows second) :
    left.equal first second = right.equal first second := by
  rw [Heap.equal, Heap.equal, alike.depthBound, alike.equalTo _ first second showsFirst showsSecond]

theorem LooksLike.looselyEqual (alike : left.LooksLike visibility right)
    (showsFirst : visibility.Shows first) (showsSecond : visibility.Shows second) :
    left.looselyEqual first second = right.looselyEqual first second := by
  unfold Heap.looselyEqual Heap.looselyEqual.compareAsNumbers
  rw [alike.equal showsFirst showsSecond]

theorem LooksLike.strictlyEqual (alike : left.LooksLike visibility right)
    (showsFirst : visibility.Shows first) (showsSecond : visibility.Shows second) :
    left.strictlyEqual first second = right.strictlyEqual first second := by
  unfold Heap.strictlyEqual
  rw [alike.equal showsFirst showsSecond]

/-! ### Changes -/

/-- A new list is visible. -/
theorem LooksLike.addList (alike : left.LooksLike visibility right)
    (areShown : ∀ value ∈ values, visibility.Shows value) :
    (left.addList values.toArray).2.LooksLike visibility (right.addList values.toArray).2 where
  listCount := by simp only [Heap.addList, Array.size_push, alike.listCount]
  tupleCount := alike.tupleCount
  recordCount := alike.recordCount
  newLists reference isNew := by
    refine alike.newLists reference (Nat.le_of_succ_le ?_)
    simpa only [Heap.addList, Array.size_push] using isNew
  list reference isVisible := by
    rw [listOfAdd, listOfAdd, alike.listCount]
    split
    · exact ⟨rfl, areShown⟩
    · exact alike.list reference isVisible
  tuple := alike.tuple
  record := alike.record

theorem LooksLike.setItem (alike : left.LooksLike visibility right) (place : Reference)
    (index : Nat) (shows : visibility.Shows value) :
    (left.setItem place index value).LooksLike visibility (right.setItem place index value) where
  listCount := by simp only [Heap.setItem, Array.size_modify, alike.listCount]
  tupleCount := alike.tupleCount
  recordCount := alike.recordCount
  newLists reference isNew := by
    refine alike.newLists reference ?_
    simpa only [Heap.setItem, Array.size_modify] using isNew
  list reference isVisible := by
    obtain ⟨same, areShown⟩ := alike.list reference isVisible
    rw [listOfSet, listOfSet, ← same]
    split
    · refine ⟨rfl, fun item isItem => ?_⟩
      rw [Array.toList_setIfInBounds] at isItem
      rcases List.mem_or_eq_of_mem_set isItem with isOld | rfl
      · exact areShown item isOld
      · exact shows
    · exact ⟨rfl, areShown⟩
  tuple := alike.tuple
  record := alike.record

theorem LooksLike.setRecord (alike : left.LooksLike visibility right) (place : Reference)
    {fields : Table Value} (areShown : fields.All visibility.Shows) :
    (left.setRecord place fields).LooksLike visibility (right.setRecord place fields) where
  listCount := alike.listCount
  tupleCount := alike.tupleCount
  recordCount := by simp only [Heap.setRecord, Array.size_setIfInBounds, alike.recordCount]
  newLists := alike.newLists
  list := alike.list
  tuple := alike.tuple
  record reference isVisible := by
    rw [recordOfChange, recordOfChange, alike.recordCount]
    split
    · exact ⟨rfl, areShown⟩
    · exact alike.record reference isVisible

end Heap

end Letterpress
