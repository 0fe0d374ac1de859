import Letterpress.Proofs.Number.ExactValue
import Letterpress.Proofs.Result
import Letterpress.Proofs.Value.Growth
import Letterpress.Proofs.Value.Text
import Letterpress.Script.Evaluation

/-!
This file ties the three ways to a member together. What is set under a key is read under every key
of the same slot, and a deletion reaches a field under its exact name only. At most one record or
one item of a list changes.
-/

namespace Letterpress.Script

/-! ### Keys -/

/-- Keys are the values that neither hold others nor can be called. -/
def IsKey : Value → Prop
  | .list _ => False
  | .tuple _ => False
  | .record _ => False
  | .function _ => False
  | .host _ => False
  | _ => True

/-- A key denotes the place that it is coerced to, if the number is a whole one. -/
def Denotes (key : Value) (place : Nat) : Prop :=
  ∃ number, key.toNumber? = .ok (some number) ∧ number.toRat = place

variable {host : Host} {heap after : Heap} {object key other value : Value} {reference : Reference}
  {length place : Nat}

/-- The text of a key does not depend on the heap. -/
theorem textOfKey (isKey : IsKey key) (heap other : Heap) : heap.text key = other.text key := by
  cases key with
  | list _ => exact isKey.elim
  | tuple _ => exact isKey.elim
  | record _ => exact isKey.elim
  | _ => rfl

theorem fieldNameIsText (heap : Heap) (key : Value) : fieldName heap key = heap.text key := by
  cases key <;> rfl

/-- A key has a text unless it is an integer beyond the real numbers. -/
theorem keyHasText (heap : Heap) (isKey : IsKey key)
    (isConvertible : ∀ number, key = .int number → Binary64.ofInt? number ≠ none) :
    ∃ name, heap.text key = .ok name := by
  cases written : heap.text key with
  | ok name => exact ⟨name, rfl⟩
  | error fault =>
      have isPlain : heap.items? key = none := by
        cases key with
        | list _ => exact isKey.elim
        | tuple _ => exact isKey.elim
        | _ => rfl
      obtain ⟨-, number, isInteger, isBeyond⟩ := Heap.plainFailure isPlain written
      exact absurd isBeyond (isConvertible number isInteger)

/-- A key has a place in a list exactly if it denotes one below the length. -/
theorem indexIff : index? key length = .ok (some place) ↔ Denotes key place ∧ place < length := by
  change (key.toNumber?).bind _ = _ ↔ _
  unfold Denotes
  cases coerced : key.toNumber? with
  | error fault => simp [Except.bind]
  | ok found =>
      cases found with
      | none => exact ⟨nofun, fun ⟨⟨_, same, _⟩, _⟩ => nomatch same⟩
      | some number =>
          have isWhole := Binary64.integralIff (Value.toNumberIsFinite coerced) place
          rw [Int.cast_natCast] at isWhole
          change Except.ok (if number.isIntegral = true ∧ 0 ≤ number.truncate ∧
            number.truncate < length then some number.truncate.toNat else none) = _ ↔ _
          rw [Except.ok.injEq, Option.ite_none_right_eq_some, Option.some.injEq]
          constructor
          · rintro ⟨⟨isIntegral, notNegative, isBelow⟩, isPlace⟩
            have isTruncated : number.truncate = place := by omega
            exact ⟨⟨number, rfl, isWhole.1 ⟨isIntegral, isTruncated⟩⟩, by omega⟩
          · rintro ⟨⟨_, same, isPlace⟩, isBelow⟩
            obtain rfl := Option.some.inj (Except.ok.inj same)
            obtain ⟨isIntegral, isTruncated⟩ := isWhole.2 isPlace
            exact ⟨⟨isIntegral, by omega, by omega⟩, by omega⟩

theorem denotesOnce {first second : Nat} (isFirst : Denotes key first)
    (isSecond : Denotes key second) : first = second := by
  obtain ⟨number, coerced, isPlace⟩ := isFirst
  obtain ⟨_, same, isOther⟩ := isSecond
  rw [coerced] at same
  obtain rfl := Option.some.inj (Except.ok.inj same)
  exact Nat.cast_injective (isPlace.symm.trans isOther)

theorem lengthDenotesNothing (place : Nat) : ¬ Denotes (.text "length") place := by
  rintro ⟨number, coerced, -⟩
  have notNumber : (Value.text "length").toNumber? = .ok none := by decide +kernel
  rw [notNumber] at coerced
  exact nomatch coerced

/-! ### Reading -/

/-- A field is read under the text of the key. -/
theorem readField (host : Host) (heap : Heap) (reference : Reference) (key : Value) :
    getMember host heap (.record reference) key =
      (liftFault (heap.text key)).map fun name =>
        ((heap.record reference).get? name).getD .null := by
  rw [← fieldNameIsText]
  rfl

theorem readItem (host : Host) (heap : Heap) (reference : Reference) (key : Value) :
    getMember host heap (.list reference) key =
      if key = .text "length" then .ok (.int (heap.list reference).size)
      else (liftFault (index? key (heap.list reference).size)).map fun place? =>
        (place?.map fun place => (heap.list reference).getD place .null).getD .null := by
  change liftFault (rowMember _ _ key) = _
  rw [rowMember]
  split
  case isTrue => rfl
  case isFalse =>
    cases index? key (heap.list reference).size <;> rfl

/-! ### Setting -/

theorem notSettableFails (heap : Heap) (object key : Value) (after : Heap) :
    notSettable heap object key ≠ .ok after := by
  rw [notSettable]
  cases liftFault (heap.text key) with
  | ok name => exact nofun
  | error failure => exact nofun

/-- A field is set under the text of the key. -/
theorem setFieldIff : setMember heap (.record reference) key value = .ok after ↔
    ∃ name, heap.text key = .ok name ∧
      after = heap.setRecord reference ((heap.record reference).insert name value) := by
  constructor
  · intro isSet
    obtain ⟨name, isName, same⟩ := bindOkIff.1 isSet
    rw [fieldNameIsText] at isName
    exact ⟨name, mapErrorOkIff.1 isName, (Except.ok.inj same).symm⟩
  · rintro ⟨name, isName, rfl⟩
    rw [setMember, fieldNameIsText, isName]
    rfl

/-- An item is set in place of the one that the key denotes. -/
theorem setItemIff : setMember heap (.list reference) key value = .ok after ↔
    ∃ place < (heap.list reference).size, Denotes key place ∧
      after = heap.setItem reference place value := by
  constructor
  · intro isSet
    obtain ⟨found, isFound, isPlaced⟩ := bindOkIff.1 isSet
    cases found with
    | none => exact absurd isPlaced (notSettableFails heap _ key after)
    | some place =>
        obtain ⟨denotes, isBelow⟩ := indexIff.1 (mapErrorOkIff.1 isFound)
        exact ⟨place, isBelow, denotes, (Except.ok.inj isPlaced).symm⟩
  · rintro ⟨place, isBelow, denotes, rfl⟩
    rw [setMember, indexIff.2 ⟨denotes, isBelow⟩]
    rfl

/-- Members are set in a record, or in a list in place of another item. -/
theorem heapAfterSet (isSet : setMember heap object key value = .ok after) :
    (∃ reference name, object = .record reference ∧
      after = heap.setRecord reference ((heap.record reference).insert name value)) ∨
      ∃ reference place, object = .list reference ∧ after = heap.setItem reference place value := by
  cases object with
  | record reference =>
      obtain ⟨name, -, isChanged⟩ := setFieldIff.1 isSet
      exact .inl ⟨reference, name, rfl, isChanged⟩
  | list reference =>
      obtain ⟨place, -, -, isChanged⟩ := setItemIff.1 isSet
      exact .inr ⟨reference, place, rfl, isChanged⟩
  | _ => exact absurd isSet (notSettableFails heap _ key after)

/-- Only the container of the value changes, if any, and no container comes or goes. -/
structure ChangesOnly (object : Value) (before after : Heap) : Prop where
  list : ∀ reference, object ≠ .list reference → after.list reference = before.list reference
  record : ∀ reference, object ≠ .record reference →
    after.record reference = before.record reference
  tuples : after.tuples = before.tuples
  listCount : after.lists.size = before.lists.size
  recordCount : after.records.size = before.records.size

theorem ChangesOnly.refl (object : Value) (heap : Heap) : ChangesOnly object heap heap where
  list _ _ := rfl
  record _ _ := rfl
  tuples := rfl
  listCount := rfl
  recordCount := rfl

theorem changesOnlyRecord (heap : Heap) (reference : Reference) (fields : Table Value) :
    ChangesOnly (.record reference) heap (heap.setRecord reference fields) where
  list _ _ := rfl
  record place isOther := by
    rw [Heap.recordOfChange, if_neg fun same => isOther (congrArg Value.record same.1)]
  tuples := rfl
  listCount := rfl
  recordCount := Array.size_setIfInBounds

theorem changesOnlyList (heap : Heap) (reference : Reference) (place : Nat) (value : Value) :
    ChangesOnly (.list reference) heap (heap.setItem reference place value) where
  list other isOther := by
    rw [Heap.listOfSet, if_neg fun same => isOther (congrArg Value.list same)]
  record _ _ := rfl
  tuples := rfl
  listCount := Array.size_modify
  recordCount := rfl

/-- Two keys share a slot of a list if they denote the same place, and of a record if they have the
same text. -/
def ShareSlot (heap : Heap) : Value → Value → Value → Prop
  | .list _, key, other => ∃ place, Denotes key place ∧ Denotes other place
  | _, key, other => heap.text key = heap.text other

/-- The value is read under the key and under others that share its slot, and what is read under
other keys stays. No list changes its length, and no other container changes. -/
structure MemberIsWritten (host : Host) (before after : Heap) (object key value : Value) :
    Prop where
  same : getMember host after object key = .ok value
  shared : ∀ other, IsKey other → ShareSlot before object key other →
    getMember host after object other = .ok value
  others : ∀ other, IsKey other → ¬ ShareSlot before object key other →
    getMember host after object other = getMember host before object other
  lengths : ∀ reference, (after.list reference).size = (before.list reference).size
  changesOnly : ChangesOnly object before after

theorem setFieldIsRead (host : Host) (isKey : IsKey key) (onHeap : reference < heap.records.size)
    (isSet : setMember heap (.record reference) key value = .ok after) :
    MemberIsWritten host heap after (.record reference) key value := by
  obtain ⟨name, isName, rfl⟩ := setFieldIff.1 isSet
  have shared (other : Value) (isOther : IsKey other) (sameText : heap.text key = heap.text other) :
      getMember host (heap.setRecord reference ((heap.record reference).insert name value))
        (.record reference) other = .ok value := by
    rw [readField, textOfKey isOther _ heap, ← sameText, isName, Heap.recordOfSet onHeap]
    simp [liftFault, Except.mapError, Except.map]
  refine ⟨shared key isKey rfl, shared, fun other isOther notShared => ?_, fun _ => rfl,
    changesOnlyRecord ..⟩
  rw [readField, readField, textOfKey isOther _ heap, Heap.recordOfSet onHeap]
  cases isText : heap.text other with
  | error fault => rfl
  | ok otherName =>
      have isOtherName : otherName ≠ name := by
        rintro rfl
        exact notShared (isName.trans isText.symm)
      simp [liftFault, Except.mapError, Except.map, isOtherName]

theorem setItemIsRead (host : Host)
    (isSet : setMember heap (.list reference) key value = .ok after) :
    MemberIsWritten host heap after (.list reference) key value := by
  obtain ⟨place, isBelow, denotes, rfl⟩ := setItemIff.1 isSet
  have items : (heap.setItem reference place value).list reference =
      (heap.list reference).setIfInBounds place value := by
    rw [Heap.listOfSet, if_pos rfl]
  have isRead (other : Value) (otherDenotes : Denotes other place) :
      getMember host (heap.setItem reference place value) (.list reference) other = .ok value := by
    have notLength : other ≠ .text "length" := by
      rintro rfl
      exact lengthDenotesNothing place otherDenotes
    rw [readItem, if_neg notLength, items, Array.size_setIfInBounds,
      indexIff.2 ⟨otherDenotes, isBelow⟩]
    simp [liftFault, Except.mapError, Except.map, isBelow]
  refine ⟨isRead key denotes, ?_, fun other isOther notShared => ?_, ?_, changesOnlyList ..⟩
  · rintro other isOther ⟨samePlace, keyDenotes, otherDenotes⟩
    obtain rfl := denotesOnce denotes keyDenotes
    exact isRead other otherDenotes
  · rw [readItem, readItem, items, Array.size_setIfInBounds]
    split
    case isTrue => rfl
    case isFalse =>
      cases found : index? other (heap.list reference).size with
      | error fault => rfl
      | ok place? =>
          cases place? with
          | none => rfl
          | some otherPlace =>
              have isOtherPlace : place ≠ otherPlace := by
                rintro rfl
                exact notShared ⟨place, denotes, (indexIff.1 found).1⟩
              simp [liftFault, Except.mapError, Except.map, Array.getD_eq_getD_getElem?,
                Array.getElem?_setIfInBounds_ne isOtherPlace]
  · intro reference'
    rw [Heap.listOfSet]
    split
    case isTrue => exact Array.size_setIfInBounds
    case isFalse => rfl

/-- Members are set in lists and records. -/
def IsContainer : Value → Prop
  | .list _ => True
  | .record _ => True
  | _ => False

/-- What a script sets under a key is read under every key of the same slot. What it cannot set
changes nothing, and this happens in a list exactly if the key denotes no place in it. -/
theorem writtenMemberIsRead (host : Host) (machine : Machine) (object key value : Value)
    (isContainer : IsContainer object) (holds : machine.heap.Holds object) (isKey : IsKey key) :
    (∀ heap, setMember machine.heap object key value = .ok heap →
        outcome (Run.setMember object key value) machine = (.ok (), { machine with heap := heap }) ∧
          MemberIsWritten host machine.heap heap object key value) ∧
      (∀ failure, setMember machine.heap object key value = .error failure →
        outcome (Run.setMember object key value) machine = (.error failure, machine)) ∧
      (∀ reference, object = .list reference →
        ((∃ failure, setMember machine.heap object key value = .error failure) ↔
          ¬ ∃ place < (machine.heap.list reference).size, Denotes key place)) ∧
      (∀ reference, object = .record reference →
        (∀ number, key = .int number → Binary64.ofInt? number ≠ none) →
          ∃ heap, setMember machine.heap object key value = .ok heap) := by
  refine ⟨fun heap isSet => ⟨?_, ?_⟩, fun failure fails => ?_, ?_, ?_⟩
  · rw [Run.outcomeSetMember, isSet]
  · cases object with
    | list reference => exact setItemIsRead host isSet
    | record reference => exact setFieldIsRead host isKey holds isSet
    | _ => exact isContainer.elim
  · rw [Run.outcomeSetMember, fails]
  · rintro reference rfl
    have isSettable : (∃ heap, setMember machine.heap (.list reference) key value = .ok heap) ↔
        ∃ place < (machine.heap.list reference).size, Denotes key place := by
      simp only [setItemIff]
      exact ⟨fun ⟨_, place, isBelow, denotes, _⟩ => ⟨place, isBelow, denotes⟩,
        fun ⟨place, isBelow, denotes⟩ => ⟨_, place, isBelow, denotes, rfl⟩⟩
    rw [← isSettable]
    cases setMember machine.heap (.list reference) key value with
    | ok heap => simp
    | error failure => simp
  · rintro reference rfl isConvertible
    obtain ⟨name, isName⟩ := keyHasText machine.heap isKey isConvertible
    exact ⟨_, setFieldIff.2 ⟨name, isName, rfl⟩⟩

/-- A padded text denotes the second item of a list, as the number does. -/
theorem paddedIndexIsRead :
    let machine := Machine.start ⟨#[#[.null, .null]], #[], #[]⟩ Table.empty Scope.empty
    IsContainer (.list 0) ∧ machine.heap.Holds (.list 0) ∧ IsKey (.text " 01 ") ∧
      ∃ heap, outcome (Run.setMember (.list 0) (.text " 01 ") (.text "v")) machine =
          (.ok (), { machine with heap := heap }) ∧
        getMember Host.standard heap (.list 0) (.int 1) = .ok (.text "v") := by
  intro machine
  have holds : machine.heap.Holds (.list 0) := Nat.zero_lt_one
  have paddedIndex : index? (.text " 01 ") 2 = .ok (some 1) := okOfOption (by decide +kernel)
  have plainIndex : index? (.int 1) 2 = .ok (some 1) := okOfOption (by decide +kernel)
  have padded : Denotes (.text " 01 ") 1 := (indexIff.1 paddedIndex).1
  have plain : Denotes (.int 1) 1 := (indexIff.1 plainIndex).1
  have isSet : setMember machine.heap (.list 0) (.text " 01 ") (.text "v") =
      .ok (machine.heap.setItem 0 1 (.text "v")) :=
    setItemIff.2 ⟨1, Nat.one_lt_two, padded, rfl⟩
  have written := (writtenMemberIsRead Host.standard machine (.list 0) (.text " 01 ") (.text "v")
    trivial holds trivial).1 _ isSet
  exact ⟨trivial, holds, trivial, _, written.1, written.2.shared _ trivial ⟨1, padded, plain⟩⟩

/-! ### Deletion -/

/-- Members are deleted from records alone. -/
theorem heapAfterDeletion {counts : Bool}
    (isDeleted : deleteMember heap object key = .ok (counts, after)) :
    after = heap ∨ ∃ reference name, object = .record reference ∧
      after = heap.setRecord reference ((heap.record reference).erase name) := by
  have unchanged {told : Bool} (same : (told, heap) = (counts, after)) : after = heap :=
    (Prod.mk.inj same).2.symm
  unfold deleteMember at isDeleted
  split at isDeleted
  case h_1 reference =>
    dsimp only at isDeleted
    split at isDeleted
    case isTrue => exact .inl (unchanged (Except.ok.inj isDeleted))
    case isFalse =>
      split at isDeleted
      case isTrue => exact nomatch isDeleted
      case isFalse =>
        cases key with
        | text name =>
            exact .inr ⟨reference, name, rfl, (Prod.mk.inj (Except.ok.inj isDeleted)).2.symm⟩
        | _ => exact .inl (unchanged (Except.ok.inj isDeleted))
  case h_2 => exact .inl (unchanged (Except.ok.inj isDeleted))

/-- A key is refused only if it is a signaling decimal. -/
theorem keyIsSearchable (heap : Heap) (isKey : IsKey key)
    (notSignaling : ∀ number, key = .decimal number → number.isSignaling = false) (depth : Nat) :
    isSearchable heap (depth + 1) key = true := by
  cases key with
  | list _ => exact isKey.elim
  | tuple _ => exact isKey.elim
  | record _ => exact isKey.elim
  | decimal number => exact congrArg not (notSignaling number rfl)
  | _ => rfl

/-- A deletion removes the field whose name is the key itself, if any. -/
theorem fieldsAfterDeletion (onHeap : reference < heap.records.size) (isKey : IsKey key)
    (notSignaling : ∀ number, key = .decimal number → number.isSignaling = false) :
    ∃ counts after, deleteMember heap (.record reference) key = .ok (counts, after) ∧
      (after.record reference).entries =
        (heap.record reference).entries.filter (fun entry => key ≠ .text entry.1) ∧
      ChangesOnly (.record reference) heap after := by
  have isSearchable := keyIsSearchable heap isKey notSignaling heap.depthBound
  simp only [deleteMember, isSearchable, Bool.not_true, Bool.false_eq_true, if_false]
  by_cases isEmpty : (heap.record reference).entries.isEmpty = true
  · refine ⟨false, heap, if_pos isEmpty, ?_, .refl _ heap⟩
    rw [List.isEmpty_iff.1 isEmpty]
    rfl
  · simp only [isEmpty]
    cases key with
    | text name =>
        refine ⟨_, _, rfl, ?_, changesOnlyRecord ..⟩
        rw [Heap.recordOfSet onHeap]
        simp [Table.erase, Table.filter, eq_comm]
    | _ => exact ⟨false, heap, rfl, by simp, .refl _ heap⟩

/-- What is read in a record depends on the entry under the text of the key alone. -/
theorem readAfterDeletion (isKey : IsKey key)
    (remaining : (after.record reference).entries =
      (heap.record reference).entries.filter (fun entry => key ≠ .text entry.1)) :
    getMember host after (.record reference) key = .ok .null ↔
      (∃ field, key = .text field) ∨ getMember host heap (.record reference) key = .ok .null := by
  rw [readField, readField, textOfKey isKey after heap]
  by_cases isText : ∃ field, key = .text field
  · obtain ⟨field, rfl⟩ := isText
    have sameEntries : (after.record reference).entries =
        ((heap.record reference).erase field).entries := by
      rw [remaining]
      simp [Table.erase, Table.filter, eq_comm]
    have erased : (after.record reference).get? field = none := by
      rw [Table.get?, sameEntries]
      change ((heap.record reference).erase field).get? field = none
      rw [Table.getErase, if_pos rfl]
    refine iff_of_true ?_ (.inl ⟨field, rfl⟩)
    change Except.ok (((after.record reference).get? field).getD .null) = _
    rw [erased]
    rfl
  · have notText (field : String) : key ≠ .text field := fun same => isText ⟨field, same⟩
    have same : (after.record reference).entries = (heap.record reference).entries := by
      simpa [notText] using remaining
    simp only [Table.get?, same, isText, false_or]

/-- A script can delete under every key, and only the field of that exact name goes. So null is read
under the key afterwards exactly if it is a text or null was read before. -/
theorem deletionReachesExactName {start middle before : Machine}
    {objectExpression keyExpression : Expression}
    (evaluatesObject :
      outcome (evaluate host objectExpression) start = (.ok (.record reference), middle))
    (evaluatesKey : outcome (evaluate host keyExpression) middle = (.ok key, before))
    (onHeap : reference < before.heap.records.size) (isKey : IsKey key)
    (notSignaling : ∀ number, key = .decimal number → number.isSignaling = false) :
    ∃ counts heap, outcome (execute host (.deleteMember objectExpression keyExpression)) start =
        (.ok (.bool counts), { before with heap := heap }) ∧
      (heap.record reference).entries =
        (before.heap.record reference).entries.filter (fun entry => key ≠ .text entry.1) ∧
      ChangesOnly (.record reference) before.heap heap ∧
      (getMember host heap (.record reference) key = .ok .null ↔
        (∃ field, key = .text field) ∨
          getMember host before.heap (.record reference) key = .ok .null) := by
  obtain ⟨counts, heap, deleted, remaining, changesOnly⟩ :=
    fieldsAfterDeletion onHeap isKey notSignaling
  refine ⟨counts, heap, ?_, remaining, changesOnly, readAfterDeletion isKey remaining⟩
  have ran : outcome (Scripting.deleteMember (.record reference) key : Run Bool) before =
      (.ok counts, { before with heap := heap }) := by
    change outcome (Run.deleteMember _ _) before = _
    rw [Run.outcomeDeleteMember, deleted]
  rw [execute, outcomeBind, evaluatesObject]
  dsimp only
  rw [outcomeBind, evaluatesKey]
  dsimp only
  rw [outcomeBind, ran]
  rfl

/-- On this machine the name `record` has a record with the given fields. -/
def machineWithRecord (fields : List (String × Value)) : Machine :=
  Machine.start { Heap.empty with records := #[.ofList fields] }
    (Table.empty.insert "record" (.record 0)) Scope.empty

theorem namedFieldIsDeleted :
    let before := machineWithRecord [("5", .text "v"), ("6", .null)]
    ∃ counts heap, outcome (execute Host.standard
        (.deleteMember (.name "record") (.literal (.text "5")))) before =
          (.ok (.bool counts), { before with heap := heap }) ∧
      (heap.record 0).entries = [("6", .null)] ∧
      getMember Host.standard heap (.record 0) (.text "5") = .ok .null := by
  intro before
  have evaluatesObject : outcome (evaluate (M := Run) Host.standard (.name "record")) before =
      (.ok (.record 0), before) := rfl
  have evaluatesKey : outcome (evaluate (M := Run) Host.standard (.literal (.text "5"))) before =
      (.ok (.text "5"), before) := rfl
  obtain ⟨counts, heap, ran, remaining, -, readsNothing⟩ :=
    deletionReachesExactName evaluatesObject evaluatesKey Nat.zero_lt_two trivial nofun
  exact ⟨counts, heap, ran, remaining, readsNothing.2 (.inl ⟨"5", rfl⟩)⟩

/-- A number reads the field of its text, but it does not delete it. -/
theorem numberedFieldSurvives :
    (runProtected Host.standard Helpers.standard false "delete record[5]; record[5]"
      (machineWithRecord [("5", .text "v")])).1.toOption = some (.text "v") := by
  decide +kernel

end Letterpress.Script
