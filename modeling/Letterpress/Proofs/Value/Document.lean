import Letterpress.Proofs.Json.Reading
import Letterpress.Proofs.Table
import Letterpress.Proofs.Value.OfJson
import Letterpress.Value.Display

/-!
This file compares documents with the values that stand for them on the heap. A value is empty if its
document is, and it is shown as its document is.
-/

namespace Letterpress

namespace Json

mutual

/-- This is the number of lists and objects in a document. -/
def containers : Json → Nat
  | array items => containersInItems items + 1
  | object fields => containersInFields fields + 1
  | _ => 0

def containersInItems : List Json → Nat
  | [] => 0
  | item :: rest => containers item + containersInItems rest

def containersInFields : List (String × Json) → Nat
  | [] => 0
  | (_, value) :: rest => containers value + containersInFields rest

end

mutual

/-- Inside of another document a text is shown between quotes. -/
def shownInside : Json → String
  | null => "None"
  | bool value => if value then "True" else "False"
  | int value => integerText value
  | real value => value.roundTripText
  | text value => Text.shown value
  | array items => "[" ++ String.intercalate ", " (shownItems items) ++ "]"
  | object fields => "\x7b" ++ String.intercalate ", " (shownFields fields) ++ "\x7d"

def shownItems : List Json → List String
  | [] => []
  | item :: rest => shownInside item :: shownItems rest

def shownFields : List (String × Json) → List String
  | [] => []
  | (name, value) :: rest => (Text.shown name ++ ": " ++ shownInside value) :: shownFields rest

end

/-- Outside of other documents a text is shown as it is. -/
def shown : Json → String
  | text value => value
  | other => other.shownInside

/-- A document is empty when it holds nothing, or is zero, false or null. -/
def isEmpty : Json → Bool
  | null => true
  | bool value => !value
  | int value => value = 0
  | real value => value.isZero
  | text value => value = ""
  | array items => items.isEmpty
  | object fields => fields.isEmpty

end Json

namespace Heap

mutual

/-- The value stands for the document, and its containers are on the heap. -/
def StandsFor (heap : Heap) : Json → Value → Prop
  | .null, value => value = .null
  | .bool content, value => value = .bool content
  | .int content, value => value = .int content
  | .real content, value => value = .real content
  | .text content, value => value = .text content
  | .array items, value => ∃ reference, value = .list reference ∧ reference < heap.lists.size ∧
      StandForItems heap items (heap.list reference).toList
  | .object fields, value => ∃ reference, value = .record reference ∧
      reference < heap.records.size ∧ StandForFields heap fields (heap.record reference).entries

def StandForItems (heap : Heap) : List Json → List Value → Prop
  | [], values => values = []
  | item :: rest, values => ∃ value others, values = value :: others ∧ StandsFor heap item value ∧
      StandForItems heap rest others

def StandForFields (heap : Heap) : List (String × Json) → List (String × Value) → Prop
  | [], entries => entries = []
  | (name, item) :: rest, entries => ∃ value others, entries = (name, value) :: others ∧
      StandsFor heap item value ∧ StandForFields heap rest others

end

variable {before after heap : Heap} {value : Value} {values : List Value}
  {entries : List (String × Value)}

/-! ### Placing documents -/

theorem StandForFields.names {fields : List (String × Json)} {entries : List (String × Value)}
    (stand : heap.StandForFields fields entries) :
    entries.map Prod.fst = fields.map Prod.fst := by
  induction fields generalizing entries with
  | nil => rw [StandForFields] at stand; rw [stand]; rfl
  | cons field rest inductionHypothesis =>
      obtain ⟨value, others, rfl, -, standRest⟩ := stand
      rw [List.map_cons, List.map_cons, inductionHypothesis standRest]

mutual

/-- What stands for a document does so when other containers have come. -/
theorem StandsFor.grow (grows : before.Grows after) : {document : Json} → {value : Value} →
    before.StandsFor document value → after.StandsFor document value
  | .null, _, stands => stands
  | .bool _, _, stands => stands
  | .int _, _, stands => stands
  | .real _, _, stands => stands
  | .text _, _, stands => stands
  | .array items, value, stands => by
      obtain ⟨reference, rfl, isOnHeap, standForItems⟩ := stands
      refine ⟨reference, rfl, Nat.lt_of_lt_of_le isOnHeap grows.lists.length_le, ?_⟩
      rw [grows.listSame isOnHeap]
      exact standForItems.grow grows
  | .object fields, value, stands => by
      obtain ⟨reference, rfl, isOnHeap, standForFields⟩ := stands
      refine ⟨reference, rfl, Nat.lt_of_lt_of_le isOnHeap grows.recordCount, ?_⟩
      rw [grows.recordSame isOnHeap]
      exact standForFields.grow grows

theorem StandForItems.grow (grows : before.Grows after) : {items : List Json} →
    {values : List Value} → before.StandForItems items values → after.StandForItems items values
  | [], _, stand => stand
  | _ :: _, _, ⟨value, others, same, stands, standRest⟩ =>
      ⟨value, others, same, stands.grow grows, standRest.grow grows⟩

theorem StandForFields.grow (grows : before.Grows after) : {fields : List (String × Json)} →
    {entries : List (String × Value)} → before.StandForFields fields entries →
      after.StandForFields fields entries
  | [], _, stand => stand
  | (_, _) :: _, _, ⟨value, others, same, stands, standRest⟩ =>
      ⟨value, others, same, stands.grow grows, standRest.grow grows⟩

end

mutual

theorem documentStands (heap : Heap) : (document : Json) → document.IsSound →
    (heap.addJson document).2.StandsFor document (heap.addJson document).1
  | .null, _ => rfl
  | .bool _, _ => rfl
  | .int _, _ => rfl
  | .real _, _ => rfl
  | .text _, _ => rfl
  | .array items, .array areSound => by
      have stand := itemsStand heap items areSound
      rw [addJson]
      generalize heap.addJsonItems items = added at stand
      obtain ⟨values, after⟩ := added
      refine ⟨after.lists.size, rfl, by simp [addList], ?_⟩
      rw [listOfAdd, if_pos rfl]
      exact stand.grow (growsByList after _)
  | .object fields, .object distinct areSound => by
      have stand := fieldsStand heap fields areSound
      rw [addJson]
      generalize heap.addJsonFields fields = added at stand
      obtain ⟨entries, after⟩ := added
      have distinctEntries : (entries.map Prod.fst).Nodup := by rwa [stand.names]
      refine ⟨after.records.size, rfl, by simp [addRecord], ?_⟩
      rw [recordAfterAdd, if_pos rfl, Table.entriesOfDistinct distinctEntries]
      exact stand.grow (growsByRecord after _)

theorem itemsStand (heap : Heap) : (items : List Json) → (∀ item ∈ items, item.IsSound) →
    (heap.addJsonItems items).2.StandForItems items (heap.addJsonItems items).1
  | [], _ => rfl
  | item :: rest, areSound => by
      obtain ⟨isSound, restSound⟩ := List.forall_mem_cons.1 areSound
      have grows := (itemsAreAdded (heap.addJson item).2 rest).1.grows
      exact ⟨_, _, rfl, (documentStands heap item isSound).grow grows,
        itemsStand (heap.addJson item).2 rest restSound⟩

theorem fieldsStand (heap : Heap) : (fields : List (String × Json)) →
    (∀ field ∈ fields, field.2.IsSound) →
      (heap.addJsonFields fields).2.StandForFields fields (heap.addJsonFields fields).1
  | [], _ => rfl
  | (name, item) :: rest, areSound => by
      obtain ⟨isSound, restSound⟩ := List.forall_mem_cons.1 areSound
      have grows := (fieldsAreAdded (heap.addJson item).2 rest).1.grows
      exact ⟨_, _, rfl, (documentStands heap item isSound).grow grows,
        fieldsStand (heap.addJson item).2 rest restSound⟩

end

mutual

/-- Each list or object of a document takes one container. -/
theorem containersAdded (heap : Heap) : (document : Json) →
    (heap.addJson document).2.depthBound = heap.depthBound + document.containers
  | .null | .bool _ | .int _ | .real _ | .text _ => rfl
  | .array items => by
      have added := itemContainersAdded heap items
      rw [addJson, Json.containers, ← Nat.add_assoc, ← added]
      simp only [addList, depthBound, Array.size_push]
      omega
  | .object fields => by
      have added := fieldContainersAdded heap fields
      rw [addJson, Json.containers, ← Nat.add_assoc, ← added]
      simp only [addRecord, depthBound, Array.size_push]
      omega

theorem itemContainersAdded (heap : Heap) : (items : List Json) →
    (heap.addJsonItems items).2.depthBound = heap.depthBound + Json.containersInItems items
  | [] => rfl
  | item :: rest => by
      rw [addJsonItems, Json.containersInItems, ← Nat.add_assoc, ← containersAdded heap item]
      exact itemContainersAdded (heap.addJson item).2 rest

theorem fieldContainersAdded (heap : Heap) : (fields : List (String × Json)) →
    (heap.addJsonFields fields).2.depthBound = heap.depthBound + Json.containersInFields fields
  | [] => rfl
  | (_, item) :: rest => by
      rw [addJsonFields, Json.containersInFields, ← Nat.add_assoc, ← containersAdded heap item]
      exact fieldContainersAdded (heap.addJson item).2 rest

end

/-! ### Showing values -/

mutual

/-- The depth is enough if it exceeds the number of containers in the document. -/
theorem displayInside {heap : Heap} : {document : Json} → {value : Value} → (depth : Nat) →
    heap.StandsFor document value → document.containers < depth →
      heap.displayItem depth value = document.shownInside
  | _, _, 0, _, isEnough => absurd isEnough (Nat.not_lt_zero _)
  | .null, _, depth + 1, rfl, _ => rfl
  | .bool _, _, depth + 1, rfl, _ => rfl
  | .int _, _, depth + 1, rfl, _ => rfl
  | .real _, _, depth + 1, rfl, _ => rfl
  | .text _, _, depth + 1, rfl, _ => rfl
  | .array items, value, depth + 1, stands, isEnough => by
      obtain ⟨reference, rfl, -, stand⟩ := stands
      have shown := displayItems depth stand (Nat.lt_of_succ_lt_succ isEnough)
      rw [displayItem, Json.shownInside, shown]
  | .object fields, value, depth + 1, stands, isEnough => by
      obtain ⟨reference, rfl, -, stand⟩ := stands
      have shown := displayFields depth stand (Nat.lt_of_succ_lt_succ isEnough)
      rw [displayItem, Json.shownInside, shown]

theorem displayItems {heap : Heap} : {items : List Json} → {values : List Value} → (depth : Nat) →
    heap.StandForItems items values → Json.containersInItems items < depth →
      values.map (heap.displayItem depth) = Json.shownItems items
  | [], _, _, rfl, _ => rfl
  | item :: rest, _, depth, ⟨value, others, rfl, stands, stand⟩, isEnough => by
      rw [Json.containersInItems] at isEnough
      rw [List.map_cons, Json.shownItems, displayInside depth stands (by omega),
        displayItems depth stand (by omega)]

theorem displayFields {heap : Heap} : {fields : List (String × Json)} →
    {entries : List (String × Value)} → (depth : Nat) → heap.StandForFields fields entries →
      Json.containersInFields fields < depth →
        (entries.map fun entry => Text.shown entry.1 ++ ": " ++ heap.displayItem depth entry.2) =
          Json.shownFields fields
  | [], _, _, rfl, _ => rfl
  | (name, item) :: rest, _, depth, ⟨value, others, rfl, stands, stand⟩, isEnough => by
      rw [Json.containersInFields] at isEnough
      rw [List.map_cons, Json.shownFields, displayInside depth stands (by omega),
        displayFields depth stand (by omega)]

end

/-! ### Documents on the heap -/

/-- The value stands for a sound document, and the heap is as large as the document needs. -/
structure Places (heap : Heap) (document : Json) (value : Value) : Prop where
  stands : heap.StandsFor document value
  isSound : document.IsSound
  fits : document.containers ≤ heap.depthBound

theorem placesAdded (heap : Heap) {document : Json} (isSound : document.IsSound) :
    (heap.addJson document).2.Places document (heap.addJson document).1 where
  stands := documentStands heap document isSound
  isSound := isSound
  fits := by
    rw [containersAdded]
    exact Nat.le_add_left ..

theorem StandForItems.places {items : List Json} (stand : heap.StandForItems items values)
    (areSound : ∀ item ∈ items, item.IsSound)
    (fits : Json.containersInItems items ≤ heap.depthBound) :
    List.Forall₂ heap.Places items values := by
  induction items generalizing values with
  | nil =>
      obtain rfl : values = [] := stand
      exact .nil
  | cons item rest inductionHypothesis =>
      obtain ⟨value, others, rfl, stands, standRest⟩ := stand
      obtain ⟨isSound, restSound⟩ := List.forall_mem_cons.1 areSound
      rw [Json.containersInItems] at fits
      exact .cons ⟨stands, isSound, by omega⟩ (inductionHypothesis standRest restSound (by omega))

theorem StandForFields.places {fields : List (String × Json)}
    (stand : heap.StandForFields fields entries) (areSound : ∀ field ∈ fields, field.2.IsSound)
    (fits : Json.containersInFields fields ≤ heap.depthBound) (name : String) :
    Option.Rel heap.Places (fields.lookup name) (entries.lookup name) := by
  induction fields generalizing entries with
  | nil =>
      obtain rfl : entries = [] := stand
      exact .none
  | cons field rest inductionHypothesis =>
      obtain ⟨value, others, rfl, stands, standRest⟩ := stand
      obtain ⟨isSound, restSound⟩ := List.forall_mem_cons.1 areSound
      rw [Json.containersInFields] at fits
      rw [Table.lookupCons, Table.lookupCons]
      split
      case isTrue => exact .some ⟨stands, isSound, by omega⟩
      case isFalse => exact inductionHypothesis standRest restSound (by omega)

section

variable {document : Json}

theorem Places.sameEmpty (places : heap.Places document value) :
    heap.isEmpty value = document.isEmpty := by
  obtain ⟨stands, -, -⟩ := places
  cases document with
  | array items =>
      obtain ⟨reference, rfl, -, stand⟩ := stands
      rw [isEmpty, Json.isEmpty, ← Array.isEmpty_toList]
      cases items with
      | nil =>
          rw [show (heap.list reference).toList = [] from stand]
          rfl
      | cons item rest =>
          obtain ⟨value, others, same, -⟩ := stand
          rw [same]
          rfl
  | object fields =>
      obtain ⟨reference, rfl, -, stand⟩ := stands
      rw [isEmpty, Json.isEmpty]
      cases fields with
      | nil =>
          rw [show (heap.record reference).entries = [] from stand]
          rfl
      | cons field rest =>
          obtain ⟨value, others, same, -⟩ := stand
          rw [same]
          rfl
  | _ =>
      obtain rfl := stands
      rfl

/-- A document that was read can be shown. -/
theorem Places.display (places : heap.Places document value) :
    heap.display value = .ok document.shown := by
  obtain ⟨stands, isSound, fits⟩ := places
  have shown := displayInside (heap.depthBound + 1) stands (Nat.lt_succ_of_le fits)
  cases document with
  | text content =>
      obtain rfl := stands
      rfl
  | int number =>
      obtain rfl := stands
      cases isSound with
      | int isShort => exact if_neg (Nat.not_lt.2 isShort)
  | array items =>
      obtain ⟨reference, rfl, -⟩ := stands
      exact congrArg Except.ok shown
  | object fields =>
      obtain ⟨reference, rfl, -⟩ := stands
      exact congrArg Except.ok shown
  | _ =>
      obtain rfl := stands
      exact congrArg Except.ok shown

theorem Places.items {items : List Json} (places : heap.Places (.array items) value) :
    ∃ reference, value = .list reference ∧
      List.Forall₂ heap.Places items (heap.list reference).toList := by
  obtain ⟨⟨reference, rfl, -, stand⟩, isSound, fits⟩ := places
  cases isSound with
  | array areSound =>
      exact ⟨reference, rfl, stand.places areSound (Nat.le_of_succ_le fits)⟩

theorem Places.fields {fields : List (String × Json)} (places : heap.Places (.object fields) value) :
    ∃ reference, value = .record reference ∧ ∀ name,
      Option.Rel heap.Places (fields.lookup name) ((heap.record reference).get? name) := by
  obtain ⟨⟨reference, rfl, -, stand⟩, isSound, fits⟩ := places
  cases isSound with
  | object _ areSound =>
      exact ⟨reference, rfl, stand.places areSound (Nat.le_of_succ_le fits)⟩

end

end Heap

end Letterpress
