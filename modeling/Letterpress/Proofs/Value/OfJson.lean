import Letterpress.Proofs.Value.Growth
import Letterpress.Value.OfJson

/-!
This file shows that a document is placed on the heap as values of documents, and that no others
come with it.
-/

namespace Letterpress

/-- These are the values that a document can hold. -/
def Value.IsJson : Value → Prop
  | .null | .bool _ | .int _ | .real _ | .text _ | .list _ | .record _ => True
  | _ => False

/-- All fields of a record are values of documents. -/
def Table.IsJson (fields : Table Value) : Prop :=
  ∀ name value, fields.get? name = some value → value.IsJson

theorem Table.emptyIsJson : (Table.empty : Table Value).IsJson := nofun

theorem Table.jsonOfList {entries : List (String × Value)}
    (allJson : ∀ entry ∈ entries, entry.2.IsJson) : (Table.ofList entries).IsJson := by
  intro name value found
  rw [Table.getOfList] at found
  obtain ⟨before, after, split, -⟩ := List.lookup_eq_some_iff.1 found
  refine allJson (name, value) (List.mem_reverse.1 ?_)
  rw [split]
  exact List.mem_append_right before (List.mem_cons_self ..)

namespace Heap

/-- The heap grows by records that hold values of documents. -/
structure AddsJson (before after : Heap) : Prop where
  grows : before.Grows after
  fields : ∀ reference, before.records.size ≤ reference → (after.record reference).IsJson

/-- A value of a document that is a record came later. -/
structure IsAdded (before : Heap) (value : Value) : Prop where
  isJson : value.IsJson
  isLater : ∀ reference, value = .record reference → before.records.size ≤ reference

variable {before middle after heap : Heap} {value : Value}

theorem recordOutside {reference : Reference} (isOutside : heap.records.size ≤ reference) :
    heap.record reference = Table.empty := by
  rw [record, Array.getD_eq_getD_getElem?, Array.getElem?_eq_none isOutside, Option.getD_none]

theorem AddsJson.refl (heap : Heap) : heap.AddsJson heap where
  grows := .refl heap
  fields reference isOutside := by
    rw [recordOutside isOutside]
    exact Table.emptyIsJson

theorem AddsJson.trans (first : before.AddsJson middle) (second : middle.AddsJson after) :
    before.AddsJson after where
  grows := first.grows.trans second.grows
  fields reference isLater := by
    obtain isOnHeap | isOutside := Nat.lt_or_ge reference middle.records.size
    · rw [second.grows.recordSame isOnHeap]
      exact first.fields reference isLater
    · exact second.fields reference isOutside

theorem IsAdded.sooner (isAdded : middle.IsAdded value) (grows : before.Grows middle) :
    before.IsAdded value where
  isJson := isAdded.isJson
  isLater reference isRecord := Nat.le_trans grows.recordCount (isAdded.isLater reference isRecord)

theorem addsJsonByList (heap : Heap) (items : Array Value) :
    heap.AddsJson (heap.addList items).2 where
  grows := growsByList heap items
  fields := (AddsJson.refl heap).fields

theorem addsJsonByRecord (heap : Heap) {fields : Table Value} (isJson : fields.IsJson) :
    heap.AddsJson (heap.addRecord fields).2 where
  grows := growsByRecord heap fields
  fields reference isLater := by
    rw [recordAfterAdd]
    split
    · exact isJson
    · exact (AddsJson.refl heap).fields reference isLater

mutual

/-- A document comes as a value of documents, with records of such values. -/
theorem documentIsAdded (heap : Heap) : (document : Json) →
    heap.AddsJson (heap.addJson document).2 ∧ heap.IsAdded (heap.addJson document).1
  | .null => ⟨.refl heap, trivial, nofun⟩
  | .bool _ => ⟨.refl heap, trivial, nofun⟩
  | .int _ => ⟨.refl heap, trivial, nofun⟩
  | .real _ => ⟨.refl heap, trivial, nofun⟩
  | .text _ => ⟨.refl heap, trivial, nofun⟩
  | .array items =>
      have ⟨added, _⟩ := itemsAreAdded heap items
      ⟨added.trans (addsJsonByList _ _), trivial, nofun⟩
  | .object fields =>
      have ⟨added, areAdded⟩ := fieldsAreAdded heap fields
      have isJson := Table.jsonOfList fun entry isEntry => (areAdded entry isEntry).isJson
      ⟨added.trans (addsJsonByRecord _ isJson), trivial, fun _ isRecord =>
        Value.record.inj isRecord ▸ added.grows.recordCount⟩

theorem itemsAreAdded (heap : Heap) : (items : List Json) →
    heap.AddsJson (heap.addJsonItems items).2 ∧
      ∀ value ∈ (heap.addJsonItems items).1, heap.IsAdded value
  | [] => ⟨.refl heap, nofun⟩
  | item :: rest => by
      obtain ⟨added, isAdded⟩ := documentIsAdded heap item
      obtain ⟨addedRest, areAdded⟩ := itemsAreAdded (heap.addJson item).2 rest
      refine ⟨added.trans addedRest, List.forall_mem_cons.2 ⟨isAdded, ?_⟩⟩
      exact fun value isRest => (areAdded value isRest).sooner added.grows

theorem fieldsAreAdded (heap : Heap) : (fields : List (String × Json)) →
    heap.AddsJson (heap.addJsonFields fields).2 ∧
      ∀ entry ∈ (heap.addJsonFields fields).1, heap.IsAdded entry.2
  | [] => ⟨.refl heap, nofun⟩
  | (name, item) :: rest => by
      obtain ⟨added, isAdded⟩ := documentIsAdded heap item
      obtain ⟨addedRest, areAdded⟩ := fieldsAreAdded (heap.addJson item).2 rest
      refine ⟨added.trans addedRest, List.forall_mem_cons.2 ⟨isAdded, ?_⟩⟩
      exact fun entry isRest => (areAdded entry isRest).sooner added.grows

end

end Heap

end Letterpress
