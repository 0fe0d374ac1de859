import Mathlib.Data.List.Perm.Subperm
import Mathlib.Logic.Relation
import Letterpress.Proofs.Result
import Letterpress.Value.Text

/-!
This file tells which values have no text. A value has none if a list in it contains itself, or if
an integer in it is beyond the real numbers. What lies in a record does not matter.
-/

namespace Letterpress

namespace Number

variable {number : Number} {fault : Fault}

/-- The rounding is any function here, since the real one unfolds to large powers. -/
theorem roundingFails (round : Int → Option Binary64) :
    (match number with
      | int value =>
        match round value with
        | some rounded => Except.ok rounded
        | none => .error Fault.overflow
      | real value => .ok value) = .error fault ↔
      fault = .overflow ∧ ∃ value, number = int value ∧ round value = none := by
  cases number with
  | int value => cases found : round value <;> simp [found, eq_comm]
  | real value => simp

theorem toRealFails : number.toReal = .error fault ↔
    fault = .overflow ∧ ∃ value, number = int value ∧ Binary64.ofInt? value = none := by
  delta toReal
  exact roundingFails Binary64.ofInt?

/-- A number is not written exactly if it has no real counterpart. -/
theorem plainTextFails : number.plainText = .error fault ↔
    fault = .overflow ∧ ∃ value, number = int value ∧ Binary64.ofInt? value = none := by
  rw [← toRealFails]
  cases number with
  | real value => exact ⟨nofun, nofun⟩
  | int value =>
      change (int value).toReal.bind _ = _ ↔ _
      cases (int value).toReal with
      | error other => rw [Except.bind, Except.error.injEq, Except.error.injEq]
      | ok rounded => exact ⟨nofun, nofun⟩

end Number

namespace Heap

/-- A list or a tuple contains its items. -/
def Contains (heap : Heap) (value item : Value) : Prop :=
  ∃ items, heap.items? value = some items ∧ item ∈ items.toList

/-- Whatever is written when a value is written is reached from it. -/
def Reaches (heap : Heap) : Value → Value → Prop := Relation.ReflTransGen heap.Contains

def IsCyclic (heap : Heap) (value : Value) : Prop :=
  ∃ inner, heap.Reaches value inner ∧ Relation.TransGen heap.Contains inner inner

/-- A real number stands for every integer in a value but for those that are too large. -/
def HoldsBeyond (heap : Heap) (value : Value) : Prop :=
  ∃ number, heap.Reaches value (.int number) ∧ Binary64.ofInt? number = none

variable {heap : Heap} {value item inner : Value} {items : Array Value} {depth : Nat}
  {text : String} {fault : Fault}

/-! ### The number of containers -/

/-- These are all lists and tuples of a heap. -/
def containers (heap : Heap) : List Value :=
  (List.range heap.lists.size).map .list ++ (List.range heap.tuples.size).map .tuple

/-- What is not on the heap has no items. -/
theorem placeOfItem {rows : Array (Array Value)} {reference : Reference}
    (isItem : item ∈ (rows.getD reference #[]).toList) : reference < rows.size := by
  by_contra outside
  simp [Array.getD_eq_getD_getElem?, Array.getElem?_eq_none (Nat.le_of_not_lt outside)] at isItem

theorem Contains.isContainer (contains : heap.Contains value item) : value ∈ heap.containers := by
  obtain ⟨items, isContainer, isItem⟩ := contains
  cases value with
  | list reference =>
      obtain rfl := Option.some.inj isContainer
      have onHeap := List.mem_range.2 (placeOfItem isItem)
      exact List.mem_append_left _ (List.mem_map_of_mem onHeap)
  | tuple reference =>
      obtain rfl := Option.some.inj isContainer
      have onHeap := List.mem_range.2 (placeOfItem isItem)
      exact List.mem_append_right _ (List.mem_map_of_mem onHeap)
  | _ => exact nomatch isContainer

/-- Each of these containers has the next one as an item. The value comes first. -/
inductive Descends (heap : Heap) : Value → List Value → Prop
  | here (value : Value) : Descends heap value []
  | item {value inner : Value} {passed : List Value} (contains : heap.Contains value inner)
      (descends : Descends heap inner passed) : Descends heap value (value :: passed)

section

variable {passed : List Value}

theorem Descends.reaches (descends : heap.Descends value passed) :
    ∀ inner ∈ passed, heap.Reaches value inner ∧ inner ∈ heap.containers := by
  induction descends with
  | here => exact nofun
  | item contains _ inductionHypothesis =>
      refine List.forall_mem_cons.2 ⟨⟨.refl, contains.isContainer⟩, fun inner isPassed => ?_⟩
      obtain ⟨reaches, isContainer⟩ := inductionHypothesis inner isPassed
      exact ⟨.head contains reaches, isContainer⟩

theorem IsCyclic.ofItem (contains : heap.Contains value item) (isCyclic : heap.IsCyclic item) :
    heap.IsCyclic value := by
  obtain ⟨inner, reaches, returns⟩ := isCyclic
  exact ⟨inner, .head contains reaches, returns⟩

/-- A descent that comes to no cycle passes no container twice. -/
theorem Descends.nodup (descends : heap.Descends value passed) (acyclic : ¬ heap.IsCyclic value) :
    passed.Nodup := by
  induction descends with
  | here => exact List.nodup_nil
  | item contains descends inductionHypothesis =>
      refine List.nodup_cons.2 ⟨fun isPassed => ?_,
        inductionHypothesis fun isCyclic => acyclic (isCyclic.ofItem contains)⟩
      obtain ⟨reaches, -⟩ := descends.reaches _ isPassed
      exact acyclic ⟨_, .refl, .head' contains reaches⟩

theorem Descends.bounded (descends : heap.Descends value passed)
    (acyclic : ¬ heap.IsCyclic value) : passed.length < heap.depthBound := by
  have isSubset : passed ⊆ heap.containers := fun inner isPassed =>
    (descends.reaches inner isPassed).2
  have bounded := ((descends.nodup acyclic).subperm isSubset).length_le
  simp only [containers, List.length_append, List.length_map, List.length_range] at bounded
  unfold depthBound
  omega

end

/-! ### Failures -/

theorem joinTextsCons (write : Value → Except Fault String) (item : Value) (rest : List Value) :
    joinTexts write (item :: rest) =
      (write item).bind fun text => (joinTexts write rest).bind fun texts => .ok (text :: texts) :=
  rfl

theorem joinTextsFailure {write : Value → Except Fault String} {items : List Value}
    (fails : joinTexts write items = .error fault) : ∃ item ∈ items, write item = .error fault := by
  induction items with
  | nil => exact nomatch fails
  | cons item rest inductionHypothesis =>
      rw [joinTextsCons, bindErrorIff] at fails
      obtain itemFails | ⟨text, -, restFails⟩ := fails
      · exact ⟨item, List.mem_cons_self, itemFails⟩
      · obtain restFails | ⟨texts, -, succeeds⟩ := bindErrorIff.1 restFails
        · obtain ⟨later, isLater, laterFails⟩ := inductionHypothesis restFails
          exact ⟨later, List.mem_cons_of_mem _ isLater, laterFails⟩
        · exact nomatch succeeds

theorem joinTextsSuccess {write : Value → Except Fault String} {items : List Value}
    {texts : List String} (succeeds : joinTexts write items = .ok texts) :
    ∀ item ∈ items, ∃ text, write item = .ok text := by
  induction items generalizing texts with
  | nil => exact nofun
  | cons item rest inductionHypothesis =>
      rw [joinTextsCons, bindOkIff] at succeeds
      obtain ⟨text, written, succeedsRest⟩ := succeeds
      obtain ⟨others, writtenRest, -⟩ := bindOkIff.1 succeedsRest
      exact List.forall_mem_cons.2 ⟨⟨text, written⟩, inductionHypothesis writtenRest⟩

theorem textOfContainer (isContainer : heap.items? value = some items) (depth : Nat) :
    heap.textTo (depth + 1) value =
      (joinTexts (heap.textTo depth) items.toList).bind fun texts => .ok (String.join texts) := by
  cases value with
  | list reference =>
      obtain rfl := Option.some.inj isContainer
      rfl
  | tuple reference =>
      obtain rfl := Option.some.inj isContainer
      rfl
  | _ => exact nomatch isContainer

/-- Of the values without items, only integers may have no text. -/
theorem plainFailure (isPlain : heap.items? value = none)
    (fails : heap.textTo (depth + 1) value = .error fault) :
    fault = .overflow ∧ ∃ number, value = .int number ∧ Binary64.ofInt? number = none := by
  cases value with
  | int number =>
      replace fails : (Number.int number).plainText = .error fault := fails
      obtain ⟨isOverflow, _, same, isBeyond⟩ := Number.plainTextFails.1 fails
      obtain rfl := Number.int.inj same
      exact ⟨isOverflow, number, rfl, isBeyond⟩
  | list reference => exact nomatch isPlain
  | tuple reference => exact nomatch isPlain
  | _ => exact nomatch fails

/-- A text fails at an integer, or where the depth is used up. -/
theorem textToFailure (fails : heap.textTo depth value = .error fault) :
    (fault = .overflow ∧ heap.HoldsBeyond value) ∨
      (fault = .tooDeep ∧ ∃ passed, heap.Descends value passed ∧ passed.length = depth) := by
  -- Each container on the way down uses up one level of the depth, so those passed are counted.
  induction depth generalizing value with
  | zero => exact .inr ⟨(Except.error.inj fails).symm, [], .here value, rfl⟩
  | succ depth inductionHypothesis =>
      cases isContainer : heap.items? value with
      | none =>
          obtain ⟨rfl, number, rfl, isBeyond⟩ := plainFailure isContainer fails
          exact .inl ⟨rfl, number, .refl, isBeyond⟩
      | some items =>
          rw [textOfContainer isContainer, bindErrorIff] at fails
          obtain joinFails | ⟨texts, -, succeeds⟩ := fails
          case inr => exact nomatch succeeds
          obtain ⟨item, isItem, itemFails⟩ := joinTextsFailure joinFails
          have contains : heap.Contains value item := ⟨items, isContainer, isItem⟩
          obtain ⟨rfl, number, reaches, isBeyond⟩ | ⟨rfl, passed, descends, rfl⟩ :=
            inductionHypothesis itemFails
          · exact .inl ⟨rfl, number, .head contains reaches, isBeyond⟩
          · exact .inr ⟨rfl, value :: passed, .item contains descends, rfl⟩

/-- A value without a text reaches an integer that is too large, or it contains itself. -/
theorem textFailure (fails : heap.text value = .error fault) :
    (fault = .overflow ∧ heap.HoldsBeyond value) ∨ (fault = .tooDeep ∧ heap.IsCyclic value) := by
  refine (textToFailure fails).imp_right fun ⟨isTooDeep, passed, descends, sameLength⟩ =>
    ⟨isTooDeep, ?_⟩
  by_contra acyclic
  have bounded := descends.bounded acyclic
  omega

/-! ### Texts -/

/-- The items of a value that has a text are written with less depth. -/
theorem itemWritten (written : heap.textTo depth value = .ok text)
    (contains : heap.Contains value item) :
    ∃ below < depth, ∃ itemText, heap.textTo below item = .ok itemText := by
  obtain ⟨items, isContainer, isItem⟩ := contains
  cases depth with
  | zero => exact nomatch written
  | succ depth =>
      rw [textOfContainer isContainer, bindOkIff] at written
      obtain ⟨texts, joined, -⟩ := written
      exact ⟨depth, Nat.lt_succ_self _, joinTextsSuccess joined item isItem⟩

theorem innerWritten (written : heap.textTo depth value = .ok text)
    (contains : Relation.TransGen heap.Contains value inner) :
    ∃ below < depth, ∃ innerText, heap.textTo below inner = .ok innerText := by
  induction contains with
  | single contains => exact itemWritten written contains
  | tail _ contains inductionHypothesis =>
      obtain ⟨below, isBelow, middleText, writtenMiddle⟩ := inductionHypothesis
      obtain ⟨lower, isLower, innerText, writtenInner⟩ := itemWritten writtenMiddle contains
      exact ⟨lower, Nat.lt_trans isLower isBelow, innerText, writtenInner⟩

theorem reachedWritten (written : heap.textTo depth value = .ok text)
    (reaches : heap.Reaches value inner) :
    ∃ below innerText, heap.textTo below inner = .ok innerText := by
  obtain rfl | contains := Relation.reflTransGen_iff_eq_or_transGen.1 reaches
  · exact ⟨depth, text, written⟩
  · obtain ⟨below, -, innerText, writtenInner⟩ := innerWritten written contains
    exact ⟨below, innerText, writtenInner⟩

/-- However large the depth is, a value that contains itself is written with less. -/
theorem cycleUnwritten (returns : Relation.TransGen heap.Contains value value) (depth : Nat) :
    ∀ text, heap.textTo depth value ≠ .ok text := by
  induction depth using Nat.strongRecOn with
  | ind depth inductionHypothesis =>
      intro text written
      obtain ⟨below, isBelow, innerText, writtenInner⟩ := innerWritten written returns
      exact inductionHypothesis below isBelow innerText writtenInner

/-- A value has no text exactly if it contains itself or reaches an integer that is too large. -/
theorem textFailsIff (heap : Heap) (value : Value) :
    (∃ fault, heap.text value = .error fault) ↔ heap.IsCyclic value ∨ heap.HoldsBeyond value := by
  constructor
  · rintro ⟨fault, fails⟩
    exact ((textFailure fails).imp And.right And.right).symm
  · intro unwritable
    cases written : heap.text value with
    | error fault => exact ⟨fault, rfl⟩
    | ok text =>
        obtain ⟨inner, reaches, returns⟩ | ⟨number, reaches, isBeyond⟩ := unwritable
        · obtain ⟨depth, innerText, writtenInner⟩ := reachedWritten written reaches
          exact absurd writtenInner (cycleUnwritten returns depth innerText)
        · obtain ⟨depth, numberText, writtenNumber⟩ := reachedWritten written reaches
          cases depth with
          | zero => exact nomatch writtenNumber
          | succ depth =>
              exact nomatch (Number.plainTextFails.2 ⟨rfl, number, rfl, isBeyond⟩).symm.trans
                writtenNumber

end Heap

end Letterpress
