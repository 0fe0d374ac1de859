import Letterpress.Proofs.Result
import Letterpress.Proofs.Value.Visibility
import Letterpress.Script.Evaluation

/-!
This file shows that the operations of scripts tell nothing about what is hidden. Where two heaps
look alike they give the same results, in which nothing hidden lies.
-/

namespace Letterpress

open Script

variable {visibility : Visibility} {left right : Heap} {values arguments : List Value}
  {value first second object key : Value}

/-! ### Hosts -/

/-- Two hosts look alike if their objects have the same public attributes. The attributes are
visible, and the functions do not depend on what is hidden. -/
structure Host.LooksLike (visibility : Visibility) (host other : Host) : Prop where
  publish : ∀ object name, isPublic name = true →
    host.publish object name = other.publish object name ∧
      ∀ value, host.publish object name = some value → visibility.Shows value
  call : ∀ name arguments left right, (∀ argument ∈ arguments, visibility.Shows argument) →
    Heap.LooksLike visibility left right →
    Agree visibility.Shows (host.call name arguments left) (other.call name arguments right)

theorem Heap.LooksLike.helper (alike : left.LooksLike visibility right)
    (areShown : ∀ argument ∈ arguments, visibility.Shows argument) :
    Host.helper left arguments = Host.helper right arguments := by
  cases arguments with
  | nil => rfl
  | cons value others =>
      obtain ⟨shows, showOthers⟩ := List.forall_mem_cons.1 areShown
      have showsBase : visibility.Shows
          (if value = .null ∨ value = .text "" then others.headD (.text "") else value) := by
        split
        · cases others with
          | nil => trivial
          | cons fallback rest => exact showOthers fallback List.mem_cons_self
        · exact shows
      rw [Host.helper, Host.helper, alike.text showsBase,
        alike.joinTexts fun argument isLater => showOthers argument (List.mem_of_mem_tail isLater)]

theorem Host.methodShows (callable : Callable) (arguments : List Value) :
    Yields visibility.Shows (Host.callMethod callable arguments) := by
  unfold Host.callMethod
  split <;> simp [Visibility.Shows]

theorem Host.LooksLike.apply {host other : Host} (hosts : host.LooksLike visibility other)
    (heaps : left.LooksLike visibility right) (callable : Callable)
    (areShown : ∀ argument ∈ arguments, visibility.Shows argument) :
    Agree visibility.Shows (host.apply left callable arguments)
      (other.apply right callable arguments) := by
  cases callable with
  | helper => exact (Agree.ofSame (heaps.helper areShown)).bind fun _ _ => .pure trivial
  | host name => exact hosts.call name arguments left right areShown heaps
  | isoDate | isoMoment | bitLength | isIntegral => exact ⟨rfl, Host.methodShows _ _⟩

/-- Only hosts have attributes that are not those of plain values. -/
theorem Host.LooksLike.attribute {host other : Host} (hosts : host.LooksLike visibility other)
    {name : String} (isNamed : isPublic name = true) (value : Value) :
    host.valueAttribute value name = other.valueAttribute value name ∧
      ∀ found, host.valueAttribute value name = some found → visibility.Shows found := by
  have integers (number : Int) : ∀ found,
      Host.valueAttribute.integerAttribute number name = some found → visibility.Shows found := by
    unfold Host.valueAttribute.integerAttribute
    split <;> simp [Visibility.Shows]
  unfold Host.valueAttribute
  split
  case h_16 => exact ⟨rfl, integers _⟩
  case h_17 => exact ⟨rfl, integers _⟩
  case h_18 => exact hosts.publish _ _ isNamed
  all_goals simp [Visibility.Shows]

/-- A private attribute reads as null, whatever it is. -/
theorem Host.LooksLike.published {host other : Host} (hosts : host.LooksLike visibility other)
    (object : Value) (name : String) :
    let found (host : Host) :=
      if isPublic name then (host.valueAttribute object name).getD .null else .null
    found host = found other ∧ visibility.Shows (found host) := by
  dsimp only
  split
  case isTrue isNamed =>
    obtain ⟨same, areShown⟩ := hosts.attribute isNamed object
    refine ⟨congrArg (Option.getD · .null) same, ?_⟩
    cases found : host.valueAttribute object name with
    | none => trivial
    | some value => exact areShown value found
  case isFalse => exact ⟨rfl, trivial⟩

namespace Script

/-! ### Methods -/

/-- A method gives a visible value, or visible items of a new list. -/
def MethodResult.Shows (visibility : Visibility) : MethodResult → Prop
  | .value found => visibility.Shows found
  | .list items => ∀ item ∈ items, visibility.Shows item

theorem textMethodSame (alike : left.LooksLike visibility right) (text name : String)
    (areShown : ∀ argument ∈ arguments, visibility.Shows argument) :
    textMethod left text name arguments = textMethod right text name arguments := by
  have sameText (value : Value) (isArgument : value ∈ arguments) :
      left.text value = right.text value := alike.text (areShown value isArgument)
  have sameEmpty (value : Value) (isArgument : value ∈ arguments) :
      left.isEmpty value = right.isEmpty value := alike.isEmpty (areShown value isArgument)
  have sameBlank : left.text (.text " ") = right.text (.text " ") := rfl
  unfold textMethod
  dsimp only
  split <;>
    simp only [splitMethod, padMethod, sameText, sameEmpty, sameBlank, List.mem_cons, true_or, or_true]

theorem textMethodShows (heap : Heap) (text name : String) (arguments : List Value) :
    Yields (MethodResult.Shows visibility) (textMethod heap text name arguments) := by
  unfold textMethod
  dsimp only
  split <;> simp [MethodResult.Shows, Visibility.Shows]

theorem includesItemSame (alike : left.LooksLike visibility right) (shows : visibility.Shows value)
    (areShown : ∀ item ∈ values, visibility.Shows item) :
    includesItem left value values = includesItem right value values := by
  induction values with
  | nil => rfl
  | cons item rest inductionHypothesis =>
      obtain ⟨showsItem, showRest⟩ := List.forall_mem_cons.1 areShown
      rw [includesItem, includesItem, alike.strictlyEqual showsItem shows,
        inductionHypothesis showRest]

theorem joinItemsSame (alike : left.LooksLike visibility right) (shows : visibility.Shows value)
    (areShown : ∀ item ∈ values, visibility.Shows item) :
    joinItems left values value = joinItems right values value := by
  rw [joinItems, joinItems, alike.text shows, alike.joinTexts areShown]

theorem rowMethodSame (alike : left.LooksLike visibility right) (name : String)
    (showItems : ∀ item ∈ values, visibility.Shows item)
    (areShown : ∀ argument ∈ arguments, visibility.Shows argument) :
    rowMethod left values name arguments = rowMethod right values name arguments := by
  have sameJoined (separator : Value) (shows : visibility.Shows separator) :
      joinItems left values separator = joinItems right values separator :=
    joinItemsSame alike shows showItems
  have sameFound (value : Value) (shows : visibility.Shows value) :
      includesItem left value values = includesItem right value values :=
    includesItemSame alike shows showItems
  unfold rowMethod
  split
  case h_1 => rw [sameJoined (.text ",") trivial]
  case h_2 separator => rw [sameJoined separator (areShown separator List.mem_cons_self)]
  case h_3 => rw [sameFound .null trivial]
  case h_4 value => rw [sameFound value (areShown value List.mem_cons_self)]
  case h_5 => rw [sameJoined (.text ",") trivial]
  case h_6 => rfl

theorem rowMethodShows (heap : Heap) (items : List Value) (name : String) (arguments : List Value) :
    Yields (MethodResult.Shows visibility) (rowMethod heap items name arguments) := by
  unfold rowMethod
  split <;> simp [MethodResult.Shows, Visibility.Shows]

theorem numberMethodShows (number : Number) (name : String) (arguments : List Value) :
    Yields (MethodResult.Shows visibility) (numberMethod number name arguments) := by
  unfold numberMethod
  split <;> simp [MethodResult.Shows, Visibility.Shows]

theorem methodAgrees (alike : left.LooksLike visibility right) (shows : visibility.Shows value)
    (name : String) (areShown : ∀ argument ∈ arguments, visibility.Shows argument) :
    Agree (MethodResult.Shows visibility) (callMethod left value name arguments)
      (callMethod right value name arguments) := by
  cases value with
  | text text => exact ⟨textMethodSame alike text name areShown, textMethodShows _ _ _ _⟩
  | list reference =>
      obtain ⟨same, showItems⟩ := alike.list reference shows
      rw [callMethod, callMethod, ← same]
      exact ⟨rowMethodSame alike name showItems areShown, rowMethodShows _ _ _ _⟩
  | tuple reference =>
      obtain ⟨same, showItems⟩ := alike.tuple reference shows
      rw [callMethod, callMethod, ← same]
      exact ⟨rowMethodSame alike name showItems areShown, rowMethodShows _ _ _ _⟩
  | int | real => exact ⟨rfl, numberMethodShows _ _ _⟩
  | _ => exact ⟨rfl, yieldsError⟩

/-! ### Operators -/

theorem numberShows (number : Number) : visibility.Shows (Value.ofNumber number) := by
  cases number <;> trivial

theorem arithmeticShows (operation : Number → Number → Except Fault Number) (first second : Value) :
    Yields visibility.Shows (arithmetic operation first second) := by
  simp [arithmetic, numberShows]

theorem addValuesAgree (alike : left.LooksLike visibility right)
    (showsFirst : visibility.Shows first) (showsSecond : visibility.Shows second) :
    Agree visibility.Shows (addValues left first second) (addValues right first second) := by
  unfold addValues addValues.joined
  rw [alike.text showsFirst, alike.text showsSecond]
  refine ⟨rfl, ?_⟩
  split
  · simp [Visibility.Shows]
  · simp [Visibility.Shows]
  · exact arithmeticShows _ _ _

theorem binaryAgrees (alike : left.LooksLike visibility right) (operator : BinaryOperator)
    (showsFirst : visibility.Shows first) (showsSecond : visibility.Shows second) :
    Agree visibility.Shows (applyBinary left operator first second)
      (applyBinary right operator first second) := by
  have loosely := Agree.ofSame (alike.looselyEqual showsFirst showsSecond)
  have strictly := Agree.ofSame (alike.strictlyEqual showsFirst showsSecond)
  cases operator with
  | add => exact addValuesAgree alike showsFirst showsSecond
  | subtract | multiply | divide | remainder => exact ⟨rfl, arithmeticShows _ _ _⟩
  | equal | notEqual => exact loosely.bind fun _ _ => .pure trivial
  | identical | notIdentical => exact strictly.bind fun _ _ => .pure trivial
  | less | lessOrEqual | greater | greaterOrEqual =>
      exact (Agree.ofSame rfl).bind fun _ _ => .pure trivial

theorem unaryShows (operator : UnaryOperator) (value : Value) :
    Yields visibility.Shows (applyUnary operator value) := by
  cases operator with
  | not => exact yieldsOk.2 trivial
  | minus | plus => simp [applyUnary, numberShows]

/-! ### Members -/

theorem fieldNameSame (alike : left.LooksLike visibility right) (shows : visibility.Shows key) :
    fieldName left key = fieldName right key := by
  unfold fieldName
  rw [alike.text shows]

theorem rowMemberShows (length : Nat) {item : Nat → Value}
    (areShown : ∀ place, visibility.Shows (item place)) (key : Value) :
    Yields visibility.Shows (rowMember length item key) := by
  have shows (place : Option Nat) : visibility.Shows ((place.map item).getD .null) := by
    cases place with
    | none => trivial
    | some place => exact areShown place
  unfold rowMember
  split
  · exact yieldsOk.2 trivial
  · simp [shows]

/-- The items of a visible row are visible, and so is what stands for a missing one. -/
theorem showsItem {items : Array Value} (areShown : ∀ item ∈ items.toList, visibility.Shows item)
    (place : Nat) : visibility.Shows (items.getD place .null) := by
  rw [Array.getD_eq_getD_getElem?]
  cases found : items[place]? with
  | none => trivial
  | some item => exact areShown item (Array.mem_toList_iff.2 (Array.mem_of_getElem? found))

theorem memberAgrees {host other : Host} (hosts : host.LooksLike visibility other)
    (heaps : left.LooksLike visibility right) (showsObject : visibility.Shows object)
    (showsKey : visibility.Shows key) :
    Agree visibility.Shows (getMember host left object key) (getMember other right object key) := by
  cases object with
  | null =>
      rw [getMember, getMember, heaps.text showsKey]
      exact ⟨rfl, by simp⟩
  | record reference =>
      obtain ⟨same, areShown⟩ := heaps.record reference showsObject
      rw [getMember, getMember, fieldNameSame heaps showsKey, ← same]
      refine (Agree.ofSame rfl).bind fun name _ => .pure ?_
      cases found : (left.record reference).get? name with
      | none => trivial
      | some value => exact areShown.get found
  | list reference =>
      obtain ⟨same, areShown⟩ := heaps.list reference showsObject
      rw [getMember, getMember, ← same]
      exact Agree.mapError ⟨rfl, rowMemberShows _ (showsItem areShown) key⟩ _
  | tuple reference =>
      obtain ⟨same, areShown⟩ := heaps.tuple reference showsObject
      rw [getMember, getMember, ← same]
      exact Agree.mapError ⟨rfl, rowMemberShows _ (showsItem areShown) key⟩ _
  | text content =>
      refine Agree.mapError ⟨rfl, rowMemberShows _ ?_ key⟩ _
      exact fun _ => trivial
  | _ =>
      cases key with
      | text name =>
          obtain ⟨same, shows⟩ := hosts.published _ name
          exact ⟨congrArg Except.ok same, yieldsOk.2 shows⟩
      | _ => exact .pure trivial

/-! ### Changes of members -/

theorem notSettableMatches (alike : left.LooksLike visibility right) (object : Value)
    (showsKey : visibility.Shows key) :
    Matches (Heap.LooksLike visibility) (notSettable left object key)
      (notSettable right object key) := by
  rw [notSettable, notSettable, alike.text showsKey]
  exact .bind _ fun _ => .error _

theorem setMemberMatches (alike : left.LooksLike visibility right)
    (showsObject : visibility.Shows object) (showsKey : visibility.Shows key)
    (shows : visibility.Shows value) :
    Matches (Heap.LooksLike visibility) (setMember left object key value)
      (setMember right object key value) := by
  cases object with
  | record reference =>
      obtain ⟨same, areShown⟩ := alike.record reference showsObject
      rw [setMember, setMember, fieldNameSame alike showsKey, ← same]
      exact .bind _ fun name => .ok (alike.setRecord reference (areShown.insert name shows))
  | list reference =>
      rw [setMember, setMember, ← (alike.list reference showsObject).1]
      refine .bind _ fun place => ?_
      cases place with
      | none => exact notSettableMatches alike _ showsKey
      | some place => exact .ok (alike.setItem reference place shows)
  | _ => exact notSettableMatches alike _ showsKey

theorem isSearchableSame (alike : left.LooksLike visibility right) (depth : Nat) :
    ∀ key, visibility.Shows key → isSearchable left depth key = isSearchable right depth key := by
  induction depth with
  | zero => exact fun _ _ => rfl
  | succ depth inductionHypothesis =>
      intro key shows
      cases key with
      | tuple reference =>
          obtain ⟨same, areShown⟩ := alike.tuple reference shows
          rw [isSearchable, isSearchable, ← same, ← Array.all_toList, ← Array.all_toList,
            Bool.eq_iff_iff, List.all_eq_true, List.all_eq_true]
          exact forall₂_congr fun item isItem => by
            rw [inductionHypothesis item (areShown item isItem)]
      | _ => rfl

theorem deleteMemberMatches (alike : left.LooksLike visibility right)
    (showsObject : visibility.Shows object) (showsKey : visibility.Shows key) :
    Matches (fun found other => found.1 = other.1 ∧ found.2.LooksLike visibility other.2)
      (deleteMember left object key) (deleteMember right object key) := by
  cases object with
  | record reference =>
      obtain ⟨same, areShown⟩ := alike.record reference showsObject
      dsimp only [deleteMember]
      rw [← same, ← alike.depthBound, isSearchableSame alike _ key showsKey]
      split
      · exact .ok ⟨rfl, alike⟩
      split
      · exact .error _
      cases key with
      | text name => exact .ok ⟨rfl, alike.setRecord reference (areShown.erase name)⟩
      | _ => exact .ok ⟨rfl, alike⟩
  | _ => exact .ok ⟨rfl, alike⟩

end Script

end Letterpress
