import Letterpress.Proofs.Number.Range
import Letterpress.Proofs.Stamp.Resolution
import Letterpress.Proofs.Value.OfJson
import Letterpress.Proofs.Value.Text
import Letterpress.Stamp.Request

/-!
This file tells what becomes of a request. Its records are read as descriptors with finite lengths,
or it is refused, or an integer in it is beyond the finite numbers.
-/

namespace Letterpress

/-! ### Results that overflow -/

/-- The result overflows exactly under the condition, and it has no other fault. -/
def OverflowsIff {Result : Type} (condition : Prop) (found : Except Fault Result) : Prop :=
  ∀ fault, found = .error fault ↔ fault = .overflow ∧ condition

section

variable {First Second : Type} {condition conditionNext : Prop} {found : Except Fault First}
  {next : First → Except Fault Second}

theorem OverflowsIff.ok (result : First) : OverflowsIff False (.ok result) := fun _ =>
  iff_of_false nofun fun overflows => overflows.2

theorem OverflowsIff.congr (overflows : OverflowsIff condition found)
    (same : condition ↔ conditionNext) : OverflowsIff conditionNext found := fun fault => by
  rw [overflows fault, same]

/-- One result after the other overflows if one of them does. -/
theorem OverflowsIff.bind (overflows : OverflowsIff condition found)
    (overflowsNext : ∀ result, found = .ok result → OverflowsIff conditionNext (next result)) :
    OverflowsIff (condition ∨ conditionNext) (found >>= next) := by
  intro fault
  cases isFound : found with
  | error other =>
      obtain ⟨rfl, holds⟩ := (overflows other).1 isFound
      change Except.error Fault.overflow = _ ↔ _
      simp [holds, eq_comm]
  | ok result =>
      have holdsNot : ¬ condition := fun holds => by
        have fails := (overflows .overflow).2 ⟨rfl, holds⟩
        rw [isFound] at fails
        exact nomatch fails
      change next result = .error fault ↔ _
      simp [overflowsNext result isFound fault, holdsNot]

end

/-- The integer is beyond the finite numbers. -/
def Value.IsHuge : Value → Prop
  | .int value => twoPower 1024 - twoPower 970 ≤ value.natAbs
  | _ => False

theorem Number.toRealOverflows (value : Int) :
    OverflowsIff (Value.int value).IsHuge (Number.int value).toReal := by
  intro fault
  rw [toRealFails]
  simp [Value.IsHuge, Binary64.ofIntIsNoneIff]

theorem Value.toNumberOverflows {value : Value} (isJson : value.IsJson) :
    OverflowsIff value.IsHuge value.toNumber? := by
  cases value with
  | int value =>
      exact ((Number.toRealOverflows value).bind fun _ _ => .ok _).congr (or_iff_left id)
  | text content =>
      rw [toNumber?]
      split <;> exact .ok _
  | decimal => exact isJson.elim
  | date => exact isJson.elim
  | moment => exact isJson.elim
  | tuple => exact isJson.elim
  | function => exact isJson.elim
  | host => exact isJson.elim
  | _ => exact .ok _

namespace Descriptor

/-! ### The fields of a descriptor -/

/-- Of these names the first one with a value decides. -/
def presentNames : List (List String) :=
  [pageIndexNames, pageNumberNames, centerXNames, topNames, centerYNames, widthNames, heightNames,
    ["scale"]]

/-- Of these names the first one with a number decides. -/
def triedNames : List (List String) := [xNames, bottomNames]

/-- One of the names has a huge integer, and the values of the names before it are passed over. -/
def ReadsHuge (isPassed : Value → Prop) (fields : Table Value) (names : List String) : Prop :=
  ∃ before name after, names = before ++ name :: after ∧
    (∀ other ∈ before, isPassed (valueOf fields other)) ∧ (valueOf fields name).IsHuge

/-- One of the lengths is read from a huge integer. -/
def HoldsHuge (fields : Table Value) : Prop :=
  (∃ names ∈ presentNames, ReadsHuge (· = .null) fields names) ∨
    ∃ names ∈ triedNames, ReadsHuge (·.toNumber? = .ok none) fields names

/-- These are all the lengths of a descriptor. -/
def lengths {Length : Type} (descriptor : Descriptor Length) : List (Option Length) :=
  [descriptor.pageIndex, descriptor.pageNumber, descriptor.x, descriptor.centerX,
    descriptor.bottom, descriptor.top, descriptor.centerY, descriptor.width, descriptor.height,
    descriptor.scale]

/-- A length is absent or finite. -/
def IsLength (length : Option Binary64) : Prop :=
  ∀ number, length = some number → number.isFinite = true

def IsFinite (descriptor : Descriptor Binary64) : Prop := ∀ length ∈ descriptor.lengths, IsLength length

section

variable {fields : Table Value} {isPassed : Value → Prop} {name : String} {names : List String}

theorem valueIsJson (isJson : fields.IsJson) (name : String) : (valueOf fields name).IsJson := by
  rw [valueOf]
  cases found : fields.get? name with
  | none => trivial
  | some value => exact isJson name value found

theorem readsHugeCons : ReadsHuge isPassed fields (name :: names) ↔
    (valueOf fields name).IsHuge ∨
      isPassed (valueOf fields name) ∧ ReadsHuge isPassed fields names := by
  constructor
  · rintro ⟨before, other, after, split, passed, isHuge⟩
    cases before with
    | nil =>
        obtain ⟨rfl, -⟩ := List.cons.inj split
        exact .inl isHuge
    | cons first before =>
        obtain ⟨rfl, rest⟩ := List.cons.inj split
        obtain ⟨isPassed, passedRest⟩ := List.forall_mem_cons.1 passed
        exact .inr ⟨isPassed, before, other, after, rest, passedRest, isHuge⟩
  · rintro (isHuge | ⟨passed, before, other, after, rfl, passedRest, isHuge⟩)
    · exact ⟨[], name, names, rfl, List.forall_mem_nil _, isHuge⟩
    · exact ⟨name :: before, other, after, rfl, List.forall_mem_cons.2 ⟨passed, passedRest⟩, isHuge⟩

theorem readsHugeNil : ¬ ReadsHuge isPassed fields [] := by
  rintro ⟨before, name, after, split, -⟩
  exact absurd split (by simp)

theorem firstPresentCons (fields : Table Value) (name : String) (names : List String) :
    firstPresent fields (name :: names) =
      if valueOf fields name = .null then firstPresent fields names
      else (valueOf fields name).toNumber? := by
  simp only [firstPresent, List.map_cons]
  split
  case isTrue isNull => rw [List.find?_cons_of_neg (by simp [isNull, Value.isNull])]
  case isFalse notNull =>
    rw [List.find?_cons_of_pos]
    · rfl
    · cases found : valueOf fields name with
      | null => exact absurd found notNull
      | _ => rfl

theorem presentOverflows (isJson : fields.IsJson) (names : List String) :
    OverflowsIff (ReadsHuge (· = .null) fields names) (firstPresent fields names) := by
  induction names with
  | nil => exact (OverflowsIff.ok none).congr (iff_of_false id readsHugeNil)
  | cons name names inductionHypothesis =>
      rw [firstPresentCons]
      split
      case isTrue isNull =>
        refine inductionHypothesis.congr ?_
        rw [readsHugeCons, isNull]
        simp [Value.IsHuge]
      case isFalse notNull =>
        refine (Value.toNumberOverflows (valueIsJson isJson name)).congr ?_
        simp [readsHugeCons, notNull]

theorem triedOverflows (isJson : fields.IsJson) (names : List String) :
    OverflowsIff (ReadsHuge (·.toNumber? = .ok none) fields names) (firstNumber fields names) := by
  induction names with
  | nil => exact (OverflowsIff.ok none).congr (iff_of_false id readsHugeNil)
  | cons name names inductionHypothesis =>
      have first := Value.toNumberOverflows (valueIsJson isJson name)
      have both : OverflowsIff ((valueOf fields name).IsHuge ∨
          ((valueOf fields name).toNumber? = .ok none ∧
            ReadsHuge (·.toNumber? = .ok none) fields names))
          (firstNumber fields (name :: names)) := by
        refine first.bind fun found isFound => ?_
        cases found with
        | none => exact inductionHypothesis.congr (by simp [isFound])
        | some number => exact (OverflowsIff.ok _).congr (by simp [isFound])
      exact both.congr (by rw [readsHugeCons])

theorem readingOverflows (isJson : fields.IsJson) :
    OverflowsIff (HoldsHuge fields) (readFields fields) := by
  have present := presentOverflows isJson
  have tried := triedOverflows isJson
  have scale : OverflowsIff _ (valueOf fields "scale").toNumber? :=
    Value.toNumberOverflows (valueIsJson isJson "scale")
  have all := (present pageIndexNames).bind fun pageIndex _ =>
    (present pageNumberNames).bind fun pageNumber _ => (tried xNames).bind fun x _ =>
    (present centerXNames).bind fun centerX _ => (tried bottomNames).bind fun bottom _ =>
    (present topNames).bind fun top _ => (present centerYNames).bind fun centerY _ =>
    (present widthNames).bind fun width _ => (present heightNames).bind fun height _ =>
    scale.bind fun scale _ => OverflowsIff.ok (⟨pageIndex, pageNumber, x, centerX, bottom, top,
      centerY, width, height, scale, originOf (valueOf fields "origin")⟩ : Descriptor Binary64)
  have allRead : OverflowsIff _ (readFields fields) := all
  refine allRead.congr ?_
  have scaleCons : ReadsHuge (· = .null) fields ["scale"] ↔ (valueOf fields "scale").IsHuge := by
    rw [readsHugeCons, or_iff_left fun passed => readsHugeNil passed.2]
  simp only [HoldsHuge, presentNames, triedNames, List.mem_cons, List.not_mem_nil, or_false,
    exists_eq_or_imp, exists_eq_left, scaleCons]
  exact iff_of_eq (by ac_rfl)

/-- Without values of other kinds no descriptor is invalid. -/
theorem fieldsOverflow (isJson : fields.IsJson) :
    OverflowsIff (HoldsHuge fields) (ofFields fields) := by
  have overflows := readingOverflows isJson
  rw [ofFields]
  split
  case h_1 isBad => exact absurd ((overflows .badValue).1 isBad).1 nofun
  case h_2 => exact overflows

/-! ### Lengths -/

theorem numberIsLength (value : Value) : Yields IsLength value.toNumber? :=
  fun _ isRead _ isNumber => Value.toNumberIsFinite (isNumber ▸ isRead)

theorem presentIsLength (fields : Table Value) (names : List String) :
    Yields IsLength (firstPresent fields names) :=
  numberIsLength _

theorem triedIsLength (fields : Table Value) (names : List String) :
    Yields IsLength (firstNumber fields names) := by
  rw [firstNumber]
  induction names.map (valueOf fields) with
  | nil => exact yieldsOk.2 nofun
  | cons value rest inductionHypothesis =>
      refine yieldsBind.2 fun found isFound => ?_
      cases found with
      | none => exact inductionHypothesis
      | some number => exact yieldsPure.2 (numberIsLength value _ isFound)

theorem readingIsFinite (fields : Table Value) : Yields IsFinite (readFields fields) := by
  have present := presentIsLength fields
  have tried := triedIsLength fields
  have scale := numberIsLength (valueOf fields "scale")
  rw [readFields]
  refine yieldsBind.2 fun pageIndex isPageIndex => yieldsBind.2 fun pageNumber isPageNumber =>
    yieldsBind.2 fun x isX => yieldsBind.2 fun centerX isCenterX =>
    yieldsBind.2 fun bottom isBottom => yieldsBind.2 fun top isTop =>
    yieldsBind.2 fun centerY isCenterY => yieldsBind.2 fun width isWidth =>
    yieldsBind.2 fun height isHeight => yieldsBind.2 fun factor isFactor => yieldsPure.2 ?_
  simp only [IsFinite, lengths, List.forall_mem_cons]
  exact ⟨present _ _ isPageIndex, present _ _ isPageNumber, tried _ _ isX, present _ _ isCenterX,
    tried _ _ isBottom, present _ _ isTop, present _ _ isCenterY, present _ _ isWidth,
    present _ _ isHeight, scale _ isFactor, List.forall_mem_nil _⟩

theorem fieldsAreFinite (fields : Table Value) : Yields IsFinite (ofFields fields) := by
  rw [ofFields]
  split
  case h_1 => exact yieldsError
  case h_2 => exact readingIsFinite fields

/-! ### Items -/

/-- These are the records among the items. -/
def recordsOf (heap : Heap) (items : List Value) : List (Table Value) :=
  items.filterMap fun item =>
    match item with
    | .record reference => some (heap.record reference)
    | _ => none

/-- Each record is read for itself, and the other items are left out. -/
theorem itemsReadIff {heap : Heap} {items : List Value} {descriptors : List (Descriptor Binary64)} :
    ofItems heap items = .ok descriptors ↔
      List.Forall₂ (fun fields descriptor => ofFields fields = .ok descriptor)
        (recordsOf heap items) descriptors := by
  induction items generalizing descriptors with
  | nil => simp [ofItems, recordsOf, eq_comm]
  | cons item rest inductionHypothesis =>
      cases item with
      | record reference =>
          change (ofFields (heap.record reference)).bind (fun descriptor =>
            (ofItems heap rest).bind fun others => .ok (descriptor :: others)) = _ ↔
              List.Forall₂ _ (heap.record reference :: recordsOf heap rest) _
          simp only [bindOkIff, inductionHypothesis, List.forall₂_cons_left_iff, Except.ok.injEq,
            exists_and_left, @eq_comm _ descriptors]
      | _ => exact inductionHypothesis

theorem itemsOverflow {heap : Heap} {items : List Value}
    (allJson : ∀ fields ∈ recordsOf heap items, fields.IsJson) :
    OverflowsIff (∃ fields ∈ recordsOf heap items, HoldsHuge fields) (ofItems heap items) := by
  induction items with
  | nil => exact (OverflowsIff.ok []).congr (by simp [recordsOf])
  | cons item rest inductionHypothesis =>
      cases item with
      | record reference =>
          obtain ⟨isJson, allJsonRest⟩ := List.forall_mem_cons.1 allJson
          have overflows := (fieldsOverflow isJson).bind fun descriptor _ =>
            (inductionHypothesis allJsonRest).bind fun others _ =>
              OverflowsIff.ok (descriptor :: others)
          refine overflows.congr ?_
          change _ ↔ ∃ fields ∈ heap.record reference :: recordsOf heap rest, HoldsHuge fields
          rw [or_false, List.exists_mem_cons_iff]
      | _ => exact inductionHypothesis allJson

end

/-! ### Requests -/

/-- A value that is no list is the only item of a document. -/
def itemsOf (heap : Heap) : Value → List Value
  | .list reference => (heap.list reference).toList
  | document => [document]

/-- These are the records of a request. A text holds those of the document that it is read as. -/
def records (heap : Heap) : Value → List (Table Value)
  | .text text =>
      if Text.isBlankText text then []
      else match Json.read text with
        | .ok document =>
            let (value, filled) := heap.addJson document
            recordsOf filled (itemsOf filled value)
        | .error _ => []
  | document => recordsOf heap (itemsOf heap document)

/-- A request is a text, or the records that it holds have values of documents only. -/
def IsJsonRequest (heap : Heap) : Value → Prop
  | .text _ => True
  | document => ∀ fields ∈ recordsOf heap (itemsOf heap document), fields.IsJson

/-- The records of a request are read, or it is a text that is no document. -/
inductive IsTreated (heap : Heap) (request : Value) : Prop
  | read {filled : Heap} {items : List Value}
      (allJson : ∀ fields ∈ recordsOf filled items, fields.IsJson)
      (isHeld : records heap request = recordsOf filled items)
      (isRead : parse heap request = ofFault (ofItems filled items)) : IsTreated heap request
  | malformed {text : String} (isText : request = .text text)
      (isMalformed : Json.read text = .error .malformed) (holdsNone : records heap request = [])
      (isRefused : parse heap request = .error (.problem (.placement .malformed))) :
      IsTreated heap request
  | tooDeep {text : String} (isText : request = .text text)
      (isTooDeep : Json.read text = .error .tooDeep) (holdsNone : records heap request = [])
      (isRefused : parse heap request = .error (.fault .tooDeep)) : IsTreated heap request

section

variable {heap filled : Heap} {request : Value} {items : List Value}

theorem documentIsRead (heap : Heap) (document : Value) :
    ofDocument heap document = ofFault (ofItems heap (itemsOf heap document)) := by
  cases document with
  | _ => rfl

theorem plainIsRead (notText : ∀ text, request ≠ .text text) :
    parse heap request = ofFault (ofItems heap (itemsOf heap request)) := by
  cases request with
  | text text => exact absurd rfl (notText text)
  | _ => rfl

theorem recordOfItems {fields : Table Value} (isRecord : fields ∈ recordsOf heap items) :
    ∃ reference, .record reference ∈ items ∧ heap.record reference = fields := by
  obtain ⟨item, isItem, found⟩ := List.mem_filterMap.1 isRecord
  cases item with
  | record reference => exact ⟨reference, isItem, Option.some.inj found⟩
  | _ => exact nomatch found

/-- The items of a document that is placed on the heap come with it. -/
theorem itemsOfAdded (heap : Heap) (document : Json) :
    ∀ item ∈ itemsOf (heap.addJson document).2 (heap.addJson document).1, heap.IsAdded item := by
  have isAdded := (heap.documentIsAdded document).2
  cases document with
  | array items =>
      have areItems : itemsOf (heap.addJson (.array items)).2 (heap.addJson (.array items)).1 =
          (heap.addJsonItems items).1 := by
        change (Heap.list (Heap.addList _ _).2 _).toList = _
        rw [Heap.listOfAdd, if_pos rfl]
      rw [areItems]
      exact (heap.itemsAreAdded items).2
  | _ => exact List.forall_mem_singleton.2 isAdded

theorem addedRecords (heap : Heap) (document : Json) :
    ∀ fields ∈ recordsOf (heap.addJson document).2
      (itemsOf (heap.addJson document).2 (heap.addJson document).1), fields.IsJson := by
  intro fields isRecord
  obtain ⟨reference, isItem, rfl⟩ := recordOfItems isRecord
  have isLater := (itemsOfAdded heap document _ isItem).isLater reference rfl
  exact (heap.documentIsAdded document).1.fields reference isLater

theorem textIsTreated (heap : Heap) (text : String) : IsTreated heap (.text text) := by
  by_cases isBlank : Text.isBlankText text = true
  · have isRead : parse heap (.text text) = .ok [] := if_pos isBlank
    have allJson : ∀ fields ∈ recordsOf heap [], fields.IsJson := List.forall_mem_nil _
    exact .read allJson (if_pos isBlank) isRead
  · have isParsed : parse heap (.text text) = _ := if_neg isBlank
    have isHeld : records heap (.text text) = _ := if_neg isBlank
    cases found : Json.read text with
    | ok document =>
        rw [found] at isParsed isHeld
        refine .read (addedRecords heap document) isHeld (isParsed.trans ?_)
        exact documentIsRead _ _
    | error flaw =>
        rw [found] at isParsed isHeld
        cases flaw with
        | malformed => exact .malformed rfl found isHeld isParsed
        | tooDeep => exact .tooDeep rfl found isHeld isParsed

theorem requestIsTreated (isJson : IsJsonRequest heap request) : IsTreated heap request := by
  cases request with
  | text text => exact textIsTreated heap text
  | _ => exact .read isJson rfl (plainIsRead nofun)

/-- Records are read as descriptors with finite lengths unless one of them has a huge integer. -/
theorem recordsAreReadOrOverflow (allJson : ∀ fields ∈ recordsOf heap items, fields.IsJson) :
    (∃ descriptors, ofFault (ofItems heap items) = .ok descriptors ∧
        List.Forall₂ (fun fields descriptor => ofFields fields = .ok descriptor)
          (recordsOf heap items) descriptors ∧
        ∀ descriptor ∈ descriptors, descriptor.IsFinite) ∧
      ¬ (∃ fields ∈ recordsOf heap items, HoldsHuge fields) ∨
    ofFault (ofItems heap items) = .error (.fault .overflow) ∧
      ∃ fields ∈ recordsOf heap items, HoldsHuge fields := by
  have overflows := itemsOverflow allJson
  cases found : ofItems heap items with
  | ok descriptors =>
      have areRead := itemsReadIff.1 found
      refine .inl ⟨⟨descriptors, rfl, areRead, resolvedAll areRead fieldsAreFinite⟩, fun isHuge => ?_⟩
      have fails := (overflows .overflow).2 ⟨rfl, isHuge⟩
      rw [found] at fails
      exact nomatch fails
  | error fault =>
      obtain ⟨rfl, isHuge⟩ := (overflows fault).1 found
      exact .inr ⟨rfl, isHuge⟩

/-- A request is read as descriptors with finite lengths, one for each of its records and in order.
Else it is a text that is no document or nests too deeply, or an integer in it is beyond the finite
numbers, and such an integer always spoils it. -/
theorem requestIsReadOrRefused (isJson : IsJsonRequest heap request) :
    ((∃ descriptors, parse heap request = .ok descriptors ∧
          List.Forall₂ (fun fields descriptor => ofFields fields = .ok descriptor)
            (records heap request) descriptors ∧
          ∀ descriptor ∈ descriptors, descriptor.IsFinite) ∨
        (parse heap request = .error (.problem (.placement .malformed)) ∧
          ∃ text, request = .text text ∧ Json.read text = .error .malformed) ∨
        (parse heap request = .error (.fault .tooDeep) ∧
          ∃ text, request = .text text ∧ Json.read text = .error .tooDeep) ∨
        parse heap request = .error (.fault .overflow)) ∧
      (parse heap request = .error (.fault .overflow) ↔
        ∃ fields ∈ records heap request, HoldsHuge fields) := by
  cases requestIsTreated isJson with
  | malformed isText isMalformed holdsNone isRefused =>
      rw [holdsNone, isRefused]
      exact ⟨.inr (.inl ⟨rfl, _, isText, isMalformed⟩), by simp⟩
  | tooDeep isText isTooDeep holdsNone isRefused =>
      rw [holdsNone, isRefused]
      exact ⟨.inr (.inr (.inl ⟨rfl, _, isText, isTooDeep⟩)), by simp⟩
  | read allJson isHeld isRead =>
      rw [isHeld, isRead]
      obtain ⟨areRead, noneHuge⟩ | ⟨overflows, isHuge⟩ := recordsAreReadOrOverflow allJson
      · refine ⟨.inl areRead, iff_of_false ?_ noneHuge⟩
        obtain ⟨descriptors, isOk, -⟩ := areRead
        rw [isOk]
        exact nofun
      · exact ⟨.inr (.inr (.inr overflows)), iff_of_true overflows isHuge⟩

/-- The list has two records and an item that is left out. -/
theorem listOfTwoIsRead :
    let heap : Heap := ⟨#[#[.record 0, .int 5, .record 1]], #[],
      #[Table.ofList [("x", .int 1), ("w", .text "50")],
        Table.ofList [("left", .text "abc"), ("l", .int 12)]]⟩
    IsJsonRequest heap (.list 0) ∧
      ((∃ descriptors, parse heap (.list 0) = .ok descriptors ∧
            List.Forall₂ (fun fields descriptor => ofFields fields = .ok descriptor)
              (records heap (.list 0)) descriptors ∧
            ∀ descriptor ∈ descriptors, descriptor.IsFinite) ∨
          (parse heap (.list 0) = .error (.problem (.placement .malformed)) ∧
            ∃ text, Value.list 0 = .text text ∧ Json.read text = .error .malformed) ∨
          (parse heap (.list 0) = .error (.fault .tooDeep) ∧
            ∃ text, Value.list 0 = .text text ∧ Json.read text = .error .tooDeep) ∨
          parse heap (.list 0) = .error (.fault .overflow)) ∧
        (parse heap (.list 0) = .error (.fault .overflow) ↔
          ∃ fields ∈ records heap (.list 0), HoldsHuge fields) := by
  intro heap
  have isFirst : (Table.ofList [("x", Value.int 1), ("w", .text "50")]).IsJson :=
    Table.jsonOfList (by simp [Value.IsJson])
  have isSecond : (Table.ofList [("left", Value.text "abc"), ("l", .int 12)]).IsJson :=
    Table.jsonOfList (by simp [Value.IsJson])
  have isJson : IsJsonRequest heap (.list 0) :=
    List.forall_mem_cons.2 ⟨isFirst, List.forall_mem_singleton.2 isSecond⟩
  exact ⟨isJson, requestIsReadOrRefused isJson⟩

/-- An integer of 310 digits overflows instead of being refused. -/
theorem hugeIntegerEscapes : ¬ ∀ (heap : Heap) (request : Value), IsJsonRequest heap request →
    (∃ descriptors, parse heap request = .ok descriptors) ∨
      (∃ problem, parse heap request = .error (.problem (.placement problem))) ∨
      parse heap request = .error (.fault .tooDeep) := by
  intro allReadOrRefused
  let fields : Table Value := Table.ofList [("x", .int (tenPower 309 : Nat))]
  let heap : Heap := ⟨#[], #[], #[fields]⟩
  have isJson : ∀ record ∈ recordsOf heap [.record 0], record.IsJson :=
    List.forall_mem_singleton.2 (Table.jsonOfList (by simp [Value.IsJson]))
  have isHuge : (valueOf fields "x").IsHuge := by
    change twoPower 1024 - twoPower 970 ≤ (tenPower 309 : Int).natAbs
    rw [Int.natAbs_natCast]
    decide +kernel
  have holdsHuge : HoldsHuge fields :=
    .inr ⟨xNames, List.mem_cons_self .., [], "x", _, rfl, List.forall_mem_nil _, isHuge⟩
  have overflows : ofItems heap [.record 0] = .error .overflow :=
    (itemsOverflow isJson .overflow).2 ⟨rfl, fields, List.mem_singleton_self _, holdsHuge⟩
  have escapes : parse heap (.record 0) = .error (.fault .overflow) := by
    change ofFault (ofItems heap [.record 0]) = _
    rw [overflows]
    rfl
  have outcome := allReadOrRefused heap (.record 0) isJson
  rw [escapes] at outcome
  simp at outcome

end

end Descriptor

end Letterpress
