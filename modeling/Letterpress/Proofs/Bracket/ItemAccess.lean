import Letterpress.Bracket.Path
import Letterpress.Proofs.Bracket.Alias
import Letterpress.Proofs.Report.Running
import Letterpress.Proofs.Script.MemberPath

/-!
This file shows what the field tokens of a loop read. They read the current item, unless the loop
names its items as it names their index.
-/

open Letterpress.Script Letterpress.Report Letterpress.Report.Rendering

namespace Letterpress.Bracket

variable {itemName body : String}

/-! ### Paths -/

/-- This is the path that the access to a field of an item spells. -/
def accessPath (itemName body : String) : MemberPath :=
  ⟨"$" ++ itemName, [if Text.isAsciiIdentifier body then .bare body else .quoted body]⟩

theorem accessFromAliasText (itemName body : String) :
    accessFromAlias itemName body = (accessPath itemName body).text := by
  rw [MemberPath.text, ← String.toList_inj, String.toList_ofList, accessFromAlias, accessPath]
  split
  · simp [Word.joined, MemberPath.words, PathStep.words, Word.symbol, Word.name]
  · simp [Word.joined, MemberPath.words, PathStep.words, Word.symbol, Word.name]

theorem aliasIsPlain (isName : IsName itemName) : isPlainName ("$" ++ itemName) = true := by
  have isText : ("$" ++ itemName).toList = '$' :: itemName.toList := by simp
  have notReserved : reserved.all (fun word => word.toList.head? ≠ some '$') = true := by decide
  refine Bool.and_eq_true_iff.2 ⟨?_, ?_⟩
  · rw [isNameText, isText]
    refine Bool.and_eq_true_iff.2 ⟨by decide, List.all_eq_true.2 fun character isInside => ?_⟩
    have isAscii := (Text.asciiWordBounds (isName.2 character isInside)).2
    simp [Token.isNameContinue, Text.isWord, isAscii, isName.2 character isInside]
  · rw [Bool.not_eq_true', Bool.eq_false_iff]
    intro isReserved
    have isInside : "$" ++ itemName ∈ reserved := by simpa using isReserved
    have otherwise := List.all_eq_true.1 notReserved _ isInside
    rw [isText] at otherwise
    exact absurd rfl (of_decide_eq_true otherwise)

theorem asciiStartBeginsName {first : Char} (starts : Text.isAsciiIdentifierStart first = true) :
    Token.isNameStart first = true := by
  simp only [Text.isAsciiIdentifierStart, Bool.or_eq_true, decide_eq_true_eq] at starts
  obtain (isAlpha | rfl) | rfl := starts
  · have bounds := Text.isAlphaIff.1 isAlpha
    have isAscii : first.toNat < 128 := by omega
    have notDecimal : Text.isDecimal first = false := by
      rw [Bool.eq_false_iff]
      intro decimal
      have digit := Text.isDigitIff.1 (Text.asciiDecimal isAscii decimal)
      omega
    simp [Token.isNameStart, Text.isWord, isAscii, Text.isAsciiWord, Char.isAlphanum, isAlpha,
      notDecimal]
  · decide
  · decide

theorem asciiWordContinuesName {character : Char}
    (continues : (Text.isAsciiWord character || character = '$') = true) :
    Token.isNameContinue character = true := by
  rw [Bool.or_eq_true, decide_eq_true_eq] at continues
  obtain isWord | rfl := continues
  · have isAscii := (Text.asciiWordBounds isWord).2
    simp [Token.isNameContinue, Text.isWord, isAscii, isWord]
  · decide

/-- An ASCII identifier without a line end after it is a name. -/
theorem asciiIdentifierIsName (stripped : Text.strip body = body)
    (isIdentifier : Text.isAsciiIdentifier body = true) : isNameText body = true := by
  have strippedList : Text.stripList body.toList = body.toList := by
    rw [Text.strip] at stripped
    rw [← String.toList_ofList (l := Text.stripList body.toList), stripped]
  unfold Text.isAsciiIdentifier at isIdentifier
  split at isIdentifier
  case h_1 => exact nomatch isIdentifier
  case h_2 first rest isText =>
    obtain ⟨starts, ends⟩ := Bool.and_eq_true_iff.1 isIdentifier
    have whole := List.takeWhile_append_dropWhile
      (p := fun character => Text.isAsciiWord character || character = '$') (l := rest)
    split at ends
    case h_1 noneLeft =>
      rw [noneLeft, List.append_nil] at whole
      rw [isNameText, isText, ← whole]
      refine Bool.and_eq_true_iff.2
        ⟨asciiStartBeginsName starts, List.all_eq_true.2 fun character isInside => ?_⟩
      exact asciiWordContinuesName (List.all_eq_true.1 List.all_takeWhile character isInside)
    case h_2 lineEnd =>
      rw [lineEnd] at whole
      have isLast : (Text.stripList body.toList).getLast? = some '\n' := by
        rw [strippedList, isText, ← whole, ← List.cons_append, List.getLast?_concat]
      exact absurd (Text.stripListLast isLast) (by decide)
    case h_3 => exact (Bool.false_ne_true ends).elim

theorem accessIsReadable (isName : IsName itemName) (stripped : Text.strip body = body) :
    (accessPath itemName body).isReadable = true := by
  have plain := aliasIsPlain isName
  have readable : (if Text.isAsciiIdentifier body then PathStep.bare body
      else .quoted body).isReadable = true := by
    split
    case isTrue isIdentifier => exact asciiIdentifierIsName stripped isIdentifier
    case isFalse => rfl
  simp only [MemberPath.isReadable, accessPath, (Bool.and_eq_true_iff.1 plain).1,
    plainNotStatement plain, List.all_cons, readable]
  rfl

theorem accessExpression (isName : IsName itemName) (body : String) :
    (accessPath itemName body).expression =
      .member (.name ("$" ++ itemName)) (.literal (.text body)) := by
  have isHead := nameExpressionPlain (aliasIsPlain isName)
  simp only [MemberPath.expression, accessPath, List.foldl_cons, List.foldl_nil, isHead]
  split <;> rfl

/-- The access to a field is a member of the item, in whichever spelling the field is written. -/
theorem accessIsRead (isName : IsName itemName) (stripped : Text.strip body = body) :
    parse (accessFromAlias itemName body) =
      .ok [.expression (.member (.name ("$" ++ itemName)) (.literal (.text body)))] := by
  rw [accessFromAliasText, pathIsRead (accessIsReadable isName stripped), accessExpression isName]

/-! ### Items -/

variable {settings : Report.Settings} {session : Report.Session} {loopValues : Table Value}
  {current : Value}

/-- The access to a field reads the member of what goes by the alias. -/
theorem accessReads (isName : IsName itemName) (stripped : Text.strip body = body)
    (free : IsFree settings session ("$" ++ itemName))
    (isVariable : loopValues.get? ("$" ++ itemName) = some current)
    (isHeld : session.heap.Holds current) :
    ((run settings (accessFromAlias itemName body) loopValues).outcome session).1 =
      (getMember settings.host session.heap current (.text body)).mapError
        (failureOf (accessFromAlias itemName body)) := by
  have reads := accessIsRead isName stripped
  have evaluates := evaluateMember settings.host
    (evaluateName (loopVariableFound free isVariable)) body
  rw [getMemberGrows (preparedGrows session loopValues settings.helpers settings.isOpen) isHeld]
    at evaluates
  exact runOfExpression reads evaluates

theorem nameReads {name : String} (plain : isPlainName name = true)
    (free : IsFree settings session name) (isVariable : loopValues.get? name = some current) :
    ((run settings name loopValues).outcome session).1 = .ok current :=
  runOfExpression (plainNameIsExpression plain) (evaluateName (loopVariableFound free isVariable))

/-- At any time in the turn of a loop for an item, the access to a field reads the field of the item
and `$idx` its index. If the items are named `idx`, the access reads the field of the index
instead. -/
theorem fieldTokenReadsItem (settings : Report.Settings) (start session : Report.Session)
    (loopName : String) (active : List String) (itemName : String) (loopValues : Table Value)
    (items item : Value) (found : Array Value) (index : Nat) (body : String)
    (isAlias : deriveAlias .standard loopName active = itemName)
    (areItems : start.heap.items? items = some found) (isItem : found[index]? = some item)
    (isHeld : session.heap.Holds item) (stripped : Text.strip body = body)
    (free : IsFree settings session ("$" ++ itemName))
    (freeIndex : IsFree settings session "$idx") :
    let turn := loopVariables loopValues itemName (currentItem start items index) index
    let access := accessFromAlias itemName body
    ((run settings "$idx" turn).outcome session).1 = .ok (.int index) ∧
      (itemName ≠ "idx" → item ≠ .null →
        ∃ value, getMember settings.host session.heap item (.text body) = .ok value ∧
          ((run settings access turn).outcome session).1 = .ok value) ∧
      (itemName = "idx" →
        ∃ value, getMember settings.host session.heap (.int index) (.text body) = .ok value ∧
          ((run settings access turn).outcome session).1 = .ok value) := by
  intro turn access
  have isName : IsName itemName :=
    isAlias ▸ deriveAliasIsName standardFallbackIsName loopName active
  have isCurrent : currentItem start items index = item := by
    rw [currentItem, areItems, Option.getD_some, Array.getD_eq_getD_getElem?, isItem,
      Option.getD_some]
  obtain ⟨getIndex, getItem⟩ :=
    getLoopVariables loopValues itemName (currentItem start items index) index
  change turn.get? ("$" ++ itemName) = _ at getItem
  rw [isCurrent] at getItem
  refine ⟨nameReads (by decide) freeIndex getIndex, fun notIndex notNull => ?_, fun isIndex => ?_⟩
  · rw [if_neg notIndex] at getItem
    obtain ⟨value, isField⟩ := memberFound notNull settings.host session.heap body
    have reads := accessReads isName stripped free getItem isHeld
    rw [isField] at reads
    exact ⟨value, isField, reads⟩
  · rw [if_pos isIndex] at getItem
    have notNull : Value.int index ≠ .null := nofun
    obtain ⟨value, isField⟩ := memberFound notNull settings.host session.heap body
    have reads := accessReads isName stripped free getItem trivial
    rw [isField] at reads
    exact ⟨value, isField, reads⟩

/-- A loop over one record, under the name of a loop and with the alias that is made from it. -/
def recordSession : Report.Session :=
  ⟨⟨#[#[.record 0]], #[], #[Table.empty.insert "name" (.text "v")]⟩, Scope.empty, Scope.empty⟩

theorem itemFieldIsRead :
    let settings : Report.Settings := ⟨Host.standard, Helpers.standard, false⟩
    let turn := loopVariables Table.empty "item" (currentItem recordSession (.list 0) 0) 0
    deriveAlias .standard "items" [] = "item" ∧
      ((run settings "$idx" turn).outcome recordSession).1 = .ok (.int 0) ∧
        ∃ value, getMember settings.host recordSession.heap (.record 0) (.text "name") = .ok value ∧
          ((run settings (accessFromAlias "item" "name") turn).outcome recordSession).1 =
            .ok value := by
  intro settings turn
  have isAlias : deriveAlias .standard "items" [] = "item" := by decide
  have reads := fieldTokenReadsItem settings recordSession recordSession "items" [] "item"
    Table.empty (.list 0) (.record 0) #[.record 0] 0 "name" isAlias rfl rfl Nat.one_pos (by decide)
    ⟨rfl, rfl⟩ ⟨rfl, rfl⟩
  exact ⟨isAlias, reads.1, reads.2.1 (by decide) nofun⟩

/-- The items of a loop over `idxs` are hidden by their index. -/
theorem indexHidesItem :
    let settings : Report.Settings := ⟨Host.standard, Helpers.standard, false⟩
    let turn := loopVariables Table.empty "idx" (currentItem recordSession (.list 0) 0) 0
    deriveAlias .standard "idxs" [] = "idx" ∧
      getMember settings.host recordSession.heap (.record 0) (.text "name") = .ok (.text "v") ∧
      ((run settings (accessFromAlias "idx" "name") turn).outcome recordSession).1 ≠
        .ok (.text "v") := by
  intro settings turn
  refine ⟨by decide, rfl, fun reads => ?_⟩
  have isNull : ((run settings (accessFromAlias "idx" "name") turn).outcome
      recordSession).1.toOption = some .null := by
    decide +kernel
  rw [reads] at isNull
  exact nomatch isNull

end Letterpress.Bracket
