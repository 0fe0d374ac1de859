import Letterpress.Proofs.Bracket.Carrying
import Letterpress.Proofs.Report.Interspersed
import Letterpress.Proofs.Text.Keyword

/-!
This file shows that the expression of a value token is inserted. It begins with a segment, so it is
never taken for the beginning or the end of a block.
-/

namespace Letterpress.Bracket

open Report (isHarmless harmlessIff Embeddable)

/-- A tail is empty, or it begins with a point or a bracket. It does not end with a blank. -/
structure IsTail (tail : List Char) : Prop where
  begins : ∀ first, tail.head? = some first → first = '.' ∨ first = '['
  last : ∀ last, tail.getLast? = some last → Text.isBlank last = false

/-- An access is a segment with a tail. -/
def IsAccess (expression : String) : Prop :=
  ∃ segment tail, expression.toList = segment ++ tail ∧ segment ≠ [] ∧
    (∀ character ∈ segment, Text.isSegmentCharacter character = true) ∧ IsTail tail

section

variable {expression body path itemName : String}

theorem IsTail.append {tail more : List Char} (isTail : IsTail tail) (isTailMore : IsTail more) :
    IsTail (tail ++ more) where
  begins first isFirst := by
    cases tail with
    | nil => exact isTailMore.begins first isFirst
    | cons character rest => exact isTail.begins first isFirst
  last last isLast := by
    rw [List.getLast?_append] at isLast
    cases lastOfMore : more.getLast? with
    | some character =>
        rw [lastOfMore] at isLast
        exact isTailMore.last last (lastOfMore.trans isLast)
    | none =>
        rw [lastOfMore] at isLast
        exact isTail.last last isLast

/-- A field is a tail after its point if it does not end with a blank. -/
theorem fieldIsTail (last : ∀ last, body.toList.getLast? = some last → Text.isBlank last = false) :
    IsTail ("." ++ body).toList := by
  rw [String.toList_append]
  constructor
  · intro first isFirst
    exact .inl (Option.some.inj isFirst).symm
  · intro ending isEnding
    cases atEnd : body.toList.getLast? with
    | none =>
        rw [List.getLast?_append, atEnd] at isEnding
        obtain rfl := Option.some.inj isEnding
        decide
    | some character =>
        rw [List.getLast?_append, atEnd] at isEnding
        exact last ending (atEnd.trans isEnding)

/-- A quoted name between brackets is a tail. -/
theorem quotedIsTail (body : String) : IsTail ("[" ++ Text.quote body ++ "]").toList := by
  rw [String.toList_append, String.toList_append]
  constructor
  · intro first isFirst
    exact .inr (Option.some.inj isFirst).symm
  · intro last isLast
    rw [List.getLast?_append] at isLast
    obtain rfl := Option.some.inj isLast
    decide

/-! ### The expressions of value tokens -/

theorem IsAccess.addTail {tail : String} (isAccess : IsAccess expression) (isTail : IsTail tail.toList) :
    IsAccess (expression ++ tail) := by
  obtain ⟨segment, first, whole, notEmpty, inSegment, isTailFirst⟩ := isAccess
  refine ⟨segment, first ++ tail.toList, ?_, notEmpty, inSegment, isTailFirst.append isTail⟩
  rw [String.toList_append, whole, List.append_assoc]

theorem segmentIsAccess (isSegment : Text.isIdentifierSegment body = true) : IsAccess body := by
  obtain ⟨notEmpty, inSegment⟩ := Text.segmentCharacters isSegment
  exact ⟨body.toList, [], (List.append_nil _).symm, notEmpty, inSegment, nofun, nofun⟩

theorem aliasIsAccess (isName : IsName itemName) : IsAccess ("$" ++ itemName) := by
  refine ⟨'$' :: itemName.toList, [], by simp, List.cons_ne_nil _ _, ?_, nofun, nofun⟩
  exact List.forall_mem_cons.2
    ⟨by decide, fun character isInside => Text.asciiWordInSegment (isName.2 character isInside)⟩

theorem accessFromAliasIsAccess (isName : IsName itemName)
    (last : ∀ last, body.toList.getLast? = some last → Text.isBlank last = false) :
    IsAccess (accessFromAlias itemName body) := by
  unfold accessFromAlias
  apply (aliasIsAccess isName).addTail
  split
  · exact fieldIsTail last
  · exact quotedIsTail body

theorem wholeFieldIsAccess (body : String) : IsAccess (wholeField body) := by
  have whole : wholeField body = "this" ++ ("[" ++ Text.quote body ++ "]") := by
    simp only [wholeField, ← String.append_assoc]
    rfl
  rw [whole]
  exact (segmentIsAccess (by decide)).addTail (quotedIsTail body)

theorem segmentAccessIsTail (segment : String) : IsTail (segmentAccess segment).toList := by
  unfold segmentAccess
  split
  case isFalse => exact quotedIsTail segment
  case isTrue isSegment =>
    apply fieldIsTail
    intro last isLast
    have inSegment := (Text.segmentCharacters isSegment).2 last (List.mem_of_getLast? isLast)
    exact Text.segmentCharacterNotBlank inSegment

section

variable {holds : String → Prop}

theorem pathFromHolds
    (grows : ∀ before segment, holds before → holds (before ++ segmentAccess segment))
    {segments : List (List Char)} (isStart : holds expression)
    (found : pathFrom expression segments = some path) : holds path := by
  induction segments generalizing expression with
  | nil => exact Option.some.inj found ▸ isStart
  | cons segment rest inductionHypothesis =>
      simp only [pathFrom] at found
      split at found
      case isTrue => cases found
      case isFalse => exact inductionHypothesis (grows _ _ isStart) found

/-- The expression of a body is a whole field, or it begins with a segment and grows by others. -/
theorem rootExpressionHolds (notEmpty : body ≠ "") (whole : holds (wholeField body))
    (starts : ∀ segment, Text.isIdentifierSegment segment = true → holds segment)
    (grows : ∀ before segment, holds before → holds (before ++ segmentAccess segment)) :
    holds (toRootExpression body) := by
  unfold toRootExpression
  rw [if_neg notEmpty]
  split
  case h_1 head second rest segments =>
    split
    case isFalse => exact whole
    case isTrue isSegment =>
      cases found : pathFrom (String.ofList head) (second :: rest) with
      | none => exact whole
      | some path => exact pathFromHolds grows (starts _ isSegment) found
  case h_2 =>
    split
    case isTrue isSegment => exact starts body isSegment
    case isFalse => exact whole

end

theorem toRootExpressionIsAccess (notEmpty : body ≠ "") : IsAccess (toRootExpression body) :=
  rootExpressionHolds notEmpty (wholeFieldIsAccess body) (fun _ => segmentIsAccess) fun _ segment isAccess =>
    isAccess.addTail (segmentAccessIsTail segment)

/-- Blanks stand at no end of an access. -/
theorem IsAccess.ends (isAccess : IsAccess expression) : expression.toList ≠ [] ∧
    (∀ first, expression.toList.head? = some first → Text.isBlank first = false) ∧
      ∀ last, expression.toList.getLast? = some last → Text.isBlank last = false := by
  obtain ⟨segment, tail, whole, notEmpty, inSegment, isTail⟩ := isAccess
  have segmentNotBlank (character : Char) (isInside : character ∈ segment) :
      Text.isBlank character = false :=
    Text.segmentCharacterNotBlank (inSegment character isInside)
  rw [whole]
  refine ⟨List.append_ne_nil_of_left_ne_nil notEmpty _, fun first isFirst => ?_, fun last isLast => ?_⟩
  · rw [List.head?_append_of_ne_nil _ notEmpty] at isFirst
    exact segmentNotBlank first (List.mem_of_head? isFirst)
  · rw [List.getLast?_append] at isLast
    cases lastOfTail : tail.getLast? with
    | some character =>
        rw [lastOfTail] at isLast
        exact isTail.last last (lastOfTail.trans isLast)
    | none =>
        rw [lastOfTail] at isLast
        exact segmentNotBlank last (List.mem_of_getLast? isLast)

/-- The last character of an expression is not the end of a reference. -/
def EndsAccess (expression : String) : Prop :=
  ∃ front last, expression.toList = front ++ [last] ∧
    (Text.isSegmentCharacter last = true ∨ last = ']')

theorem EndsAccess.after {more : String} (ends : EndsAccess more) (front : String) :
    EndsAccess (front ++ more) := by
  obtain ⟨others, last, whole, isEnd⟩ := ends
  exact ⟨front.toList ++ others, last, by rw [String.toList_append, whole, List.append_assoc], isEnd⟩

theorem segmentEnds (isSegment : Text.isIdentifierSegment body = true) : EndsAccess body := by
  obtain ⟨notEmpty, inSegment⟩ := Text.segmentCharacters isSegment
  rcases List.eq_nil_or_concat' body.toList with isEmpty | ⟨others, last, whole⟩
  · exact absurd isEmpty notEmpty
  · exact ⟨others, last, whole, .inl (inSegment last (by simp [whole]))⟩

theorem quotedEnds (front : String) : EndsAccess (front ++ "]") :=
  EndsAccess.after ⟨[], ']', rfl, .inr rfl⟩ front

theorem segmentAccessEnds (segment : String) : EndsAccess (segmentAccess segment) := by
  unfold segmentAccess
  split
  case isTrue isSegment => exact (segmentEnds isSegment).after "."
  case isFalse => exact quotedEnds _

theorem rootExpressionEnds (notEmpty : body ≠ "") : EndsAccess (toRootExpression body) := by
  apply rootExpressionHolds notEmpty
  · exact quotedEnds _
  · intro segment isSegment
    exact segmentEnds isSegment
  · intro before segment _
    exact (segmentAccessEnds segment).after before

/-! ### Harmless expressions -/

/-- A class of characters without delimiters of markup and commands is harmless. -/
theorem harmlessClass {admits : Char → Bool}
    (refuses : ['<', '\x7b', '\x7d', '&'].any admits = false) {character : Char}
    (admitted : admits character = true) : isHarmless character = true := by
  have differs (delimiter : Char) (isDelimiter : delimiter ∈ ['<', '\x7b', '\x7d', '&']) :
      character ≠ delimiter := by
    rintro rfl
    exact List.any_eq_false.1 refuses character isDelimiter admitted
  exact harmlessIff.2 ⟨differs _ (by simp), differs _ (by simp), differs _ (by simp),
    differs _ (by simp)⟩

/-- The expressions of harmless bodies are harmless. -/
theorem harmlessCarries :
    CarriesOver (fun text => ∀ character ∈ text, isHarmless character = true)
      (fun text => ∀ character ∈ text, isHarmless character = true) :=
  classCarries (fun _ => harmlessClass (by decide)) (fun _ => harmlessClass (by decide)) (by decide)
    (by decide)

theorem IsAccess.embeddable (isAccess : IsAccess expression)
    (harmless : ∀ character ∈ expression.toList, isHarmless character = true) :
    Embeddable expression := by
  obtain ⟨notEmpty, first, last⟩ := isAccess.ends
  exact ⟨fun empty => notEmpty (String.toList_eq_nil_iff.2 empty), first, last, harmless⟩

end

/-! ### Accesses are insertions -/

theorem segmentCharacterHarmless {character : Char}
    (inSegment : Text.isSegmentCharacter character = true) : isHarmless character = true :=
  harmlessClass (by decide) inSegment

section

variable {segment tail rest : List Char} (keyword : String)

/-- A keyword that begins an access begins its segment. -/
theorem keywordInSegment
    (begins : ∀ first, tail.head? = some first → first = '.' ∨ first = '[')
    (noTail : '.' ∉ keyword.toList.map Text.foldLetter ∧ '[' ∉ keyword.toList.map Text.foldLetter)
    (found : Text.afterKeyword? keyword (segment ++ tail) = some rest) :
    ∃ skipped remaining, segment = skipped ++ remaining ∧ rest = remaining ++ tail ∧
      skipped.map Text.foldLetter = keyword.toList.map Text.foldLetter := by
  obtain ⟨word, spells, same⟩ := Text.afterKeywordIff.1 found
  obtain ⟨beyond, rfl, isTail⟩ | ⟨remaining, rfl, rfl⟩ := List.append_eq_append_iff.1 same
  · cases beyond with
    | nil =>
        rw [List.append_nil] at spells
        exact ⟨segment, [], (List.append_nil _).symm, isTail.symm, spells⟩
    | cons first more =>
        have inKeyword : Text.foldLetter first ∈ keyword.toList.map Text.foldLetter :=
          spells ▸ List.mem_map_of_mem (List.mem_append_right _ (List.mem_cons_self ..))
        obtain rfl | rfl := begins first (by rw [isTail]; rfl)
        · exact absurd inKeyword noTail.1
        · exact absurd inKeyword noTail.2
  · exact ⟨word, remaining, rfl, rfl, spells⟩

/-- No blank follows a keyword in an access. -/
theorem noArgument (inSegment : ∀ character ∈ segment, Text.isSegmentCharacter character = true)
    (begins : ∀ first, tail.head? = some first → first = '.' ∨ first = '[')
    (noTail : '.' ∉ keyword.toList.map Text.foldLetter ∧ '[' ∉ keyword.toList.map Text.foldLetter) :
    Report.Command.argument? keyword (segment ++ tail) = none := by
  unfold Report.Command.argument?
  split
  case h_2 => rfl
  case h_1 rest found =>
    obtain ⟨skipped, remaining, rfl, rfl, -⟩ :=
      keywordInSegment keyword begins noTail found
    have notTrimmed : (remaining ++ tail).dropWhile Text.isBlank = remaining ++ tail := by
      cases remaining with
      | cons character more =>
          have notBlank := Text.segmentCharacterNotBlank
            (inSegment character (List.mem_append_right _ (List.mem_cons_self ..)))
          exact List.dropWhile_cons_of_neg (by simp [notBlank])
      | nil =>
          cases tail with
          | nil => rfl
          | cons character more =>
              have notBlank : Text.isBlank character = false := by
                obtain rfl | rfl := begins character rfl <;> decide
              exact List.dropWhile_cons_of_neg (by simp [notBlank])
    simp [notTrimmed]

/-- No keyword with a hyphen begins an access. -/
theorem noHyphenKeyword
    (inSegment : ∀ character ∈ segment, Text.isSegmentCharacter character = true)
    (begins : ∀ first, tail.head? = some first → first = '.' ∨ first = '[')
    (noTail : '.' ∉ keyword.toList.map Text.foldLetter ∧ '[' ∉ keyword.toList.map Text.foldLetter)
    (hyphen : '-' ∈ keyword.toList.map Text.foldLetter) :
    Text.afterKeyword? keyword (segment ++ tail) = none := by
  cases found : Text.afterKeyword? keyword (segment ++ tail) with
  | none => rfl
  | some rest =>
      obtain ⟨skipped, remaining, rfl, rfl, same⟩ :=
        keywordInSegment keyword begins noTail found
      rw [← same] at hyphen
      obtain ⟨character, isInside, folded⟩ := List.mem_map.1 hyphen
      obtain rfl := Text.foldLetterHyphen folded
      exact absurd (inSegment '-' (List.mem_append_left _ isInside)) (by decide)

end

/-- An expression that begins with a segment is inserted, if a point or a bracket follows the segment:
no other kind of command fits it. -/
theorem segmentKind {expression : String} {segment tail : List Char}
    (whole : expression.toList = segment ++ tail) (notEmpty : segment ≠ [])
    (inSegment : ∀ character ∈ segment, Text.isSegmentCharacter character = true)
    (begins : ∀ first, tail.head? = some first → first = '.' ∨ first = '[') :
    Report.Command.ofText expression = .insert expression := by
  have noEquals : ∀ rest, segment ++ tail ≠ '=' :: rest := by
    intro rest same
    obtain ⟨character, more, rfl⟩ := List.exists_cons_of_ne_nil notEmpty
    obtain rfl := (List.cons.inj same).1
    exact absurd (inSegment '=' (List.mem_cons_self ..)) (by decide)
  have noLoop := noArgument "FOR" inSegment begins (by decide)
  have noLoopEnd := noHyphenKeyword "END-FOR" inSegment begins (by decide) (by decide)
  have noChoice := noArgument "IF" inSegment begins (by decide)
  have noChoiceEnd := noHyphenKeyword "END-IF" inSegment begins (by decide) (by decide)
  have noExecution := noArgument "EXEC" inSegment begins (by decide)
  have noInsertion := noArgument "INS" inSegment begins (by decide)
  have notInserted : Report.Command.insertArgument? (segment ++ tail) = none := by
    unfold Report.Command.insertArgument?
    split
    case h_1 rest same => exact absurd same (noEquals rest)
    case h_2 => exact noInsertion
  have notClosing : Report.Command.closeLoop? (segment ++ tail) = none := by
    simp [Report.Command.closeLoop?, Report.Command.argument?, noLoopEnd]
  rw [Report.Command.ofText, whole, Report.Command.ofCharacters, notClosing, notInserted,
    Report.Command.openLoop?, noLoop, Report.Command.openChoice?, noChoice,
    Report.Command.closeChoice?, noChoiceEnd, Report.Command.execute?, noExecution, ← whole]
  exact congrArg Report.Command.insert String.ofList_toList

/-- An access is inserted. -/
theorem IsAccess.kind {expression : String} (isAccess : IsAccess expression) :
    Report.Command.ofText expression = .insert expression := by
  obtain ⟨segment, tail, whole, notEmpty, inSegment, isTail⟩ := isAccess
  exact segmentKind whole notEmpty inSegment isTail.begins

end Letterpress.Bracket
