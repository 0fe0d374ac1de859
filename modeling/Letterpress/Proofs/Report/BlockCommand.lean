import Letterpress.Proofs.Part.Structural
import Letterpress.Proofs.Report.WrittenCommand

/-!
This file compares the texts that collapse with the commands that begin or end a block. A text
collapses by its keyword alone, but a command of a block needs more than its keyword.
-/

namespace Letterpress.Report

open Markup Letterpress.Part

/-! ### Commands of blocks -/

def Command.isBlock : Command → Bool
  | .openBlock .. | .closeLoop _ | .closeChoice => true
  | .execute _ | .insert _ => false

/-- A gap is made of blanks. -/
def IsGap (text : List Char) : Prop :=
  text ≠ [] ∧ ∀ character ∈ text, Text.isBlank character = true

/-- A word is made of other characters than blanks. -/
def IsSolid (text : List Char) : Prop :=
  text ≠ [] ∧ ∀ character ∈ text, Text.isBlank character = false

def BeginsSolid (text : List Char) : Prop :=
  ∃ first rest, text = first :: rest ∧ Text.isBlank first = false

/-- An argument is set apart from its keyword. -/
def HasArgument (keyword : String) (raw argument : List Char) : Prop :=
  ∃ word gap, Text.SpellsKeyword keyword word ∧ IsGap gap ∧ BeginsSolid argument ∧
    raw = word ++ (gap ++ argument)

/-- A loop needs the name of its item and a list, and a choice needs a condition. The end of a loop
may have one word, and the end of a choice may have anything. -/
inductive IsBlockCommand : List Char → Prop
  | loop {raw name gap list code : List Char} (hasItem : HasArgument "FOR" raw (name ++ (gap ++ list)))
      (isName : IsSolid name) (isGap : IsGap gap) (hasList : HasArgument "IN" list code) :
      IsBlockCommand raw
  | loopEnd {raw : List Char} (spells : Text.SpellsKeyword "END-FOR" raw) : IsBlockCommand raw
  | namedLoopEnd {raw name : List Char} (hasName : HasArgument "END-FOR" raw name)
      (isName : IsSolid name) : IsBlockCommand raw
  | choice {raw code : List Char} (hasCondition : HasArgument "IF" raw code) : IsBlockCommand raw
  | choiceEnd {word rest : List Char} (spells : Text.SpellsKeyword "END-IF" word)
      (ends : endsWord rest = true) : IsBlockCommand (word ++ rest)

section

variable {keyword : String} {raw argument name gap rest : List Char}

theorem BeginsSolid.stops (begins : BeginsSolid rest) : Text.StopsAt Text.isBlank rest := by
  obtain ⟨first, others, rfl, notBlank⟩ := begins
  exact Text.stopsAtCons notBlank

theorem IsGap.stops (isGap : IsGap gap) :
    Text.StopsAt (fun character => !Text.isBlank character) (gap ++ rest) := by
  obtain ⟨notEmpty, blank⟩ := isGap
  cases gap with
  | nil => exact absurd rfl notEmpty
  | cons first others => exact Text.stopsAtCons (by simp [blank first (List.mem_cons_self ..)])

theorem IsSolid.admitted (isSolid : IsSolid name) :
    ∀ character ∈ name, (!Text.isBlank character) = true := by
  intro character isInside
  rw [isSolid.2 character isInside, Bool.not_false]

theorem beginsSolidOfStops (notEmpty : rest ≠ []) (stops : Text.StopsAt Text.isBlank rest) :
    BeginsSolid rest := by
  cases rest with
  | nil => exact absurd rfl notEmpty
  | cons first others => exact ⟨first, others, rfl, stops first rfl⟩

theorem argumentIff : Command.argument? keyword raw = some argument ↔ HasArgument keyword raw argument := by
  constructor
  · intro found
    unfold Command.argument? at found
    split at found
    case h_1 after following =>
      obtain ⟨gap, trimmed, rfl, -, -, blank, stops⟩ := Text.spanAdmitted Text.isBlank after
      simp only [Text.dropWhileOfStop blank stops] at found
      split at found
      case isTrue isArgument =>
        obtain rfl := Option.some.inj found
        obtain ⟨shorter, notEmpty⟩ := isArgument
        obtain ⟨word, spells, same⟩ := Text.afterKeywordIff.1 following
        refine ⟨word, gap, spells, ⟨?_, blank⟩, beginsSolidOfStops (by simpa using notEmpty) stops, same⟩
        rintro rfl
        exact absurd shorter (lt_irrefl _)
      case isFalse => exact nomatch found
    case h_2 => exact nomatch found
  · rintro ⟨word, gap, spells, ⟨notEmpty, blank⟩, begins, rfl⟩
    have isArgument : argument.length < (gap ++ argument).length ∧ !argument.isEmpty := by
      obtain ⟨first, others, rfl, -⟩ := begins
      have longer := List.length_pos_of_ne_nil notEmpty
      simp only [List.length_append]
      exact ⟨by omega, rfl⟩
    simp only [Command.argument?, spells.after, Text.dropWhileOfStop blank begins.stops]
    exact if_pos isArgument

theorem splitWordOfGap (isName : IsSolid name) (isGap : IsGap gap) (begins : BeginsSolid rest) :
    Command.splitWord (name ++ (gap ++ rest)) = (name, rest) := by
  simp only [Command.splitWord, Text.takeWhileOfStop isName.admitted isGap.stops, List.drop_left,
    Text.dropWhileOfStop isGap.2 begins.stops]

theorem splitWordOfWord (isName : IsSolid name) : Command.splitWord name = (name, []) := by
  have taken := Text.takeWhileOfStop isName.admitted Text.stopsAtNil
  rw [List.append_nil] at taken
  simp only [Command.splitWord, taken, List.drop_length, List.dropWhile_nil]

/-- A first word is set apart from what follows. -/
theorem splitWordParts (begins : BeginsSolid argument) :
    ∃ name gap, IsSolid name ∧ (∀ character ∈ gap, Text.isBlank character = true) ∧
      argument = name ++ (gap ++ (Command.splitWord argument).2) ∧
        (BeginsSolid (Command.splitWord argument).2 → IsGap gap) := by
  obtain ⟨name, after, same, taken, dropped, solid, stops⟩ :=
    Text.spanAdmitted (fun character => !Text.isBlank character) argument
  obtain ⟨gap, rest, rfl, -, -, blank, stopsRest⟩ := Text.spanAdmitted Text.isBlank after
  have isRest : (Command.splitWord argument).2 = rest := by
    simp only [Command.splitWord, taken, dropped, Text.dropWhileOfStop blank stopsRest]
  rw [isRest]
  refine ⟨name, gap, ⟨?_, fun character isInside => by simpa using solid character isInside⟩, blank,
    same, fun beginsRest => ⟨?_, blank⟩⟩
  · rintro rfl
    obtain ⟨first, others, rfl, notBlank⟩ := begins
    have isBlank := stops first (by rw [← List.nil_append (gap ++ rest), ← same]; rfl)
    rw [notBlank] at isBlank
    exact nomatch isBlank
  · rintro rfl
    obtain ⟨first, others, rfl, notBlank⟩ := beginsRest
    have isBlank := stops first rfl
    rw [notBlank] at isBlank
    exact nomatch isBlank

/-- One word with no blanks at its end is all of the argument. -/
theorem oneWordIsSolid (begins : BeginsSolid argument)
    (last : ∀ character, argument.getLast? = some character → Text.isBlank character = false)
    (oneWord : (Command.splitWord argument).2 = []) : IsSolid argument := by
  obtain ⟨name, gap, isName, blank, parts, -⟩ := splitWordParts begins
  rw [oneWord, List.append_nil] at parts
  have noGap : gap = [] := by
    cases atEnd : gap.getLast? with
    | none => exact List.getLast?_eq_none_iff.1 atEnd
    | some blankLast =>
        obtain ⟨others, rfl⟩ := List.getLast?_eq_some_iff.1 atEnd
        have notBlank := last blankLast (by rw [parts]; simp)
        rw [blank blankLast (by simp)] at notBlank
        exact nomatch notBlank
  rw [parts, noGap, List.append_nil]
  exact isName

theorem HasArgument.beginsSolid (hasArgument : HasArgument keyword raw argument)
    (notEmpty : keyword.length ≠ 0)
    (noBlank : (keyword.toList.map Text.foldLetter).all (!Text.isBlank ·) = true) :
    BeginsSolid raw := by
  obtain ⟨word, gap, spells, -, -, rfl⟩ := hasArgument
  cases word with
  | nil => exact absurd spells.length.symm notEmpty
  | cons first others =>
      exact ⟨first, _, rfl, spells.notBlank noBlank first (List.mem_cons_self ..)⟩

theorem openLoopIff : (Command.openLoop? raw).isSome = true ↔
    ∃ name gap list code, HasArgument "FOR" raw (name ++ (gap ++ list)) ∧ IsSolid name ∧ IsGap gap ∧
      HasArgument "IN" list code := by
  constructor
  · intro isSome
    obtain ⟨command, found⟩ := Option.isSome_iff_exists.1 isSome
    simp only [Command.openLoop?, Option.bind_eq_bind, Option.bind_eq_some_iff] at found
    obtain ⟨argument, isArgument, code, isCode, -⟩ := found
    have hasItem := argumentIff.1 isArgument
    have hasList := argumentIff.1 isCode
    obtain ⟨-, -, -, -, begins, -⟩ := id hasItem
    obtain ⟨name, gap, isName, -, same, isGap⟩ := splitWordParts begins
    have beginsList := hasList.beginsSolid (by decide) (by decide +kernel)
    rw [same] at hasItem
    exact ⟨name, gap, _, code, hasItem, isName, isGap beginsList, hasList⟩
  · rintro ⟨name, gap, list, code, hasItem, isName, isGap, hasList⟩
    have beginsList := hasList.beginsSolid (by decide) (by decide +kernel)
    simp only [Command.openLoop?, argumentIff.2 hasItem, Option.bind_eq_bind, Option.bind_some,
      splitWordOfGap isName isGap beginsList, argumentIff.2 hasList, Option.isSome_some]

theorem closeLoopIff
    (last : ∀ character, raw.getLast? = some character → Text.isBlank character = false) :
    (Command.closeLoop? raw).isSome = true ↔
      Text.SpellsKeyword "END-FOR" raw ∨ ∃ name, HasArgument "END-FOR" raw name ∧ IsSolid name := by
  constructor
  · intro isSome
    unfold Command.closeLoop? at isSome
    split at isSome
    case h_1 following =>
      obtain ⟨word, spells, rfl⟩ := Text.afterKeywordIff.1 following
      rw [List.append_nil]
      exact .inl spells
    case h_2 =>
      obtain ⟨command, found⟩ := Option.isSome_iff_exists.1 isSome
      simp only [Option.bind_eq_bind, Option.bind_eq_some_iff] at found
      obtain ⟨argument, isArgument, found⟩ := found
      have hasName := argumentIff.1 isArgument
      obtain ⟨word, gap, -, -, begins, rfl⟩ := id hasName
      have oneWord : (Command.splitWord argument).2 = [] := by
        split at found
        case h_1 split => rw [split]
        case h_2 => exact nomatch found
      exact .inr ⟨argument, hasName, oneWordIsSolid begins
        (fun character isLast => last character (by simp [isLast])) oneWord⟩
  · rintro (spells | ⟨name, hasName, isName⟩)
    · have following := spells.after []
      rw [List.append_nil] at following
      simp only [Command.closeLoop?, following, Option.isSome_some]
    · obtain ⟨word, gap, spells, isGap, begins, rfl⟩ := id hasName
      have found := argumentIff.2 hasName
      unfold Command.closeLoop?
      split
      case h_1 => rfl
      case h_2 =>
        simp only [found, Option.bind_eq_bind, Option.bind_some, splitWordOfWord isName,
          Option.isSome_some]

theorem openChoiceIff :
    (Command.openChoice? raw).isSome = true ↔ ∃ code, HasArgument "IF" raw code := by
  simp only [Command.openChoice?, Option.bind_eq_bind, Option.isSome_bind, Option.any_eq_true_iff_get,
    Option.isSome_some, ← argumentIff, ← Option.isSome_iff_exists]
  simp

theorem closeChoiceIff : (Command.closeChoice? raw).isSome = true ↔
    ∃ word rest, Text.SpellsKeyword "END-IF" word ∧ endsWord rest = true ∧ raw = word ++ rest := by
  constructor
  · intro isSome
    unfold Command.closeChoice? at isSome
    split at isSome
    case h_1 next others following =>
      obtain ⟨word, spells, same⟩ := Text.afterKeywordIff.1 following
      split at isSome
      case isTrue => exact nomatch isSome
      case isFalse notWord => exact ⟨word, _, spells, by simpa [endsWord] using notWord, same⟩
    case h_2 following =>
      obtain ⟨word, spells, same⟩ := Text.afterKeywordIff.1 following
      exact ⟨word, [], spells, rfl, same⟩
    case h_3 => exact nomatch isSome
  · rintro ⟨word, rest, spells, ends, rfl⟩
    cases rest with
    | nil => simp only [Command.closeChoice?, spells.after, Option.isSome_some]
    | cons next others =>
        have notWord : Text.isWord next = false := by simpa [endsWord] using ends
        simp only [Command.closeChoice?, spells.after, notWord, Bool.false_eq_true, if_false,
          Option.isSome_some]

/-! ### Classification -/

theorem openLoopIsBlock {command : Command} (found : Command.openLoop? raw = some command) :
    command.isBlock = true := by
  simp only [Command.openLoop?, Option.bind_eq_bind, Option.bind_eq_some_iff] at found
  obtain ⟨argument, -, code, -, same⟩ := found
  obtain rfl := Option.some.inj same
  rfl

theorem commandOfCloseLoop {command : Command} (found : Command.closeLoop? raw = some command) :
    ∃ itemName, command = .closeLoop itemName := by
  unfold Command.closeLoop? at found
  split at found
  case h_1 => exact ⟨_, (Option.some.inj found).symm⟩
  case h_2 =>
    simp only [Option.bind_eq_bind, Option.bind_eq_some_iff] at found
    obtain ⟨argument, -, found⟩ := found
    split at found
    case h_1 => exact ⟨_, (Option.some.inj found).symm⟩
    case h_2 => exact nomatch found

theorem closeLoopIsBlock {command : Command} (found : Command.closeLoop? raw = some command) :
    command.isBlock = true := by
  obtain ⟨itemName, rfl⟩ := commandOfCloseLoop found
  rfl

theorem openChoiceIsBlock {command : Command} (found : Command.openChoice? raw = some command) :
    command.isBlock = true := by
  simp only [Command.openChoice?, Option.bind_eq_bind, Option.bind_eq_some_iff] at found
  obtain ⟨argument, -, same⟩ := found
  obtain rfl := Option.some.inj same
  rfl

theorem commandOfCloseChoice {command : Command} (found : Command.closeChoice? raw = some command) :
    command = .closeChoice := by
  unfold Command.closeChoice? at found
  split at found
  case h_1 =>
    split at found
    case isTrue => exact nomatch found
    case isFalse => exact (Option.some.inj found).symm
  case h_2 => exact (Option.some.inj found).symm
  case h_3 => exact nomatch found

theorem closeChoiceIsBlock {command : Command} (found : Command.closeChoice? raw = some command) :
    command.isBlock = true := by
  obtain rfl := commandOfCloseChoice found
  rfl

theorem isBlockIff : (Command.ofCharacters raw).isBlock = true ↔
    (Command.openLoop? raw).isSome = true ∨ (Command.closeLoop? raw).isSome = true ∨
      (Command.openChoice? raw).isSome = true ∨ (Command.closeChoice? raw).isSome = true := by
  unfold Command.ofCharacters
  cases openLoop : Command.openLoop? raw with
  | some command => simp [openLoopIsBlock openLoop]
  | none =>
  cases closeLoop : Command.closeLoop? raw with
  | some command => simp [closeLoopIsBlock closeLoop]
  | none =>
  cases openChoice : Command.openChoice? raw with
  | some command => simp [openChoiceIsBlock openChoice]
  | none =>
  cases closeChoice : Command.closeChoice? raw with
  | some command => simp [closeChoiceIsBlock closeChoice]
  | none =>
  cases execute : Command.execute? raw with
  | some command =>
      simp only [Command.execute?, Option.bind_eq_bind, Option.bind_eq_some_iff] at execute
      obtain ⟨argument, -, same⟩ := execute
      obtain rfl := Option.some.inj same
      simp [Command.isBlock]
  | none => simp [Command.isBlock]

/-- A command without blanks around it is one of a block if it has the form of one. -/
theorem blockCommandIff
    (last : ∀ character, raw.getLast? = some character → Text.isBlank character = false) :
    (Command.ofCharacters raw).isBlock = true ↔ IsBlockCommand raw := by
  rw [isBlockIff, openLoopIff, closeLoopIff last, openChoiceIff, closeChoiceIff]
  constructor
  · rintro (⟨name, gap, list, code, hasItem, isName, isGap, hasList⟩ |
      (spells | ⟨name, hasName, isName⟩) | ⟨code, hasCondition⟩ | ⟨word, rest, spells, ends, rfl⟩)
    · exact .loop hasItem isName isGap hasList
    · exact .loopEnd spells
    · exact .namedLoopEnd hasName isName
    · exact .choice hasCondition
    · exact .choiceEnd spells ends
  · intro isBlock
    cases isBlock with
    | loop hasItem isName isGap hasList =>
        exact .inl ⟨_, _, _, _, hasItem, isName, isGap, hasList⟩
    | loopEnd spells => exact .inr (.inl (.inl spells))
    | namedLoopEnd hasName isName => exact .inr (.inl (.inr ⟨_, hasName, isName⟩))
    | choice hasCondition => exact .inr (.inr (.inl ⟨_, hasCondition⟩))
    | choiceEnd spells ends => exact .inr (.inr (.inr ⟨_, _, spells, ends, rfl⟩))

/-- A command that begins with the keyword of a block is of no other kind than a block, so it is
inserted as a whole if it does not have the form of one. -/
theorem insertedOfBlockKeyword (starts : startsWithBlockKeyword raw = true)
    (notBlock : (Command.ofCharacters raw).isBlock = false) :
    Command.ofCharacters raw = .insert (String.ofList raw) := by
  obtain ⟨keyword, isBlock, word, rest, spells, -, rfl⟩ := startsWithBlockKeywordIff.1 starts
  have apart : ∀ keyword ∈ blockKeywords, ∀ other ∈ ["EXEC", "INS", "="],
      (¬ keyword.toList.map Text.foldLetter <+: other.toList.map Text.foldLetter) ∧
        ¬ other.toList.map Text.foldLetter <+: keyword.toList.map Text.foldLetter := by decide
  have absent (other : String) (isOther : other ∈ ["EXEC", "INS", "="]) :
      Text.afterKeyword? other (word ++ rest) = none := by
    obtain ⟨notBefore, notAfter⟩ := apart keyword isBlock other isOther
    exact spells.apart notBefore notAfter rest
  have noExecution : Command.execute? (word ++ rest) = none := by
    simp [Command.execute?, Command.argument?, absent "EXEC" (by decide)]
  have noInsertion : Command.insertArgument? (word ++ rest) = none := by
    unfold Command.insertArgument?
    split
    case h_1 others same =>
      have equals := absent "=" (by decide)
      rw [same] at equals
      exact nomatch equals
    case h_2 => simp [Command.argument?, absent "INS" (by decide)]
  have noBlock := mt isBlockIff.2 (Bool.eq_false_iff.1 notBlock)
  simp only [not_or, Bool.not_eq_true, Option.isSome_eq_false_iff, Option.isNone_iff_eq_none] at noBlock
  obtain ⟨noLoop, noLoopEnd, noChoice, noChoiceEnd⟩ := noBlock
  rw [Command.ofCharacters, noLoop, noLoopEnd, noChoice, noChoiceEnd, noExecution, noInsertion]
  rfl

end

/-! ### Texts that collapse -/

section

variable {text front inside back : List Char}

/-- A text collapses for one command alone, which stripping keeps. That command is one of a block
exactly if it has what its keyword needs, and it is inserted as a whole otherwise. -/
theorem structuralCommandKind (text : List Char) (structural : isStructural text = true) :
    ∃ raw, (∀ kept ∈ [text, Text.stripList text],
        (Lexeme.ofMarkup (kept.flatMap escapeText)).filterMap Lexeme.command? =
          [.ok (String.ofList raw)]) ∧
      ((Command.ofText (String.ofList raw)).isBlock = true ↔ IsBlockCommand raw) ∧
      (¬ IsBlockCommand raw → Command.ofText (String.ofList raw) = .insert (String.ofList raw)) := by
  obtain ⟨front, inside, back, rfl, blankFront, blankBack, bare, starts⟩ := structuralIff.1 structural
  have startsRaw : startsWithBlockKeyword (Text.stripList inside) = true := startsStripped.2 starts
  have notEmpty : Text.stripList inside ≠ [] := structuralNotEmpty starts
  have isBlockIff : (Command.ofCharacters (Text.stripList inside)).isBlock = true ↔
      IsBlockCommand (Text.stripList inside) :=
    blockCommandIff fun _ => Text.stripListLast
  have reads {left right : List Char} (bareLeft : NoBrace left) (bareRight : NoBrace right) :
      (Lexeme.ofMarkup ((left ++ '\x7b' :: (inside ++ '\x7d' :: right)).flatMap escapeText)).filterMap
        Lexeme.command? = [.ok (String.ofList (Text.stripList inside))] := by
    have cuts := CutsOutside.empty.enclosed bareLeft bare bareRight notEmpty
    rw [List.append_nil] at cuts
    exact cuts.lexemes
  refine ⟨Text.stripList inside, ?_, ?_⟩
  · rw [stripAround blankFront blankBack]
    simp only [List.forall_mem_cons, List.not_mem_nil, false_implies, implies_true, and_true]
    exact ⟨reads (blanksNoBrace blankFront) (blanksNoBrace blankBack), reads noBraceNil noBraceNil⟩
  · rw [Command.ofText, String.toList_ofList]
    exact ⟨isBlockIff, fun notBlock =>
      insertedOfBlockKeyword startsRaw (Bool.eq_false_iff.2 (mt isBlockIff.1 notBlock))⟩

/-- A choice with a condition begins a block. -/
theorem conditionKind :
    isStructural " \x7bIF paid\x7d ".toList = true ∧
      ∃ raw, (∀ kept ∈ [" \x7bIF paid\x7d ".toList, Text.stripList " \x7bIF paid\x7d ".toList],
          (Lexeme.ofMarkup (kept.flatMap escapeText)).filterMap Lexeme.command? =
            [.ok (String.ofList raw)]) ∧
        ((Command.ofText (String.ofList raw)).isBlock = true ↔ IsBlockCommand raw) ∧
        (¬ IsBlockCommand raw → Command.ofText (String.ofList raw) = .insert (String.ofList raw)) :=
  have structural : isStructural " \x7bIF paid\x7d ".toList = true := by decide +kernel
  ⟨structural, structuralCommandKind _ structural⟩

/-- The member of a value that is named like a keyword collapses with its paragraph, although it is
inserted. -/
theorem memberOfKeywordCollapses :
    isStructural "\x7bif.total\x7d".toList = true ∧
      (Lexeme.ofMarkup ("\x7bif.total\x7d".toList.flatMap escapeText)).filterMap Lexeme.command? =
        [.ok "if.total"] ∧
      Command.ofText "if.total" = .insert "if.total" ∧
      (preparePart ("<w:body xmlns:w=\"http://schemas.openxmlformats.org/wordprocessingml/2006/main\">" ++
        "<w:p><w:r><w:t>\x7bif.total\x7d</w:t></w:r></w:p></w:body>")).toOption =
        some ("<?xml version='1.0' encoding='UTF-8' standalone='yes'?>\n<w:body xmlns:w=\"" ++
          "http://schemas.openxmlformats.org/wordprocessingml/2006/main\">" ++
          "\x7bif.total\x7d</w:body>").toList := by
  decide +kernel

/-- Every command of a block that stands alone collapses. -/
theorem blockCommandIsStructural (blankFront : ∀ character ∈ front, Text.isBlank character = true)
    (blankBack : ∀ character ∈ back, Text.isBlank character = true) (bare : NoBrace inside)
    (isBlock : IsBlockCommand (Text.stripList inside)) :
    isStructural (front ++ '\x7b' :: (inside ++ '\x7d' :: back)) = true := by
  refine structuralIff.2 ⟨front, inside, back, rfl, blankFront, blankBack, bare, startsStripped.1 ?_⟩
  change startsWithBlockKeyword (Text.stripList inside) = true
  generalize Text.stripList inside = raw at isBlock
  have ofArgument {keyword : String} {argument : List Char} (isKeyword : keyword ∈ blockKeywords)
      (hasArgument : HasArgument keyword raw argument) : startsWithBlockKeyword raw = true := by
    obtain ⟨word, gap, spells, ⟨notEmpty, blank⟩, -, rfl⟩ := hasArgument
    refine startsWithBlockKeywordIff.2 ⟨keyword, isKeyword, word, _, spells, ?_, rfl⟩
    cases gap with
    | nil => exact absurd rfl notEmpty
    | cons first others =>
        have ends : endsWord [first] = true := endsWordBlank (by simpa using blank first (by simp))
        exact ends
  cases isBlock with
  | loop hasItem => exact ofArgument (by decide) hasItem
  | loopEnd spells =>
      exact startsWithBlockKeywordIff.2 ⟨_, by decide, raw, [], spells, rfl, (List.append_nil _).symm⟩
  | namedLoopEnd hasName => exact ofArgument (by decide) hasName
  | choice hasCondition => exact ofArgument (by decide) hasCondition
  | choiceEnd spells ends =>
      exact startsWithBlockKeywordIff.2 ⟨_, by decide, _, _, spells, ends, rfl⟩

end

end Letterpress.Report
