import Letterpress.Proofs.Report.BlockCommand

/-!
This file shows that the text of a command is decoded exactly once. What an author typed between two
braces is escaped in the written part, and the command is cut from the very same text.
-/

namespace Letterpress.Report

open Markup

/-! ### Chunks and fragments -/

/-- A tag is cut off together with the text before it. -/
theorem chunksBeforeTag {before inside : List Char} (noTag : '<' ∉ before) (noClosing : '>' ∉ inside)
    (rest : List Char) (fuel : Nat) :
    Chunk.fromCharacters (fuel + 1) (before ++ '<' :: (inside ++ '>' :: rest)) =
      Chunk.textUnlessEmpty before ++
        .tag ('<' :: (inside ++ ['>'])) :: Chunk.fromCharacters fuel rest := by
  have beforeTag : (before ++ '<' :: (inside ++ '>' :: rest)).takeWhile (· ≠ '<') = before :=
    Text.takeWhileOfStop (fun _ isInside => decide_eq_true fun same => noTag (same ▸ isInside))
      (Text.stopsAtCons (by decide))
  have insideTag : (inside ++ '>' :: rest).takeWhile (· ≠ '>') = inside :=
    Text.takeWhileOfStop (fun _ isInside => decide_eq_true fun same => noClosing (same ▸ isInside))
      (Text.stopsAtCons (by decide))
  simp only [Chunk.fromCharacters, beforeTag, insideTag, List.drop_left]

/-- A text run is cut into its two tags and its text. -/
theorem chunksOfRun {content : List Char} (noTag : '<' ∉ content) (notEmpty : content ≠ []) :
    Chunk.ofMarkup ("<w:t>".toList ++ (content ++ "</w:t>".toList)) =
      [.tag "<w:t>".toList, .text content, .tag "</w:t>".toList] := by
  have isFuel : ("<w:t>".toList ++ (content ++ "</w:t>".toList)).length + 1 =
      (content.length + 9) + 1 + 1 + 1 := by
    simp
  have noneBefore : '<' ∉ ([] : List Char) := List.not_mem_nil
  have inOpening : '>' ∉ "w:t".toList := by decide
  have inClosing : '>' ∉ "/w:t".toList := by decide
  have opening := chunksBeforeTag noneBefore inOpening (content ++ "</w:t>".toList)
    (content.length + 9 + 1 + 1)
  have closing := chunksBeforeTag noTag inClosing [] (content.length + 9 + 1)
  have isText : Chunk.textUnlessEmpty content = [.text content] := by
    rw [Chunk.textUnlessEmpty, if_neg (by simpa using notEmpty)]
  rw [isText] at closing
  rw [Chunk.ofMarkup, isFuel]
  exact opening.trans (congrArg (Chunk.tag "<w:t>".toList :: ·) closing)

/-- A text that is one command is one fragment. -/
theorem fragmentOfCommand {inside : List Char} (bare : Part.NoBrace inside) {raw : String}
    (decodes : Fragment.decode inside = .ok raw) (notEmpty : raw ≠ "") :
    Fragment.ofText ('\x7b' :: (inside ++ ['\x7d'])) = [.command (.ok raw)] := by
  have admitted : ∀ character ∈ inside, Fragment.isInside character = true := by
    intro character isInside
    have notBrace := bare character isInside
    simpa [Part.isBrace, Fragment.isInside] using notBrace
  have taken : (inside ++ ['\x7d']).takeWhile Fragment.isInside = inside :=
    Text.takeWhileOfStop admitted (Text.stopsAtCons (by decide))
  have noneBefore : ('\x7b' :: (inside ++ ['\x7d'])).takeWhile (· ≠ '\x7b') = [] :=
    List.takeWhile_cons_of_neg (by decide)
  have isCommand : Fragment.add inside [] = [.command (.ok raw)] := by
    unfold Fragment.add
    rw [decodes]
    split
    case h_1 same => exact absurd (Except.ok.inj same) notEmpty
    case h_2 => rfl
  rw [Fragment.ofText, Fragment.fromCharacters]
  simp only [noneBefore, List.length_nil, List.drop_zero, taken, List.drop_left]
  rw [List.length_cons, Fragment.fromCharacters.eq_def]
  simp [Fragment.addPlain, isCommand]

/-! ### Codes -/

/-- A command that ends a block has no code. -/
def Command.code? : Command → Option String
  | .openBlock _ code | .execute code | .insert code => some code
  | .closeLoop _ | .closeChoice => none

section

variable {raw argument : List Char} {keyword code : String} {command : Command}

theorem HasArgument.isSuffix (hasArgument : HasArgument keyword raw argument) : argument <:+ raw := by
  obtain ⟨word, gap, -, -, -, rfl⟩ := hasArgument
  rw [← List.append_assoc]
  exact List.suffix_append ..

/-- The code of a loop is the argument of a keyword within the argument of another one. -/
theorem codeOfOpenLoop (found : Command.openLoop? raw = some command)
    (isCode : command.code? = some code) : code.toList <:+ raw := by
  simp only [Command.openLoop?, Option.bind_eq_bind, Option.bind_eq_some_iff] at found
  obtain ⟨argument, isArgument, list, isList, same⟩ := found
  obtain rfl := Option.some.inj same
  obtain rfl := Option.some.inj isCode
  rw [String.toList_ofList]
  have hasItem := argumentIff.1 isArgument
  obtain ⟨-, -, -, -, begins, -⟩ := id hasItem
  obtain ⟨name, gap, -, -, parts, -⟩ := splitWordParts begins
  have inArgument : (Command.splitWord argument).2 <:+ argument :=
    ⟨name ++ gap, by rw [List.append_assoc, ← parts]⟩
  exact (argumentIff.1 isList).isSuffix.trans (inArgument.trans hasItem.isSuffix)

/-- The code of a choice or an execution is the argument of its keyword. -/
theorem codeOfArgument {build : String → Command} (keeps : ∀ code, (build code).code? = some code)
    (found : ((Command.argument? keyword raw).bind fun argument =>
      some (build (String.ofList argument))) = some command)
    (isCode : command.code? = some code) : code.toList <:+ raw := by
  obtain ⟨argument, isArgument, same⟩ := Option.bind_eq_some_iff.1 found
  obtain rfl := Option.some.inj same
  obtain rfl := Option.some.inj ((keeps _).symm.trans isCode)
  rw [String.toList_ofList]
  exact (argumentIff.1 isArgument).isSuffix

/-- An insertion without a keyword is the whole command. -/
theorem codeOfInsertion : (Command.insertArgument? raw).getD raw <:+ raw := by
  unfold Command.insertArgument?
  split
  case h_1 rest =>
    dsimp only
    split
    · exact List.suffix_rfl
    · exact (List.dropWhile_suffix _).trans (List.suffix_cons ..)
  case h_2 =>
    cases found : Command.argument? "INS" raw with
    | none => exact List.suffix_rfl
    | some argument => exact (argumentIff.1 found).isSuffix

/-- The code of every command is the end of its text. -/
theorem codeIsSuffix (isCode : (Command.ofCharacters raw).code? = some code) : code.toList <:+ raw := by
  unfold Command.ofCharacters at isCode
  cases openLoop : Command.openLoop? raw with
  | some command => exact codeOfOpenLoop openLoop (by simpa [openLoop] using isCode)
  | none =>
  cases closeLoop : Command.closeLoop? raw with
  | some command =>
      obtain ⟨itemName, rfl⟩ := commandOfCloseLoop closeLoop
      simp [openLoop, closeLoop, Command.code?] at isCode
  | none =>
  cases openChoice : Command.openChoice? raw with
  | some command =>
      exact codeOfArgument (fun _ => rfl) openChoice
        (by simpa [openLoop, closeLoop, openChoice] using isCode)
  | none =>
  cases closeChoice : Command.closeChoice? raw with
  | some command =>
      obtain rfl := commandOfCloseChoice closeChoice
      simp [openLoop, closeLoop, openChoice, closeChoice, Command.code?] at isCode
  | none =>
  cases execute : Command.execute? raw with
  | some command =>
      exact codeOfArgument (fun _ => rfl) execute
        (by simpa [openLoop, closeLoop, openChoice, closeChoice, execute] using isCode)
  | none =>
      have isInsertion : String.ofList ((Command.insertArgument? raw).getD raw) = code := by
        simpa [openLoop, closeLoop, openChoice, closeChoice, execute, Command.code?] using isCode
      rw [← isInsertion, String.toList_ofList]
      exact codeOfInsertion

end

/-! ### Runs -/

/-- This is a written text run in which one command was typed. -/
def writtenRun (typed : String) : List Char :=
  "<w:t>".toList ++ ('\x7b' :: (typed.toList.flatMap escapeText ++ ['\x7d']) ++ "</w:t>".toList)

/-- A typed command is decoded to what was typed, without the blanks around it. -/
theorem typedDecodes (typed : String) :
    Fragment.decode (typed.toList.flatMap escapeText) = .ok (Text.strip typed) := by
  rw [Fragment.decode, Text.CharacterReference.decodeWritten]
  rfl

/-- A written run has exactly one command, and its text is what was typed, without the blanks around
it: whatever looks like a reference in it is kept. The command is classified from that text, and the
code of the command is the end of it. -/
theorem typedCommandIsDecodedOnce (typed : String) (bare : Part.NoBrace typed.toList)
    (notBlank : Text.strip typed ≠ "") :
    Lexeme.ofMarkup (writtenRun typed) =
        [.markup "<w:t>".toList, .command (.ok (Text.strip typed)) true, .markup "</w:t>".toList] ∧
      itemsOf (writtenRun typed) =
        ((Nesting.start.add (.markup "<w:t>".toList)).addCommand (Text.strip typed) true).bind
          (fun nesting => (nesting.add (.markup "</w:t>".toList)).finish) ∧
      ∀ code, (Command.ofText (Text.strip typed)).code? = some code →
        code.toList <:+ (Text.strip typed).toList := by
  have noTag : '<' ∉ '\x7b' :: (typed.toList.flatMap escapeText ++ ['\x7d']) := by
    have noneWritten : '<' ∉ typed.toList.flatMap escapeText :=
      fun isWritten => (writtenFromText isWritten).1 rfl
    simpa using noneWritten
  have fragments := fragmentOfCommand (writtenNoBrace bare) (typedDecodes typed) notBlank
  have opensRun : Chunk.opensRun "<w:t>".toList = true := by decide
  have lexemes : Lexeme.ofMarkup (writtenRun typed) =
      [.markup "<w:t>".toList, .command (.ok (Text.strip typed)) true, .markup "</w:t>".toList] := by
    rw [Lexeme.ofMarkup, writtenRun, chunksOfRun noTag (List.cons_ne_nil _ _)]
    simp only [Lexeme.ofChunks, opensRun, fragments, List.map_cons, List.map_nil, Lexeme.ofFragment]
    rfl
  refine ⟨lexemes, ?_, fun code isCode => codeIsSuffix isCode⟩
  rw [itemsOf, lexemes]
  simp only [Nesting.steps, Nesting.step]
  cases (Nesting.start.add (.markup "<w:t>".toList)).addCommand (Text.strip typed) true with
  | error failure => rfl
  | ok nesting => rfl

/-- References that were typed are text of the command. -/
theorem typedReferenceIsKept :
    Part.NoBrace " a &lt; '&amp;&#65;&nbsp;' ".toList ∧
      Text.strip " a &lt; '&amp;&#65;&nbsp;' " ≠ "" ∧
      Lexeme.ofMarkup (writtenRun " a &lt; '&amp;&#65;&nbsp;' ") =
        [.markup "<w:t>".toList, .command (.ok "a &lt; '&amp;&#65;&nbsp;'") true,
          .markup "</w:t>".toList] := by
  have bare : Part.NoBrace " a &lt; '&amp;&#65;&nbsp;' ".toList := by
    simp [Part.NoBrace, Part.isBrace]
  have notBlank : Text.strip " a &lt; '&amp;&#65;&nbsp;' " ≠ "" := by decide
  exact ⟨bare, notBlank, (typedCommandIsDecodedOnce _ bare notBlank).1⟩

end Letterpress.Report
