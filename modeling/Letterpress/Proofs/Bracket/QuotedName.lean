import Letterpress.Proofs.Bracket.ItemAccess
import Letterpress.Proofs.Bracket.RootExpression

/-!
This file shows that quoted names keep their meaning in the language of scripts. A quoted text is one
token and one literal, and the access to a field reads the member of that name in either spelling.
-/

open Letterpress.Script

namespace Letterpress.Bracket

/-- A quoted text is one token, from its first quote to the last. -/
theorem quotedTokens (text : String) :
    tokenize (Text.quote text) =
      .ok [⟨.text, Text.quote text, 0⟩, ⟨.finish, "", (Text.quote text).length⟩] := by
  have begins := quotedBegins text []
  obtain ⟨less, -, cutOff⟩ :=
    cutFromWord begins (Text.quote text) [] 0 (Nat.le_refl _)
  have ends : Token.cutFrom (Text.quote text) [⟨.text, Text.quote text, 0⟩] less
      (0 + (Text.quote text).toList.length) [] =
        .ok [⟨.text, Text.quote text, 0⟩, ⟨.finish, "", 0 + (Text.quote text).toList.length⟩] := by
    cases less <;> rfl
  rw [List.append_nil] at cutOff
  rw [tokenize, cutOff, ends, Nat.zero_add, String.length_toList]

/-- A quoted text is a program of one literal. -/
theorem quotedIsRead (text : String) :
    parse (Text.quote text) = .ok [.expression (.literal (.text text))] := by
  let program : Program := [.expression (.literal (.text text))]
  have printed : printProgram 0 0 program = Text.quote text := by
    simp [program, printProgram, Word.spaced, Statement.words, Expression.words, Literal.word]
  have printable : ∀ target ∈ program, target.IsPrintable :=
    List.forall_mem_singleton.2 (.literal trivial)
  have enough : ∀ target ∈ program, 2 * target.height < maximalDepth :=
    List.forall_mem_singleton.2 (by decide : 2 * 0 < maximalDepth)
  obtain ⟨parsed, reads, same⟩ :=
    printedProgramIsRead 0 0 maximalDepth program printable enough
  obtain ⟨statement, rfl, sameStatement⟩ := List.map_eq_singleton_iff.1 same
  rw [printed] at reads
  cases statement with
  | expression value =>
      obtain rfl := unsourcedLiteral (Statement.expression.inj sameStatement)
      exact reads
  | deleteName | deleteMember => simp [Statement.unsourced] at sameStatement

/-- A quoted name between the brackets of `this` is a member of the scope. -/
theorem quotedMemberIsRead (field : String) :
    parse ("this[" ++ Text.quote field ++ "]") =
      .ok [.expression (.member .this (.literal (.text field)))] := by
  have isThis : (isNameText "this" && !statementNames.contains "this") = true := by decide
  have readable : (wholePath field).isReadable = true := by
    simpa [MemberPath.isReadable, wholePath, PathStep.isReadable] using isThis
  have reads := pathIsRead readable
  rw [← wholeFieldText] at reads
  exact reads

/-- Every text survives quoting: it is cut into one token, it is read as the literal of the text, and
between brackets it names a member. Every field without blanks around it is read as a member of the
item. -/
theorem quotedNamesAreRead :
    (∀ text : String,
      tokenize (Text.quote text) =
          .ok [⟨.text, Text.quote text, 0⟩, ⟨.finish, "", (Text.quote text).length⟩] ∧
        parse (Text.quote text) = .ok [.expression (.literal (.text text))] ∧
        parse ("this[" ++ Text.quote text ++ "]") =
          .ok [.expression (.member .this (.literal (.text text)))]) ∧
    ∀ itemName body : String, IsName itemName → Text.strip body = body →
      parse (accessFromAlias itemName body) =
        .ok [.expression (.member (.name ("$" ++ itemName)) (.literal (.text body)))] := by
  constructor
  · intro text
    exact ⟨quotedTokens text, quotedIsRead text, quotedMemberIsRead text⟩
  · intro itemName body isName stripped
    exact accessIsRead isName stripped

/-- A field with a space is quoted between brackets, and it is read all the same. -/
theorem spacedFieldIsRead :
    IsName "item" ∧ Text.strip "unit price" = "unit price" ∧
      accessFromAlias "item" "unit price" = "$item[\"unit price\"]" ∧
      parse (accessFromAlias "item" "unit price") =
        .ok [.expression (.member (.name "$item") (.literal (.text "unit price")))] := by
  have isName : IsName "item" := ⟨by decide, List.all_eq_true.1 (by decide)⟩
  have stripped : Text.strip "unit price" = "unit price" := by decide
  exact ⟨isName, stripped, by decide, quotedNamesAreRead.2 "item" "unit price" isName stripped⟩

end Letterpress.Bracket
