import Letterpress.Proofs.Report.Grammar

/-!
This file tells what becomes of any written markup. Its commands are nested if they are well
nested, and its other characters are kept in order.
-/

namespace Letterpress.Report

def Lexeme.command? : Lexeme → Option (Except Fault String)
  | markup _ => none
  | command raw _ => some raw

theorem commandsOfSymbols (lexemes : List Lexeme) :
    (lexemes.flatMap Lexeme.symbols).filterMap Symbol.command? =
      lexemes.filterMap Lexeme.command? := by
  induction lexemes with
  | nil => rfl
  | cons lexeme rest inductionHypothesis =>
      cases lexeme <;>
        simp [Lexeme.symbols, Lexeme.command?, Symbol.command?, List.filterMap_map,
          List.filterMap_cons, Function.comp_def, inductionHypothesis]

/-! ### The commands decide -/

/-- A shape is an item that is no markup. -/
inductive Shape
  | insert (code : String)
  | execute (code : String)
  | loop (itemName code : String) (body : List Shape)
  | choice (code : String) (body : List Shape)

mutual

def Item.shapes : Item → List Shape
  | .markup _ => []
  | .insert code _ => [.insert code]
  | .execute code => [.execute code]
  | .loop itemName code body => [.loop itemName code (shapesOf body)]
  | .choice code body => [.choice code (shapesOf body)]

/-- The shapes of items stand in the order of the source. -/
def shapesOf : List Item → List Shape
  | [] => []
  | item :: rest => item.shapes ++ shapesOf rest

end

theorem shapesOfAppend (items more : List Item) :
    shapesOf (items ++ more) = shapesOf items ++ shapesOf more := by
  induction items with
  | nil => rfl
  | cons item rest inductionHypothesis => simp [shapesOf, inductionHypothesis]

theorem shapesOfSingle (item : Item) : shapesOf [item] = item.shapes := List.append_nil _

/-- This grammar generates the sequences of commands that are well nested, with their parse trees.
A command that cannot be decoded is in none of them. -/
inductive Parses : List (Except Fault String) → List Shape → Prop
  | empty : Parses [] []
  | insert {commands : List (Except Fault String)} {shapes : List Shape} {raw code : String}
      (parses : Parses commands shapes) (kind : Command.ofText raw = .insert code) :
      Parses (commands ++ [.ok raw]) (shapes ++ [.insert code])
  | execute {commands : List (Except Fault String)} {shapes : List Shape} {raw code : String}
      (parses : Parses commands shapes) (kind : Command.ofText raw = .execute code) :
      Parses (commands ++ [.ok raw]) (shapes ++ [.execute code])
  | loop {commands inside : List (Except Fault String)} {shapes body : List Shape}
      {opening itemName code closing closedName : String} (parses : Parses commands shapes)
      (opens : Command.ofText opening = .openBlock (.loop itemName) code)
      (parsesInside : Parses inside body)
      (closes : Command.ofText closing = .closeLoop closedName)
      (fits : closedName = "" ∨ closedName = itemName) :
      Parses (commands ++ .ok opening :: (inside ++ [.ok closing]))
        (shapes ++ [.loop itemName code body])
  | choice {commands inside : List (Except Fault String)} {shapes body : List Shape}
      {opening code closing : String} (parses : Parses commands shapes)
      (opens : Command.ofText opening = .openBlock .choice code)
      (parsesInside : Parses inside body) (closes : Command.ofText closing = .closeChoice) :
      Parses (commands ++ .ok opening :: (inside ++ [.ok closing]))
        (shapes ++ [.choice code body])

theorem Derives.parses {lexemes : List Lexeme} {items : List Item}
    (derives : Derives lexemes items) :
    Parses (lexemes.filterMap Lexeme.command?) (shapesOf items) := by
  induction derives with
  | empty => exact .empty
  | markup _ content inductionHypothesis =>
      rw [shapesOfAppend, shapesOfSingle]
      simpa [Lexeme.command?, List.filterMap_cons, Item.shapes] using inductionHypothesis
  | insert _ kind isInRun inductionHypothesis =>
      rw [shapesOfAppend, shapesOfSingle]
      simpa [Lexeme.command?, Item.shapes] using inductionHypothesis.insert kind
  | execute _ kind isInRun inductionHypothesis =>
      rw [shapesOfAppend, shapesOfSingle]
      simpa [Lexeme.command?, Item.shapes] using inductionHypothesis.execute kind
  | loop _ opens _ closes fits _ _ parses parsesInside =>
      rw [shapesOfAppend, shapesOfSingle]
      simpa [Lexeme.command?, Item.shapes] using parses.loop opens parsesInside closes fits
  | choice _ opens _ closes _ _ parses parsesInside =>
      rw [shapesOfAppend, shapesOfSingle]
      simpa [Lexeme.command?, Item.shapes] using parses.choice opens parsesInside closes

theorem Derives.addMarkups {lexemes markups : List Lexeme} {items : List Item}
    (derives : Derives lexemes items)
    (noCommands : markups.filterMap Lexeme.command? = []) :
    ∃ more, Derives (lexemes ++ markups) more ∧ shapesOf more = shapesOf items := by
  induction markups generalizing lexemes items with
  | nil => exact ⟨items, by simpa using derives, rfl⟩
  | cons lexeme rest inductionHypothesis =>
      cases lexeme with
      | markup content =>
          obtain ⟨more, derivesMore, sameShapes⟩ :=
            inductionHypothesis (derives.markup content) noCommands
          refine ⟨more, by simpa using derivesMore, ?_⟩
          rw [sameShapes, shapesOfAppend, shapesOfSingle, Item.shapes, List.append_nil]
      | command raw isInRun => exact nomatch noCommands

/-- Lexemes can be parted at each of their commands. -/
theorem splitAtCommand {lexemes : List Lexeme} {before after : List (Except Fault String)}
    {raw : Except Fault String}
    (commands : lexemes.filterMap Lexeme.command? = before ++ raw :: after) :
    ∃ lexemesBefore isInRun lexemesAfter,
      lexemes = lexemesBefore ++ .command raw isInRun :: lexemesAfter ∧
        lexemesBefore.filterMap Lexeme.command? = before ∧
        lexemesAfter.filterMap Lexeme.command? = after := by
  obtain ⟨lexemesBefore, rest, rfl, commandsBefore, commandsRest⟩ :=
    List.filterMap_eq_append_iff.1 commands
  obtain ⟨markups, lexeme, lexemesAfter, rfl, noCommands, isCommand, commandsAfter⟩ :=
    List.filterMap_eq_cons_iff.1 commandsRest
  cases lexeme with
  | markup content => exact nomatch isCommand
  | command other isInRun =>
      obtain rfl := Option.some.inj isCommand
      refine ⟨lexemesBefore ++ markups, isInRun, lexemesAfter, by simp, ?_, commandsAfter⟩
      rw [List.filterMap_append, commandsBefore, List.filterMap_eq_nil_iff.2 noCommands,
        List.append_nil]

/-- What the commands derive extends to the markup between them. -/
theorem Parses.derives {commands : List (Except Fault String)} {shapes : List Shape}
    (parses : Parses commands shapes) (lexemes : List Lexeme)
    (sameCommands : lexemes.filterMap Lexeme.command? = commands) :
    ∃ items, Derives lexemes items ∧ shapesOf items = shapes := by
  induction parses generalizing lexemes with
  | empty => exact Derives.empty.addMarkups sameCommands
  | insert _ kind inductionHypothesis =>
      obtain ⟨lexemesBefore, isInRun, markups, rfl, commandsBefore, noCommands⟩ :=
        splitAtCommand sameCommands
      obtain ⟨items, derives, rfl⟩ := inductionHypothesis lexemesBefore commandsBefore
      obtain ⟨more, derivesMore, sameShapes⟩ := (derives.insert kind isInRun).addMarkups noCommands
      refine ⟨more, by simpa using derivesMore, ?_⟩
      rw [sameShapes, shapesOfAppend, shapesOfSingle, Item.shapes]
  | execute _ kind inductionHypothesis =>
      obtain ⟨lexemesBefore, isInRun, markups, rfl, commandsBefore, noCommands⟩ :=
        splitAtCommand sameCommands
      obtain ⟨items, derives, rfl⟩ := inductionHypothesis lexemesBefore commandsBefore
      obtain ⟨more, derivesMore, sameShapes⟩ := (derives.execute kind isInRun).addMarkups noCommands
      refine ⟨more, by simpa using derivesMore, ?_⟩
      rw [sameShapes, shapesOfAppend, shapesOfSingle, Item.shapes]
  | loop _ opens _ closes fits hypothesis hypothesisInside =>
      obtain ⟨lexemesBefore, isOpeningInRun, rest, rfl, commandsBefore, commandsRest⟩ :=
        splitAtCommand sameCommands
      obtain ⟨lexemesInside, isClosingInRun, markups, rfl, commandsInside, noCommands⟩ :=
        splitAtCommand commandsRest
      obtain ⟨items, derives, rfl⟩ := hypothesis lexemesBefore commandsBefore
      obtain ⟨body, derivesInside, rfl⟩ := hypothesisInside lexemesInside commandsInside
      obtain ⟨more, derivesMore, sameShapes⟩ :=
        (derives.loop opens derivesInside closes fits isOpeningInRun isClosingInRun).addMarkups
          noCommands
      refine ⟨more, by simpa using derivesMore, ?_⟩
      rw [sameShapes, shapesOfAppend, shapesOfSingle, Item.shapes]
  | choice _ opens _ closes hypothesis hypothesisInside =>
      obtain ⟨lexemesBefore, isOpeningInRun, rest, rfl, commandsBefore, commandsRest⟩ :=
        splitAtCommand sameCommands
      obtain ⟨lexemesInside, isClosingInRun, markups, rfl, commandsInside, noCommands⟩ :=
        splitAtCommand commandsRest
      obtain ⟨items, derives, rfl⟩ := hypothesis lexemesBefore commandsBefore
      obtain ⟨body, derivesInside, rfl⟩ := hypothesisInside lexemesInside commandsInside
      obtain ⟨more, derivesMore, sameShapes⟩ :=
        (derives.choice opens derivesInside closes isOpeningInRun isClosingInRun).addMarkups
          noCommands
      refine ⟨more, by simpa using derivesMore, ?_⟩
      rw [sameShapes, shapesOfAppend, shapesOfSingle, Item.shapes]

/-- The items of written markup are what the grammar derives. -/
theorem itemsOfIff (markup : List Char) (items : List Item) :
    itemsOf markup = .ok items ↔ Derives (Lexeme.ofMarkup markup) items := by
  constructor
  · intro accepted
    unfold itemsOf at accepted
    cases stepped : Nesting.start.steps (Lexeme.ofMarkup markup) with
    | ok nesting =>
        rw [stepped] at accepted
        exact ((Nesting.HasRead.outside .empty).steps stepped).finish accepted
    | error failure =>
        rw [stepped] at accepted
        exact nomatch accepted
  · intro derives
    simp [itemsOf, Nesting.stepsOfDerives derives, Except.bind, Nesting.start, Nesting.finish]

/-- These sequences of commands leave blocks open. The innermost one comes first. -/
inductive LeavesOpen : List (Except Fault String) → List BlockName → Prop
  | outside {commands : List (Except Fault String)} {shapes : List Shape}
      (parses : Parses commands shapes) : LeavesOpen commands []
  | inside {outer commands : List (Except Fault String)} {shapes : List Shape} {raw code : String}
      {block : BlockName} {blocks : List BlockName} (leavesOpen : LeavesOpen outer blocks)
      (opens : Command.ofText raw = .openBlock block code) (parses : Parses commands shapes) :
      LeavesOpen (outer ++ .ok raw :: commands) (block :: blocks)

theorem LeavesOpen.steps {commands : List (Except Fault String)} {blocks : List BlockName}
    (leavesOpen : LeavesOpen commands blocks) (lexemes : List Lexeme)
    (sameCommands : lexemes.filterMap Lexeme.command? = commands) :
    ∃ nesting, Nesting.start.steps lexemes = .ok nesting ∧
      nesting.opened.map OpenBlock.block = blocks := by
  induction leavesOpen generalizing lexemes with
  | outside parses =>
      obtain ⟨items, derives, -⟩ := parses.derives lexemes sameCommands
      exact ⟨_, Nesting.stepsOfDerives derives _, rfl⟩
  | inside _ opens parses inductionHypothesis =>
      obtain ⟨lexemesBefore, isInRun, rest, rfl, commandsBefore, commandsRest⟩ :=
        splitAtCommand sameCommands
      obtain ⟨nesting, stepped, rfl⟩ := inductionHypothesis lexemesBefore commandsBefore
      obtain ⟨items, derives, -⟩ := parses.derives rest commandsRest
      have steppedRest := (Nesting.stepsCons (Nesting.stepOpening nesting opens isInRun) rest).trans
        (Nesting.stepsOfDerives derives _)
      rw [Nesting.stepsAppend, stepped]
      exact ⟨_, steppedRest, rfl⟩

/-- A report that leaves blocks open is refused with the innermost one. -/
theorem LeavesOpen.unterminated {markup : List Char} {block : BlockName}
    {blocks : List BlockName}
    (leavesOpen :
      LeavesOpen ((Lexeme.ofMarkup markup).filterMap Lexeme.command?) (block :: blocks)) :
    itemsOf markup = .error (.problem (.unterminated block)) := by
  obtain ⟨nesting, stepped, opened⟩ := leavesOpen.steps (Lexeme.ofMarkup markup) rfl
  obtain ⟨innermost, outer, isOpened, rfl, -⟩ := List.map_eq_cons_iff.1 opened
  rw [itemsOf, stepped]
  change nesting.finish = _
  rw [Nesting.finish, isOpened]

/-! ### What the nesting refuses -/

/-- A problem with a command is a problem of its syntax. -/
def Failure.IsSyntactic (failure : Failure) : Prop :=
  ∃ problem, failure = .problem problem ∧ problem.kind = .command

/-- The first command that cannot be decoded lets the whole report fail with its fault. -/
def Failure.IsFirstFault (failure : Failure) (commands : List (Except Fault String)) : Prop :=
  ∃ (before : List String) (fault : Fault) (after : List (Except Fault String)),
    commands = before.map .ok ++ .error fault :: after ∧ failure = .fault fault

namespace Nesting

theorem closeOrFailure {problem : Problem} {closed : Option Nesting} {failure : Failure}
    (refused : closeOr problem closed = .error failure) : failure = .problem problem := by
  cases closed with
  | none => exact (Except.error.inj refused).symm
  | some nesting => exact nomatch refused

theorem addCommandFailure {nesting : Nesting} {raw : String} {isInRun : Bool} {failure : Failure}
    (refused : nesting.addCommand raw isInRun = .error failure) : failure.IsSyntactic := by
  unfold addCommand at refused
  split at refused
  case h_1 => exact nomatch refused
  case h_2 => exact ⟨_, closeOrFailure refused, rfl⟩
  case h_3 => exact ⟨_, closeOrFailure refused, rfl⟩
  case h_4 => exact nomatch refused
  case h_5 => exact nomatch refused

/-- The nesting refuses the syntax of a command, or the first command that cannot be decoded. -/
theorem stepsFailure {lexemes : List Lexeme} {nesting : Nesting} {failure : Failure}
    (refused : nesting.steps lexemes = .error failure) :
    failure.IsSyntactic ∨ failure.IsFirstFault (lexemes.filterMap Lexeme.command?) := by
  induction lexemes generalizing nesting with
  | nil => exact nomatch refused
  | cons lexeme rest inductionHypothesis =>
      cases lexeme with
      | markup content =>
          simpa [Lexeme.command?, List.filterMap_cons] using inductionHypothesis refused
      | command raw isInRun =>
          cases raw with
          | error fault =>
              obtain rfl := Except.error.inj refused
              exact .inr ⟨[], fault, _, rfl, rfl⟩
          | ok raw =>
              simp only [steps, step] at refused
              split at refused
              case h_1 next _ =>
                refine (inductionHypothesis refused).imp_right ?_
                rintro ⟨before, fault, after, commands, isFault⟩
                exact ⟨raw :: before, fault, after, by simp [Lexeme.command?, commands], isFault⟩
              case h_2 refusedOnce =>
                obtain rfl := Except.error.inj refused
                exact .inl (addCommandFailure refusedOnce)

end Nesting

theorem itemsOfFailure {markup : List Char} {failure : Failure}
    (refused : itemsOf markup = .error failure) :
    failure.IsSyntactic ∨
      failure.IsFirstFault ((Lexeme.ofMarkup markup).filterMap Lexeme.command?) := by
  unfold itemsOf at refused
  cases stepped : Nesting.start.steps (Lexeme.ofMarkup markup) with
  | error other =>
      rw [stepped] at refused
      obtain rfl := Except.error.inj refused
      exact Nesting.stepsFailure stepped
  | ok nesting =>
      rw [stepped] at refused
      obtain ⟨opened, items⟩ := nesting
      cases opened with
      | nil => exact nomatch refused
      | cons innermost outer =>
          obtain rfl := Except.error.inj refused
          exact .inl ⟨_, rfl, rfl⟩

/-! ### The markup that is kept -/

mutual

/-- This is the markup in an item, in the order of the source. -/
def Item.written : Item → List Char
  | .markup content => content
  | .insert .. => []
  | .execute _ => []
  | .loop _ _ body => writtenIn body
  | .choice _ body => writtenIn body

def writtenIn : List Item → List Char
  | [] => []
  | item :: rest => item.written ++ writtenIn rest

end

/-- This is what a cut leaves of the markup. -/
def Cut.remaining : Cut → List Char
  | kept content => content
  | command _ _ => []

theorem writtenInAppend (items more : List Item) :
    writtenIn (items ++ more) = writtenIn items ++ writtenIn more := by
  induction items with
  | nil => rfl
  | cons item rest inductionHypothesis => simp [writtenIn, inductionHypothesis]

theorem keptOfCut (cut : Cut) : cut.symbols.filterMap Symbol.kept? = cut.remaining := by
  cases cut <;>
    simp [Cut.symbols, Symbol.kept?, Cut.remaining, List.filterMap_map, Function.comp_def]

theorem keptOfMarkup (content : List Char) :
    (Lexeme.markup content).symbols.filterMap Symbol.kept? = content :=
  keptOfCut (.kept content)

theorem keptOfCommand (raw : Except Fault String) (isInRun : Bool) :
    (Lexeme.command raw isInRun).symbols.filterMap Symbol.kept? = [] := rfl

/-- A derivation keeps all markup in order. -/
theorem Derives.written {lexemes : List Lexeme} {items : List Item}
    (derives : Derives lexemes items) :
    writtenIn items = (lexemes.flatMap Lexeme.symbols).filterMap Symbol.kept? := by
  induction derives <;>
    simp_all [writtenInAppend, writtenIn, Item.written, keptOfMarkup, keptOfCommand]

end Letterpress.Report
