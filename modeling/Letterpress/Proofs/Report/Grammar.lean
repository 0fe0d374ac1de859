import Letterpress.Proofs.Report.Cutting
import Letterpress.Report.Item

/-!
This file gives the grammar of reports and shows that the nesting of commands follows it. The
nesting accepts what the grammar derives and builds the tree of the derivation.
-/

namespace Letterpress.Report

/-- A derivation is extended at its end by markup, by a command or by a whole block. -/
inductive Derives : List Lexeme → List Item → Prop
  | empty : Derives [] []
  | markup {lexemes : List Lexeme} {items : List Item} (derives : Derives lexemes items)
      (content : List Char) :
      Derives (lexemes ++ [.markup content]) (items ++ [.markup content])
  | insert {lexemes : List Lexeme} {items : List Item} {raw code : String}
      (derives : Derives lexemes items) (kind : Command.ofText raw = .insert code)
      (isInRun : Bool) :
      Derives (lexemes ++ [.command (.ok raw) isInRun]) (items ++ [.insert code isInRun])
  | execute {lexemes : List Lexeme} {items : List Item} {raw code : String}
      (derives : Derives lexemes items) (kind : Command.ofText raw = .execute code)
      (isInRun : Bool) :
      Derives (lexemes ++ [.command (.ok raw) isInRun]) (items ++ [.execute code])
  | loop {lexemes inside : List Lexeme} {items body : List Item}
      {opening itemName code closing closedName : String} (derives : Derives lexemes items)
      (opens : Command.ofText opening = .openBlock (.loop itemName) code)
      (derivesInside : Derives inside body)
      (closes : Command.ofText closing = .closeLoop closedName)
      (fits : closedName = "" ∨ closedName = itemName) (isOpeningInRun isClosingInRun : Bool) :
      Derives
        (lexemes ++ .command (.ok opening) isOpeningInRun ::
          (inside ++ [.command (.ok closing) isClosingInRun]))
        (items ++ [.loop itemName code body])
  | choice {lexemes inside : List Lexeme} {items body : List Item} {opening code closing : String}
      (derives : Derives lexemes items)
      (opens : Command.ofText opening = .openBlock .choice code)
      (derivesInside : Derives inside body) (closes : Command.ofText closing = .closeChoice)
      (isOpeningInRun isClosingInRun : Bool) :
      Derives
        (lexemes ++ .command (.ok opening) isOpeningInRun ::
          (inside ++ [.command (.ok closing) isClosingInRun]))
        (items ++ [.choice code body])

/-! ### The nesting accepts what is derived -/

namespace Nesting

theorem stepsAppend (nesting : Nesting) (lexemes more : List Lexeme) :
    nesting.steps (lexemes ++ more) = (nesting.steps lexemes).bind (·.steps more) := by
  induction lexemes generalizing nesting with
  | nil => rfl
  | cons lexeme rest inductionHypothesis =>
      simp only [List.cons_append, steps]
      cases nesting.step lexeme with
      | ok next => exact inductionHypothesis next
      | error failure => rfl

theorem stepsCons {nesting next : Nesting} {lexeme : Lexeme} (stepped : nesting.step lexeme = .ok next)
    (rest : List Lexeme) : nesting.steps (lexeme :: rest) = next.steps rest := by
  rw [steps, stepped]

theorem stepsSingle (nesting : Nesting) (lexeme : Lexeme) :
    nesting.steps [lexeme] = nesting.step lexeme := by
  simp only [steps]
  cases nesting.step lexeme <;> rfl

theorem stepOpening {raw code : String} {block : BlockName} (nesting : Nesting)
    (opens : Command.ofText raw = .openBlock block code) (isInRun : Bool) :
    nesting.step (.command (.ok raw) isInRun) =
      .ok ⟨⟨block, code, nesting.items⟩ :: nesting.opened, []⟩ := by
  simp only [step, addCommand, opens]

theorem isLoopIff {closedName itemName : String} :
    isLoop closedName (.loop itemName) = true ↔ closedName = "" ∨ closedName = itemName := by
  simp [isLoop]

/-- A block is read from any nesting as its parts are. -/
theorem stepsBlock {nesting before : Nesting} {lexemes inside : List Lexeme} {opening : Lexeme}
    {closing : Lexeme} {opened : OpenBlock} {closed : Nesting} (body : List Item)
    (stepsBefore : nesting.steps lexemes = .ok before)
    (opens : before.step opening = .ok ⟨opened :: before.opened, []⟩)
    (stepsInside : steps ⟨opened :: before.opened, []⟩ inside =
      .ok ⟨opened :: before.opened, body.reverse⟩)
    (closes : step ⟨opened :: before.opened, body.reverse⟩ closing = .ok closed) :
    nesting.steps (lexemes ++ opening :: (inside ++ [closing])) = .ok closed := by
  rw [stepsAppend, stepsBefore]
  refine (stepsCons opens _).trans ?_
  rw [stepsAppend, stepsInside]
  exact (stepsSingle _ closing).trans closes

/-- The nesting reads a derivation wherever it stands, and it adds the derived items. -/
theorem stepsOfDerives {lexemes : List Lexeme} {items : List Item}
    (derives : Derives lexemes items) (nesting : Nesting) :
    nesting.steps lexemes = .ok ⟨nesting.opened, items.reverse ++ nesting.items⟩ := by
  induction derives generalizing nesting with
  | empty => rfl
  | markup _ content inductionHypothesis =>
      rw [stepsAppend, inductionHypothesis]
      simp [Except.bind, stepsSingle, step, add]
  | insert _ kind isInRun inductionHypothesis =>
      rw [stepsAppend, inductionHypothesis]
      simp [Except.bind, stepsSingle, step, addCommand, kind, add]
  | execute _ kind isInRun inductionHypothesis =>
      rw [stepsAppend, inductionHypothesis]
      simp [Except.bind, stepsSingle, step, addCommand, kind, add]
  | @loop _ _ items body _ itemName code _ closedName _ opens _ closes fits isOpeningInRun
      isClosingInRun hypothesis hypothesisInside =>
      refine stepsBlock body (hypothesis nesting) (stepOpening _ opens isOpeningInRun)
        ((hypothesisInside _).trans (by simp)) ?_
      simp [step, addCommand, closes, closeOr, close?, isLoopIff.2 fits, OpenBlock.close]
  | @choice _ _ items body _ code _ _ opens _ closes isOpeningInRun isClosingInRun hypothesis
      hypothesisInside =>
      refine stepsBlock body (hypothesis nesting) (stepOpening _ opens isOpeningInRun)
        ((hypothesisInside _).trans (by simp)) ?_
      simp [step, addCommand, closes, closeOr, close?, isChoice, OpenBlock.close]

/-! ### The nesting derives what it accepts -/

/-- A nesting has read lexemes if they are a derivation for each open block and a derivation of the
items in the innermost one. -/
inductive HasRead : List Lexeme → Nesting → Prop
  | outside {lexemes : List Lexeme} {items : List Item} (derives : Derives lexemes items) :
      HasRead lexemes ⟨[], items.reverse⟩
  | inside {lexemes inner : List Lexeme} {outer : Nesting} {block : BlockName}
      {raw code : String} {items : List Item} (hasReadOuter : HasRead lexemes outer)
      (opens : Command.ofText raw = .openBlock block code) (derives : Derives inner items)
      (isInRun : Bool) :
      HasRead (lexemes ++ .command (.ok raw) isInRun :: inner)
        ⟨⟨block, code, outer.items⟩ :: outer.opened, items.reverse⟩

theorem someOfCloseOr {problem : Problem} {closed : Option Nesting} {next : Nesting}
    (succeeds : closeOr problem closed = .ok next) : closed = some next := by
  cases closed with
  | none => exact nomatch succeeds
  | some nesting => exact congrArg some (Except.ok.inj succeeds)

namespace HasRead

variable {lexemes : List Lexeme} {nesting next : Nesting}

/-- What is added to every derivation is added to the innermost one. -/
theorem grow {more : List Lexeme} {item : Item} (hasRead : HasRead lexemes nesting)
    (grows : ∀ {before : List Lexeme} {items : List Item}, Derives before items →
      Derives (before ++ more) (items ++ [item])) :
    HasRead (lexemes ++ more) (nesting.add item) := by
  cases hasRead with
  | outside derives =>
      simpa [add] using HasRead.outside (grows derives)
  | inside hasReadOuter opens derives isInRun =>
      simpa [add] using HasRead.inside hasReadOuter opens (grows derives) isInRun

/-- A nesting that closes a block has read the block and what stands before it. -/
theorem closed {matches? : BlockName → Bool} (hasRead : HasRead lexemes nesting)
    (closes : nesting.close? matches? = some next) :
    ∃ before outer raw isInRun block code inside body,
      lexemes = before ++ .command (.ok raw) isInRun :: inside ∧ HasRead before outer ∧
        Command.ofText raw = .openBlock block code ∧ matches? block = true ∧
        Derives inside body ∧ next = outer.add (OpenBlock.close ⟨block, code, outer.items⟩ body) := by
  cases hasRead with
  | outside derives => exact nomatch closes
  | inside hasReadOuter opens derives isInRun =>
      simp only [close?] at closes
      split at closes
      case isTrue fits =>
        obtain rfl := Option.some.inj closes
        exact ⟨_, _, _, isInRun, _, _, _, _, rfl, hasReadOuter, opens, fits, derives, by simp [add]⟩
      case isFalse => exact nomatch closes

theorem closeLoop {raw closedName : String} {isInRun : Bool} (hasRead : HasRead lexemes nesting)
    (kind : Command.ofText raw = .closeLoop closedName)
    (closes : nesting.close? (isLoop closedName) = some next) :
    HasRead (lexemes ++ [.command (.ok raw) isInRun]) next := by
  obtain ⟨before, outer, opening, isOpeningInRun, block, code, inside, body, rfl, hasReadOuter,
    opens, isLoop, derives, rfl⟩ := hasRead.closed closes
  cases block with
  | loop itemName =>
      rw [List.append_assoc]
      exact hasReadOuter.grow fun derivesBefore =>
        .loop derivesBefore opens derives kind (isLoopIff.1 isLoop) isOpeningInRun isInRun
  | choice => exact nomatch isLoop

theorem closeChoice {raw : String} {isInRun : Bool} (hasRead : HasRead lexemes nesting)
    (kind : Command.ofText raw = .closeChoice) (closes : nesting.close? isChoice = some next) :
    HasRead (lexemes ++ [.command (.ok raw) isInRun]) next := by
  obtain ⟨before, outer, opening, isOpeningInRun, block, code, inside, body, rfl, hasReadOuter,
    opens, isChoice, derives, rfl⟩ := hasRead.closed closes
  cases block with
  | loop itemName => exact nomatch isChoice
  | choice =>
      rw [List.append_assoc]
      exact hasReadOuter.grow fun derivesBefore =>
        .choice derivesBefore opens derives kind isOpeningInRun isInRun

/-- One command keeps to the grammar. -/
theorem addCommand {raw : String} {isInRun : Bool} (hasRead : HasRead lexemes nesting)
    (added : nesting.addCommand raw isInRun = .ok next) :
    HasRead (lexemes ++ [.command (.ok raw) isInRun]) next := by
  unfold Nesting.addCommand at added
  split at added
  case h_1 block code opens =>
    obtain rfl := Except.ok.inj added
    exact .inside hasRead opens .empty isInRun
  case h_2 closedName kind =>
    exact hasRead.closeLoop kind (someOfCloseOr added)
  case h_3 kind =>
    exact hasRead.closeChoice kind (someOfCloseOr added)
  case h_4 code kind =>
    obtain rfl := Except.ok.inj added
    exact hasRead.grow fun derives => derives.execute kind isInRun
  case h_5 code kind =>
    obtain rfl := Except.ok.inj added
    exact hasRead.grow fun derives => derives.insert kind isInRun

/-- One step keeps to the grammar. -/
theorem step {lexeme : Lexeme} (hasRead : HasRead lexemes nesting)
    (stepped : nesting.step lexeme = .ok next) : HasRead (lexemes ++ [lexeme]) next := by
  unfold Nesting.step at stepped
  split at stepped
  case h_1 content =>
    obtain rfl := Except.ok.inj stepped
    exact hasRead.grow fun derives => derives.markup content
  case h_2 raw isInRun => exact hasRead.addCommand stepped
  case h_3 => exact nomatch stepped

theorem steps {more : List Lexeme} (hasRead : HasRead lexemes nesting)
    (stepped : nesting.steps more = .ok next) : HasRead (lexemes ++ more) next := by
  induction more generalizing lexemes nesting with
  | nil =>
      obtain rfl := Except.ok.inj stepped
      simpa using hasRead
  | cons lexeme rest inductionHypothesis =>
      simp only [Nesting.steps] at stepped
      split at stepped
      case h_1 after steppedOnce =>
        simpa using inductionHypothesis (hasRead.step steppedOnce) stepped
      case h_2 => exact nomatch stepped

theorem finish {items : List Item} (hasRead : HasRead lexemes nesting)
    (finished : nesting.finish = .ok items) : Derives lexemes items := by
  cases hasRead with
  | outside derives =>
      obtain rfl := Except.ok.inj finished
      simpa using derives
  | inside hasReadOuter opens derives isInRun => exact nomatch finished

end HasRead

end Nesting

end Letterpress.Report
