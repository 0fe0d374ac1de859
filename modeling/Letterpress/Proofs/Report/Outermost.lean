import Letterpress.Proofs.Part.Holding
import Letterpress.Proofs.Report.Parsing
import Letterpress.Proofs.Report.Running

/-!
This file follows the items of a report that stand in no block. They stay where they are while the rest
of the report is read, and the first of them that fails ends the rendering.
-/

namespace Letterpress.Report

open Rendering

/-! ### Reading -/

namespace Nesting

/-- These are the items outside of all blocks, in reverse. -/
def outermost (nesting : Nesting) : List Item :=
  (nesting.opened.getLast?.map OpenBlock.before).getD nesting.items

section

variable {nesting next : Nesting} {lexeme : Lexeme} {lexemes : List Lexeme}

theorem outermostAdd (nesting : Nesting) (item : Item) :
    nesting.outermost <:+ (nesting.add item).outermost := by
  unfold outermost add
  cases nesting.opened.getLast? with
  | none => exact List.suffix_cons item nesting.items
  | some block => exact List.suffix_refl _

theorem outermostOpen (nesting : Nesting) (block : BlockName) (code : String) :
    outermost ⟨⟨block, code, nesting.items⟩ :: nesting.opened, []⟩ = nesting.outermost := by
  unfold outermost
  cases nesting.opened with
  | nil => rfl
  | cons innermost outer =>
      rw [List.getLast?_cons_cons, List.getLast?_cons]
      rfl

theorem outermostClose {problem : Problem} {matches? : BlockName → Bool}
    (closed : closeOr problem (nesting.close? matches?) = .ok next) :
    nesting.outermost <:+ next.outermost := by
  have isClosed := someOfCloseOr closed
  unfold close? at isClosed
  split at isClosed
  case h_1 innermost outer isOpened =>
    split at isClosed
    case isTrue =>
      obtain rfl := Option.some.inj isClosed
      unfold outermost
      rw [isOpened]
      cases outer with
      | nil => exact List.suffix_cons ..
      | cons block blocks =>
          rw [List.getLast?_cons_cons]
          exact List.suffix_refl _
    case isFalse => exact nomatch isClosed
  case h_2 => exact nomatch isClosed

/-- One step adds to the items outside of all blocks at most. -/
theorem outermostStep (stepped : nesting.step lexeme = .ok next) :
    nesting.outermost <:+ next.outermost := by
  unfold step at stepped
  split at stepped
  case h_1 =>
    obtain rfl := Except.ok.inj stepped
    exact outermostAdd ..
  case h_2 =>
    unfold addCommand at stepped
    split at stepped
    case h_1 block code _ =>
      obtain rfl := Except.ok.inj stepped
      exact ⟨[], (outermostOpen ..).symm⟩
    case h_2 => exact outermostClose stepped
    case h_3 => exact outermostClose stepped
    case h_4 =>
      obtain rfl := Except.ok.inj stepped
      exact outermostAdd ..
    case h_5 =>
      obtain rfl := Except.ok.inj stepped
      exact outermostAdd ..
  case h_3 => exact nomatch stepped

theorem outermostSteps (stepped : nesting.steps lexemes = .ok next) :
    nesting.outermost <:+ next.outermost := by
  induction lexemes generalizing nesting with
  | nil =>
      obtain rfl := Except.ok.inj stepped
      exact List.suffix_refl _
  | cons lexeme rest inductionHypothesis =>
      unfold steps at stepped
      split at stepped
      case h_1 steppedOnce =>
        exact (outermostStep steppedOnce).trans (inductionHypothesis stepped)
      case h_2 => exact nomatch stepped

end

end Nesting

section

variable {markup : List Char} {items : List Item} {before after : List Lexeme} {lexeme : Lexeme}

/-- A report that is accepted is read through every one of its lexemes. -/
theorem readThrough (accepted : itemsOf markup = .ok items)
    (parts : Lexeme.ofMarkup markup = before ++ lexeme :: after) :
    ∃ reached next, Nesting.start.steps before = .ok reached ∧ reached.step lexeme = .ok next ∧
      next.outermost <:+ items.reverse := by
  obtain ⟨last, stepped, finished⟩ := bindOkIff.1 accepted
  rw [parts, Nesting.stepsAppend] at stepped
  obtain ⟨reached, steppedBefore, steppedRest⟩ := bindOkIff.1 stepped
  unfold Nesting.steps at steppedRest
  split at steppedRest
  case h_1 next steppedOnce =>
    refine ⟨reached, next, steppedBefore, steppedOnce, ?_⟩
    have isKept := Nesting.outermostSteps steppedRest
    unfold Nesting.finish at finished
    split at finished
    case h_1 isOpened =>
      obtain rfl := Except.ok.inj finished
      rwa [List.reverse_reverse, show last.items = last.outermost by simp [Nesting.outermost, isOpened]]
    case h_2 => exact nomatch finished
  case h_2 => exact nomatch steppedRest

end

/-! ### Rendering -/

section

variable {settings : Settings} {loopValues : Table Value} {failure : Failure} {code : String}

/-- An item that cannot be rendered ends the rendering, unless one before it has ended it. -/
theorem endsAtItem {item : Item}
    (fails : ∀ session, ∃ after,
      (renderItem settings loopValues item).outcome session = (.error failure, after))
    (earlier later : List Item) (session : Session) :
    ∃ found after,
      (renderItems settings loopValues (earlier ++ item :: later)).outcome session =
          (.error found, after) ∧
        (found = failure ∨
          (renderItems settings loopValues earlier).outcome session = (.error found, after)) := by
  induction earlier generalizing session with
  | nil =>
      obtain ⟨after, itemFails⟩ := fails session
      exact ⟨failure, after, bindFailureIff.2 (.inl itemFails), .inl rfl⟩
  | cons first rest inductionHypothesis =>
      rcases rendered : (renderItem settings loopValues first).outcome session with ⟨result, middle⟩
      cases result with
      | error found =>
          exact ⟨found, middle, bindFailureIff.2 (.inl rendered), .inr (bindFailureIff.2 (.inl rendered))⟩
      | ok text =>
          obtain ⟨found, after, restFails, isFound⟩ := inductionHypothesis middle
          refine ⟨found, after, bindFailureIff.2 (.inr ⟨_, _, rendered, ?_⟩), isFound.imp_right ?_⟩
          · exact bindFailureIff.2 (.inl restFails)
          · exact fun earlierFails =>
              bindFailureIff.2 (.inr ⟨_, _, rendered, bindFailureIff.2 (.inl earlierFails)⟩)

/-- The code of an insertion is read before it runs. -/
theorem unreadableFails {problem : Script.Problem}
    (refused : Script.parse code = .error (.problem problem)) (isInRun : Bool) (session : Session) :
    ∃ after, (renderItem settings loopValues (.insert code isInRun)).outcome session =
      (.error (.problem (.script problem)), after) := by
  have ran : (Script.runProtected settings.host settings.helpers settings.isOpen code
      (machineOf session loopValues)).1 = .error (.problem problem) := by
    rw [Script.runProtected, Script.runSource, Script.outcomeBind, refused]
    rfl
  have runFails : ∃ after, (run settings code loopValues).outcome session =
      (.error (.problem (.script problem)), after) := by
    rw [runOutcome]
    rcases ended : Script.runProtected settings.host settings.helpers settings.isOpen code
      (machineOf session loopValues) with ⟨result, after⟩
    rw [ended] at ran
    obtain rfl := ran
    exact ⟨_, rfl⟩
  exact runFails.imp fun _ fails => bindFailureIff.2 (.inl fails)

end

/-! ### Parts -/

section

variable {settings : Settings} {session after : Session} {name text : String} {bytes : ByteArray}
  {items : List Item} {failure : Failure}

theorem bracesOfCommand {front inside back : List Char} (bare : Part.NoBrace inside) :
    holdsBraces (front ++ '\x7b' :: (inside ++ '\x7d' :: back)) = true := by
  have closes (front back : List Char) :
      closesBrace (front ++ '\x7b' :: '\x7d' :: back) = true := by
    induction front with
    | nil => rfl
    | cons first rest inductionHypothesis =>
        cases rest with
        | nil => exact Bool.or_eq_true_iff.2 (.inr inductionHypothesis)
        | cons second others => exact Bool.or_eq_true_iff.2 (.inr inductionHypothesis)
  have filtered : (front ++ '\x7b' :: (inside ++ '\x7d' :: back)).filter Part.isBrace =
      front.filter Part.isBrace ++ '\x7b' :: '\x7d' :: back.filter Part.isBrace := by
    simp [List.filter_append, Part.bracesOfBare bare, Part.isBrace]
  rw [holdsBraces, filtered]
  exact closes _ _

theorem partIsRefused (decoded : String.fromUTF8? bytes = some text)
    (hasBraces : holdsBraces text.toList = true)
    (refused : (preparePart text).bind itemsOf = .error failure) :
    (renderPart settings name bytes).outcome session = (.error failure, session) := by
  simp only [renderPart, decoded, hasBraces, refused]
  rfl

/-- A part fails with its items, if one of them is a command. -/
theorem partFailsWithItems (decoded : String.fromUTF8? bytes = some text)
    (hasBraces : holdsBraces text.toList = true)
    (accepted : (preparePart text).bind itemsOf = .ok items)
    (hasCommand : items.all Item.isMarkup = false)
    (fails : (renderItems settings .empty items).outcome session = (.error failure, after)) :
    (renderPart settings name bytes).outcome session = (.error failure, after) := by
  simp only [renderPart, decoded, hasBraces, accepted]
  refine bindFailureIff.2 (.inr ⟨items, session, rfl, ?_⟩)
  rw [if_neg (by simp [hasCommand])]
  exact bindFailureIff.2 (.inl fails)

end

end Letterpress.Report
