import Letterpress.Bracket.Path
import Letterpress.Proofs.Bracket.Alias
import Letterpress.Proofs.Text.Letter
import Letterpress.Proofs.Text.Quoting
import Letterpress.Proofs.Text.Splitting

/-!
This file shows that an expression inherits properties of the body that it is written from. A property
is inherited if it passes to the parts that the body is cut into and to the texts that the expression
is put together from.
-/

namespace Letterpress.Bracket

/-- These characters stand in commands besides those of the body. -/
def isFiller (character : Char) : Bool :=
  Text.isAsciiWord character || character = ' ' || character = '$' || character = '.' ||
    character = '-'

/-- What is given of a body carries over to what is written from it. -/
structure CarriesOver (given written : List Char → Prop) : Prop where
  parts : ∀ {front back : List Char} {character : Char},
    Text.isBlank character = true ∨ character = '.' → given (front ++ character :: back) →
      given front ∧ given back
  kept : ∀ {text : List Char}, given text → written text
  empty : written []
  append : ∀ {first second : List Char}, written first → written second → written (first ++ second)
  filler : ∀ {character : Char}, isFiller character = true → written [character]
  quoted : ∀ {text : List Char}, given text → written ('[' :: (Text.quoteList text ++ [']']))

/-- Characters of a class stay in it, if commands hold only characters of the class besides. -/
theorem classCarries {isAdmitted : Char → Prop}
    (filler : ∀ character, isFiller character = true → isAdmitted character)
    (escape : ∀ character, Text.isEscape character = true → isAdmitted character)
    (opening : isAdmitted '[') (closing : isAdmitted ']') :
    CarriesOver (fun text => ∀ character ∈ text, isAdmitted character)
      (fun text => ∀ character ∈ text, isAdmitted character) where
  parts _ isGiven := by
    obtain ⟨inFront, inRest⟩ := List.forall_mem_append.1 isGiven
    exact ⟨inFront, (List.forall_mem_cons.1 inRest).2⟩
  kept isGiven := isGiven
  empty := nofun
  append isFirst isSecond := List.forall_mem_append.2 ⟨isFirst, isSecond⟩
  filler isFill := List.forall_mem_singleton.2 (filler _ isFill)
  quoted := by
    intro text isGiven
    have quote : isAdmitted '"' := escape _ (by decide)
    have quotedGiven : ∀ written ∈ text.flatMap Text.quoteCharacter, isAdmitted written := by
      intro written isWritten
      rcases Text.quotedFrom isWritten with isInside | isEscape
      · exact isGiven written isInside
      · exact escape written isEscape
    simp only [Text.quoteList, List.forall_mem_cons, List.forall_mem_append, List.not_mem_nil,
      false_implies, implies_true, and_true]
    exact ⟨opening, ⟨quote, quotedGiven, quote⟩, closing⟩

namespace CarriesOver

variable {given written : List Char → Prop} (carries : CarriesOver given written)

include carries

theorem strip {text : List Char} (isGiven : given text) : given (Text.stripList text) := by
  obtain ⟨front, back, whole, blankFront, blankBack⟩ := Text.stripListSource text
  generalize Text.stripList text = stripped at whole ⊢
  subst whole
  have withoutFront : given (stripped ++ back) := by
    cases atEnd : front.getLast? with
    | none =>
        obtain rfl := List.getLast?_eq_none_iff.1 atEnd
        exact isGiven
    | some last =>
        obtain ⟨others, rfl⟩ := List.getLast?_eq_some_iff.1 atEnd
        rw [List.append_assoc] at isGiven
        exact (carries.parts (.inl (blankFront last (by simp))) isGiven).2
  cases back with
  | nil => simpa using withoutFront
  | cons blank others => exact (carries.parts (.inl (blankBack blank (by simp))) withoutFront).1

theorem segments {text : List Char} (isGiven : given text) :
    ∀ segment ∈ Text.splitWhere (· = '.') text, given segment := by
  obtain ⟨first, pieces, splits, whole, -, -⟩ := Text.splitWhereSource '.' text
  rw [splits]
  clear splits
  induction pieces generalizing text first with
  | nil =>
      rw [List.flatMap_nil, List.append_nil] at whole
      exact List.forall_mem_singleton.2 (whole ▸ isGiven)
  | cons second pieces inductionHypothesis =>
      rw [whole, List.flatMap_cons, List.cons_append] at isGiven
      obtain ⟨givenFirst, givenRest⟩ := carries.parts (.inr rfl) isGiven
      exact List.forall_mem_cons.2 ⟨givenFirst, inductionHypothesis givenRest second rfl⟩

theorem fillers {text : List Char} (areFillers : text.all isFiller = true) : written text := by
  induction text with
  | nil => exact carries.empty
  | cons character rest inductionHypothesis =>
      obtain ⟨isFirst, areRest⟩ := Bool.and_eq_true_iff.1 areFillers
      exact carries.append (carries.filler isFirst) (inductionHypothesis areRest)

theorem name {itemName : String} (isName : IsName itemName) : written itemName.toList := by
  refine carries.fillers (List.all_eq_true.2 fun character isInside => ?_)
  simp [isFiller, isName.2 character isInside]

theorem quotedText {text : String} (isGiven : given text.toList) :
    written ("[" ++ Text.quote text ++ "]").toList := by
  simpa [Text.quote] using carries.quoted isGiven

theorem segmentAccess {segment : List Char} (isGiven : given segment) :
    written (segmentAccess (String.ofList segment)).toList := by
  unfold Bracket.segmentAccess
  split
  case isTrue =>
    rw [String.toList_append]
    exact carries.append (carries.fillers (by decide)) (by simpa using carries.kept isGiven)
  case isFalse => exact carries.quotedText (by rwa [String.toList_ofList])

theorem path {segments : List (List Char)} {expression path : String}
    (areGiven : ∀ segment ∈ segments, given segment) (isWritten : written expression.toList)
    (found : pathFrom expression segments = some path) : written path.toList := by
  induction segments generalizing expression with
  | nil => exact Option.some.inj found ▸ isWritten
  | cons segment rest inductionHypothesis =>
      obtain ⟨givenFirst, givenRest⟩ := List.forall_mem_cons.1 areGiven
      simp only [pathFrom] at found
      split at found
      case isTrue => cases found
      case isFalse =>
        refine inductionHypothesis givenRest ?_ found
        rw [String.toList_append]
        exact carries.append isWritten (carries.segmentAccess (carries.strip givenFirst))

theorem wholeField {body : String} (isGiven : given body.toList) :
    written (wholeField body).toList := by
  have whole : (Bracket.wholeField body).toList =
      "this".toList ++ ("[" ++ Text.quote body ++ "]").toList := by
    simp [Bracket.wholeField]
  rw [whole]
  exact carries.append (carries.fillers (by decide)) (carries.quotedText isGiven)

theorem rootExpression {body : String} (isGiven : given body.toList) :
    written (toRootExpression body).toList := by
  have isWhole := carries.wholeField isGiven
  unfold toRootExpression
  split
  case isTrue => exact carries.kept isGiven
  case isFalse =>
    split
    case h_1 head second rest segments =>
      split
      case isFalse => exact isWhole
      case isTrue =>
        have areGiven := carries.segments isGiven
        rw [segments] at areGiven
        obtain ⟨givenHead, givenRest⟩ := List.forall_mem_cons.1 areGiven
        cases found : pathFrom (String.ofList head) (second :: rest) with
        | none => exact isWhole
        | some path =>
            exact carries.path givenRest (by simpa using carries.kept givenHead) found
    case h_2 =>
      split
      case isTrue => exact carries.kept isGiven
      case isFalse => exact isWhole

theorem accessFromAlias {itemName body : String} (isName : IsName itemName)
    (isGiven : given body.toList) : written (accessFromAlias itemName body).toList := by
  rw [Bracket.accessFromAlias, String.toList_append, String.toList_append]
  refine carries.append (carries.append (carries.fillers (by decide)) (carries.name isName)) ?_
  split
  case isTrue =>
    rw [String.toList_append]
    exact carries.append (carries.fillers (by decide)) (carries.kept isGiven)
  case isFalse => exact carries.quotedText isGiven

end CarriesOver

end Letterpress.Bracket
