import Letterpress.Markup.Writing
import Letterpress.Proofs.Markup.Document
import Letterpress.Proofs.Markup.Event
import Letterpress.Proofs.Markup.Outline

/-!
This file describes how a text leads from one outline to another. Texts are put together and taken
apart where they meet, and a text that leads to a complete outline is read as a document.
-/

namespace Letterpress.Markup

/-- A plain character stands for itself. The character that closes tags is left to references, so
that nothing in a row of plain texts looks like the end of verbatim data. -/
def IsPlain (character : Char) : Prop :=
  isLegal character = true ∧ character ≠ '<' ∧ character ≠ '>' ∧ character ≠ '&'

/-- A text passes from an outline to another one, by characters and references inside of elements
and by markup. -/
inductive Passes : Outline → List Char → Outline → Prop
  | done {outline : Outline} : Passes outline [] outline
  | plain {outline after : Outline} {character : Char} {rest : List Char}
      (inside : outline.opened ≠ []) (isPlain : IsPlain character)
      (passes : Passes outline rest after) : Passes outline (character :: rest) after
  | reference {outline after : Outline} {name rest : List Char} {character : Char}
      (inside : outline.opened ≠ []) (refers : referenced? name = some character)
      (passes : Passes outline rest after) : Passes outline ('&' :: (name ++ ';' :: rest)) after
  | markup {outline next after : Outline} {event : Event} {source rest : List Char}
      (isSource : event.IsSource source) (noReturn : '\r' ∉ source)
      (stepped : outline.step? event = some next) (passes : Passes next rest after) :
      Passes outline ('<' :: (source ++ rest)) after

/-- A document has its declaration before the text that leads to an outline. -/
def Reaches (text : List Char) (outline : Outline) : Prop :=
  ∃ body, text = documentHeader ++ body ∧ Passes .start body outline

/-! ### Texts that meet -/

section

variable {outline middle after : Outline} {front more : List Char}

def referencePattern : Text.Delimited := ⟨'&', ';', (· ≠ ';'), rfl⟩

theorem referenceBegins {name : List Char} {character : Char}
    (refers : referenced? name = some character) (rest : List Char) :
    referencePattern.Begins ('&' :: (name ++ ';' :: rest)) name rest :=
  ⟨fun _ isInside => decide_eq_true fun same => (referencedNoDelimiter refers).2 (same ▸ isInside),
    by simp [Text.Delimited.wrap, referencePattern]⟩

namespace Passes

theorem append (passes : Passes outline front middle) (passesMore : Passes middle more after) :
    Passes outline (front ++ more) after := by
  induction passes with
  | done => exact passesMore
  | plain inside isPlain _ inductionHypothesis =>
      exact .plain inside isPlain (inductionHypothesis passesMore)
  | reference inside refers _ inductionHypothesis =>
      rw [List.cons_append, List.append_assoc, List.cons_append]
      exact .reference inside refers (inductionHypothesis passesMore)
  | markup isSource noReturn stepped _ inductionHypothesis =>
      rw [List.cons_append, List.append_assoc]
      exact .markup isSource noReturn stepped (inductionHypothesis passesMore)

/-- Texts that lead back to an outline do so in a row. -/
theorem flatMap {Item : Type} {write : Item → List Char} {items : List Item}
    (each : ∀ item ∈ items, Passes outline (write item) outline) :
    Passes outline (items.flatMap write) outline := by
  induction items with
  | nil => exact .done
  | cons item rest inductionHypothesis =>
      obtain ⟨passesFirst, passesRest⟩ := List.forall_mem_cons.1 each
      rw [List.flatMap_cons]
      exact passesFirst.append (inductionHypothesis passesRest)

/-- A text begins in one way only, so that it can be taken off the front. -/
theorem afterFront (passes : Passes outline front middle)
    (whole : Passes outline (front ++ more) after) : Passes middle more after := by
  induction passes with
  | done => exact whole
  | plain inside isPlain _ inductionHypothesis =>
      rw [List.cons_append] at whole
      generalize same : _ :: _ = text at whole
      obtain ⟨-, notTag, -, notReference⟩ := isPlain
      cases whole with
      | done => exact nomatch same
      | plain _ _ wholeRest =>
          obtain ⟨-, rfl⟩ := List.cons.inj same
          exact inductionHypothesis wholeRest
      | reference => exact absurd (List.cons.inj same).1 notReference
      | markup => exact absurd (List.cons.inj same).1 notTag
  | reference inside refers _ inductionHypothesis =>
      rw [List.cons_append, List.append_assoc, List.cons_append] at whole
      generalize same : _ :: _ = text at whole
      cases whole with
      | done => exact nomatch same
      | plain _ isPlain => exact absurd (List.cons.inj same).1.symm isPlain.2.2.2
      | reference _ otherRefers wholeRest =>
          obtain ⟨-, rfl⟩ := (referenceBegins refers _).unique (same ▸ referenceBegins otherRefers _)
          exact inductionHypothesis wholeRest
      | markup => exact absurd (List.cons.inj same).1 (by decide)
  | markup isSource noReturn stepped _ inductionHypothesis =>
      rw [List.cons_append, List.append_assoc] at whole
      generalize same : _ :: _ = text at whole
      cases whole with
      | done => exact nomatch same
      | plain _ isPlain => exact absurd (List.cons.inj same).1.symm isPlain.2.1
      | reference => exact absurd (List.cons.inj same).1 (by decide)
      | markup otherIsSource _ otherStepped wholeRest =>
          have found := eventOfSource isSource
          have otherFound := eventOfSource otherIsSource
          obtain ⟨rfl, rfl⟩ := Prod.mk.inj (Option.some.inj
            ((found _).symm.trans ((congrArg Event.read? same).trans (otherFound _))))
          obtain rfl := Option.some.inj (stepped.symm.trans otherStepped)
          exact inductionHypothesis wholeRest

/-- Character data up to a character outside of references is taken off the front. -/
theorem afterData {delimiter : Char} (notTag : delimiter ≠ '<')
    (outside : isInReference delimiter = false) (noTag : '<' ∉ front)
    (passes : Passes outline (front ++ delimiter :: more) after) : Passes outline more after := by
  generalize same : front ++ delimiter :: more = text at passes
  induction passes generalizing front with
  | done => simp at same
  | plain _ _ passesRest inductionHypothesis =>
      cases front with
      | nil =>
          obtain ⟨-, rfl⟩ := List.cons.inj same
          exact passesRest
      | cons first others =>
          exact inductionHypothesis (fun isInside => noTag (List.mem_cons_of_mem _ isInside))
            (List.cons.inj same).2
  | @reference _ _ name rest _ _ refers _ inductionHypothesis =>
      have notInside : delimiter ∉ '&' :: (name ++ [';']) := by
        have notInName : delimiter ∉ name := fun isInside => by
          simp [IsDecodable.lettersInReference refers _ isInside] at outside
        simp only [isInReference, Bool.or_eq_false_iff, decide_eq_false_iff_not] at outside
        simp [notInName, outside.1.2, outside.2]
      have sameReference : '&' :: (name ++ [';']) ++ rest = front ++ delimiter :: more := by
        simpa using same.symm
      obtain ⟨remaining, rfl, atDelimiter⟩ := Text.afterBeginning notInside sameReference
      exact inductionHypothesis (fun isInside => noTag (by simp [isInside])) atDelimiter.symm
  | markup =>
      cases front with
      | nil => exact absurd (List.cons.inj same).1 notTag
      | cons first others => exact absurd (by simp [(List.cons.inj same).1]) noTag

end Passes

/-- All elements that a text leaves open have names that are resolved. -/
theorem Passes.resolves (passes : Passes outline front after) (resolves : outline.Resolves) :
    after.Resolves := by
  induction passes with
  | done => exact resolves
  | plain _ _ _ inductionHypothesis => exact inductionHypothesis resolves
  | reference _ _ _ inductionHypothesis => exact inductionHypothesis resolves
  | markup _ _ stepped _ inductionHypothesis =>
      exact inductionHypothesis (resolvesStep resolves stepped)

theorem Reaches.resolves (reaches : Reaches front middle) : middle.Resolves := by
  obtain ⟨body, rfl, passesBody⟩ := reaches
  exact passesBody.resolves nofun

theorem Reaches.append (reaches : Reaches front middle) (passes : Passes middle more after) :
    Reaches (front ++ more) after := by
  obtain ⟨body, rfl, passesBody⟩ := reaches
  exact ⟨body ++ more, List.append_assoc .., passesBody.append passes⟩

theorem Reaches.afterFront (reaches : Reaches front middle)
    (whole : Reaches (front ++ more) after) : Passes middle more after := by
  obtain ⟨body, rfl, passesBody⟩ := reaches
  obtain ⟨wholeBody, same, passesWhole⟩ := whole
  rw [List.append_assoc] at same
  obtain rfl := List.append_cancel_left same
  exact passesBody.afterFront passesWhole

end

/-! ### Reading -/

section

variable {outline after : Outline} {data text : List Char}

/-- Character data that is not read yet. Only blanks stand outside of the root. -/
structure Outline.Holds (outline : Outline) (data : List Char) : Prop where
  noTag : '<' ∉ data
  noClosing : '>' ∉ data
  legal : AllLegal data
  decodable : IsDecodable data
  spaces : outline.opened = [] → AllSpaces data

namespace Outline.Holds

theorem nil : outline.Holds [] where
  noTag := List.not_mem_nil
  noClosing := List.not_mem_nil
  legal := nofun
  decodable := .ofPlain List.not_mem_nil
  spaces := nofun

theorem append {data more : List Char} (holds : outline.Holds data)
    (holdsMore : outline.Holds more) : outline.Holds (data ++ more) where
  noTag := by simp [holds.noTag, holdsMore.noTag]
  noClosing := by simp [holds.noClosing, holdsMore.noClosing]
  legal := List.forall_mem_append.2 ⟨holds.legal, holdsMore.legal⟩
  decodable := holds.decodable.append holdsMore.decodable
  spaces := fun outside => List.forall_mem_append.2 ⟨holds.spaces outside, holdsMore.spaces outside⟩

theorem ofPlain {character : Char} (inside : outline.opened ≠ []) (isPlain : IsPlain character) :
    outline.Holds [character] := by
  obtain ⟨legal, notTag, notClosing, notReference⟩ := isPlain
  exact {
    noTag := by simpa using Ne.symm notTag
    noClosing := by simpa using Ne.symm notClosing
    legal := List.forall_mem_singleton.2 legal
    decodable := .ofPlain (by simpa using Ne.symm notReference)
    spaces := fun outside => absurd outside inside }

/-- A line end of any kind is a plain character or none. -/
theorem ofNormalized {character : Char} (inside : outline.opened ≠ []) (isPlain : IsPlain character)
    (next : Option Char) : outline.Holds (normalizeLine character next) := by
  unfold normalizeLine
  split
  · split
    · exact nil
    · exact ofPlain inside ⟨by decide, by decide, by decide, by decide⟩
  · exact ofPlain inside isPlain

end Outline.Holds

/-- The letters of references are legal, and none of them delimits markup or ends a line. -/
theorem letterPlain {character : Char} (isLetter : isReferenceLetter character = true) :
    IsPlain character ∧ character ≠ '\r' := by
  have letter : character.isAlphanum = true ∨ character = '#' := by
    simpa [isReferenceLetter] using isLetter
  have differs {other : Char} (notLetter : isReferenceLetter other = false) : character ≠ other := by
    rintro rfl
    simp [isLetter] at notLetter
  refine ⟨⟨?_, differs (by decide), differs (by decide), differs (by decide)⟩, differs (by decide)⟩
  obtain isAlphanum | rfl := letter
  · have bounds := Text.isAlphanumIff.1 isAlphanum
    simp only [isLegal, Bool.or_eq_true, Bool.and_eq_true, decide_eq_true_eq]
    omega
  · decide

section

variable {name : List Char} {character : Char} (refers : referenced? name = some character)
include refers

theorem referenceNoReturn : '\r' ∉ '&' :: (name ++ [';']) := by
  have notInName : '\r' ∉ name := fun isInside =>
    (letterPlain (referencedLetters refers _ isInside)).2 rfl
  simp [notInName]

theorem Outline.Holds.ofReference (inside : outline.opened ≠ []) :
    outline.Holds ('&' :: (name ++ [';'])) := by
  have plain (letter : Char) (isInside : letter ∈ name) : IsPlain letter :=
    (letterPlain (referencedLetters refers letter isInside)).1
  have notTag : '<' ∉ name := fun isInside => (plain _ isInside).2.1 rfl
  have notClosing : '>' ∉ name := fun isInside => (plain _ isInside).2.2.1 rfl
  exact {
    noTag := by simp [notTag]
    noClosing := by simp [notClosing]
    legal := List.forall_mem_cons.2 ⟨by decide, List.forall_mem_append.2
      ⟨fun letter isInside => (plain letter isInside).1, List.forall_mem_singleton.2 (by decide)⟩⟩
    decodable := ⟨[character], .reference refers .done⟩
    spaces := fun outside => absurd outside inside }

end

theorem Outline.Holds.step (holds : outline.Holds data) :
    outline.step? (.data data) = some outline := by
  have admitted : outline.admitsData data = true := by
    unfold Outline.admitsData
    split
    case isTrue outside => exact List.all_eq_true.2 (holds.spaces (List.isEmpty_iff.1 outside))
    case isFalse =>
      refine decodeDataIff.2 ⟨fun isInfix => ?_, holds.legal, holds.decodable⟩
      exact holds.noClosing (isInfix.subset (by decide))
  exact if_pos admitted

/-- Data that is followed by markup or by nothing is one event, unless it is empty. -/
theorem Outline.Holds.reads (holds : outline.Holds data) {rest : List Char}
    (stops : Text.StopsAt Event.isData rest) {events : List Event}
    (areEvents : Event.ofContent? rest = some events) (stepped : outline.steps? events = some after) :
    ∃ more, Event.ofContent? (data ++ rest) = some more ∧ outline.steps? more = some after := by
  cases data with
  | nil => exact ⟨events, areEvents, stepped⟩
  | cons first others =>
      have areData (character : Char) (isInside : character ∈ first :: others) :
          Event.isData character = true :=
        decide_eq_true fun same => holds.noTag (same ▸ isInside)
      have found : Event.read? (first :: others ++ rest) = some (.data (first :: others), rest) :=
        readDataIff.2 ⟨rfl, List.cons_ne_nil _ _, areData, stops⟩
      refine ⟨.data (first :: others) :: events, ?_, ?_⟩
      · rw [ofContentCons found, areEvents, Option.map_some]
      · rw [Outline.steps?, List.foldlM_cons, holds.step]
        exact stepped

/-- The data before a text is read as a part of its first data. -/
theorem Passes.reads {text : List Char} (passes : Passes outline text after)
    (holds : outline.Holds data) :
    ∃ events, Event.ofContent? (data ++ normalizeLines text) = some events ∧
      outline.steps? events = some after := by
  -- A plain character moves to the end of the data before it, so the data is general.
  induction passes generalizing data with
  | done => exact holds.reads nofun rfl rfl
  | @plain outline _ character rest inside isPlain _ inductionHypothesis =>
      rw [normalizeLinesCons, ← List.append_assoc]
      exact inductionHypothesis (holds.append (.ofNormalized inside isPlain rest.head?))
  | @reference _ _ name rest _ inside refers _ inductionHypothesis =>
      have normalized : normalizeLines ('&' :: (name ++ ';' :: rest)) =
          '&' :: (name ++ [';']) ++ normalizeLines rest := by
        rw [← normalizeLinesFront (referenceNoReturn refers)]
        simp
      rw [normalized, ← List.append_assoc]
      exact inductionHypothesis (holds.append (.ofReference refers inside))
  | @markup outline _ _ event source rest isSource noReturn stepped _ inductionHypothesis =>
      have normalized : normalizeLines ('<' :: (source ++ rest)) =
          '<' :: (source ++ normalizeLines rest) := by
        have noReturnInTag : '\r' ∉ '<' :: source := by simp [noReturn]
        exact normalizeLinesFront noReturnInTag rest
      obtain ⟨events, areEvents, steppedRest⟩ := inductionHypothesis .nil
      rw [normalized]
      refine holds.reads (Text.stopsAtCons (by decide)) (?_ : _ = some (event :: events)) ?_
      · rw [ofContentCons (eventOfSource isSource _)]
        exact congrArg (Option.map _) areEvents
      · rw [Outline.steps?, List.foldlM_cons, stepped]
        exact steppedRest

/-- Balanced content inside of an element leads back to the same outline. -/
theorem Passes.balanced {content : List Char} (passes : Passes outline content after)
    (inside : outline.opened ≠ []) (isBalanced : IsBalanced content) : after = outline := by
  obtain ⟨events, areEvents, nests⟩ := isBalanced
  obtain ⟨_, sameEvents, stepped⟩ := passes.reads .nil
  obtain rfl := Option.some.inj (areEvents.symm.trans sameEvents)
  exact balancedStays inside nests stepped

/-- This is the declaration of a written document after its opening. -/
def headerDeclaration : List Char := " version='1.0' encoding='UTF-8' standalone='yes'?>".toList

theorem headerIsDeclaration : IsDeclaration (some "UTF-8".toList) headerDeclaration := by
  have assigned (value : List Char) (absent : '\'' ∉ value) :
      IsAssignment value ('=' :: '\'' :: (value ++ ['\''])) :=
    ⟨[], [], '\'', rfl, nofun, nofun, .inr rfl, absent⟩
  have space : AllSpaces [' '] := List.forall_mem_singleton.2 (by decide)
  exact ⟨[' '], "1.0".toList, _, _, some "yes".toList, _, [], rfl, space,
    assigned _ (by decide), by decide,
    .inr ⟨[' '], _, _, rfl, rfl, List.cons_ne_nil _ _, space, assigned _ (by decide), by decide⟩,
    .inr ⟨[' '], _, _, rfl, rfl, List.cons_ne_nil _ _, space, assigned _ (by decide), by decide⟩,
    nofun⟩

theorem bodyOfHeader (body : List Char) :
    body? (dropMark (documentHeader ++ body)) = some ('\n' :: body) := by
  have header : documentHeader ++ body =
      declarationOpening ++ (headerDeclaration ++ '\n' :: body) := rfl
  have declared : hasDeclaration (documentHeader ++ body) = true :=
    declaredIff.2 ⟨' ', _, by decide, rfl⟩
  have found : readDeclaration? (headerDeclaration ++ '\n' :: body) =
      some (some "UTF-8".toList, '\n' :: body) :=
    readDeclarationIff.2 ⟨_, rfl, headerIsDeclaration⟩
  change body? (documentHeader ++ body) = _
  rw [body?, if_pos declared, header, List.drop_left, found]
  rfl

/-- A text that reaches the end of its root is a document. -/
theorem Reaches.isDocument {text : List Char} (reaches : Reaches text .complete) :
    (readDocument? (String.ofList text)).isSome = true := by
  obtain ⟨body, rfl, passes⟩ := reaches
  have holds : Outline.start.Holds ['\n'] := {
    noTag := by decide
    noClosing := by decide
    legal := List.forall_mem_singleton.2 (by decide)
    decodable := .ofPlain (by decide)
    spaces := fun _ => List.forall_mem_singleton.2 (by decide) }
  obtain ⟨events, areEvents, stepped⟩ := passes.reads holds
  obtain ⟨root, built⟩ := Option.isSome_iff_exists.1 (documentOfOutline stepped)
  refine Option.isSome_iff_exists.2 ⟨root, readDocumentIff.2 ⟨events, ?_, built⟩⟩
  rw [eventsOf?, String.toList_ofList, bodyOfHeader, Option.bind_some, normalizeLinesCons]
  exact areEvents

end

end Letterpress.Markup
