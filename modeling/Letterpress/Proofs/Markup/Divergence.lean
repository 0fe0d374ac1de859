import Letterpress.Proofs.Markup.Event

/-!
This file shows that two sources of the same markup do not part where one has a bracket and the other
one has a brace.
-/

namespace Letterpress.Markup

section

variable {front back more rest source other : List Char}

/-- What stands before a quotation mark goes on where the other text does. -/
theorem quotedGoesOn {raw : List Char} {quotation character : Char} (absent : quotation ∉ front)
    (notQuotation : character ≠ quotation)
    (same : raw ++ quotation :: rest = front ++ character :: back) :
    ∃ remaining, raw = front ++ character :: remaining := by
  obtain ⟨remaining, rfl, sameRest⟩ := Text.afterBeginning absent same.symm
  cases remaining with
  | nil => exact absurd (List.cons.inj sameRest).1 notQuotation
  | cons next remaining =>
      obtain ⟨rfl, -⟩ := List.cons.inj sameRest
      exact ⟨remaining, rfl⟩

/-- A bracket and a brace in the same place make values differ. -/
theorem valuesDiffer {value : List Char} (decoded : decodeValue? (front ++ '[' :: back) = some value)
    (decodedOther : decodeValue? (front ++ '\x7b' :: more) = some value) : False := by
  obtain ⟨-, -, decodes⟩ := decodeValueIff.1 decoded
  obtain ⟨-, -, decodesOther⟩ := decodeValueIff.1 decodedOther
  rw [List.map_append, List.map_cons, show blankToSpace '[' = '[' by decide] at decodes
  rw [List.map_append, List.map_cons, show blankToSpace '\x7b' = '\x7b' by decide] at decodesOther
  obtain ⟨first, second, decodesFront, -, rfl⟩ := decodes.split (by decide)
  obtain ⟨firstOther, secondOther, decodesFrontOther, -, same⟩ := decodesOther.split (by decide)
  have sameFirst : first = firstOther :=
    Option.some.inj ((decodeReferencesIff.2 decodesFront).symm.trans
      (decodeReferencesIff.2 decodesFrontOther))
  subst sameFirst
  exact absurd (List.cons.inj (List.append_cancel_left same)).1 (by decide)

theorem Attribute.IsSource.noDivergence {found : Attribute} (isSource : found.IsSource source)
    (isOther : found.IsSource other) (same : source = front ++ '[' :: back)
    (sameOther : other ++ rest = front ++ '\x7b' :: more) : False := by
  obtain ⟨raw, _, rfl, isWritten, ⟨before, after, quotation, rfl, allBefore, allAfter, isQuotation,
    absent⟩, decoded⟩ := isSource
  obtain ⟨rawOther, _, rfl, -, ⟨beforeOther, afterOther, quotationOther, rfl, allBeforeOther,
    allAfterOther, isQuotationOther, absentOther⟩, decodedOther⟩ := isOther
  have bracketNotQuotation : '[' ≠ quotation := by
    obtain rfl | rfl := isQuotation <;> decide
  have braceNotQuotation : '\x7b' ≠ quotation := by
    obtain rfl | rfl := isQuotation <;> decide
  have quotationNotSpace {mark : Char} (isMark : mark = '"' ∨ mark = '\'') : isSpace mark = false := by
    obtain rfl | rfl := isMark <;> decide
  -- The bracket stands in the value, for nothing before it holds one.
  have noneInName : '[' ∉ found.name.characters := nameAbsent isWritten (by decide)
  have noneBefore : '[' ∉ before := spacesAbsent allBefore (by decide)
  have noneAfter : '[' ∉ after := spacesAbsent allAfter (by decide)
  have noneInBeginning :
      '[' ∉ found.name.characters ++ (before ++ '=' :: (after ++ [quotation])) := by
    simp [noneInName, noneBefore, noneAfter, bracketNotQuotation]
  obtain ⟨inside, rfl, quoted⟩ : ∃ inside, front =
      found.name.characters ++ (before ++ '=' :: (after ++ [quotation])) ++ inside ∧
        raw ++ [quotation] = inside ++ '[' :: back :=
    Text.afterBeginning noneInBeginning (by simpa using same)
  simp only [List.append_assoc, List.cons_append, List.nil_append] at sameOther
  have sameAssignment := List.append_cancel_left sameOther
  obtain ⟨rfl, sameValue⟩ := Text.admittedUnique allBeforeOther (Text.stopsAtCons (by decide))
    allBefore (Text.stopsAtCons (by decide)) sameAssignment
  obtain ⟨rfl, sameQuoted⟩ := Text.admittedUnique allAfterOther
    (Text.stopsAtCons (quotationNotSpace isQuotationOther)) allAfter
    (Text.stopsAtCons (quotationNotSpace isQuotation)) (List.cons.inj sameValue).2
  obtain ⟨rfl, sameRaw⟩ := List.cons.inj sameQuoted
  have absentInside : quotationOther ∉ inside := by
    have withoutLast := congrArg List.dropLast quoted
    rw [List.dropLast_concat, List.dropLast_append_of_ne_nil (List.cons_ne_nil _ _)] at withoutLast
    exact fun isInside => absent (withoutLast ▸ List.mem_append_left _ isInside)
  obtain ⟨remaining, rfl⟩ := quotedGoesOn absentInside bracketNotQuotation quoted
  obtain ⟨remainingOther, rfl⟩ := quotedGoesOn absentInside braceNotQuotation sameRaw
  exact valuesDiffer decoded decodedOther

/-- A source without the bracket has no place where the other one could part from it. -/
theorem noDivergenceOfAbsent (absent : '[' ∉ source) (same : source = front ++ '[' :: back) : False :=
  absent (by simp [same])

theorem AttributesSource.noDivergence {attributes : List Attribute} {isEmpty isEmptyOther : Bool}
    (isSource : AttributesSource attributes isEmpty source)
    (isOther : AttributesSource attributes isEmptyOther other) (same : source = front ++ '[' :: back)
    (sameOther : other ++ rest = front ++ '\x7b' :: more) : False := by
  induction isSource generalizing front other with
  | closing allSpaces =>
      have absent := spacesAbsent allSpaces (show isSpace '[' = false by decide)
      exact noDivergenceOfAbsent (by simp [absent]) same
  | empty allSpaces =>
      have absent := spacesAbsent allSpaces (show isSpace '[' = false by decide)
      exact noDivergenceOfAbsent (by simp [absent]) same
  | @another spaces source sourceOfMore found attributes isEmpty _ allSpaces isSource _
      inductionHypothesis =>
      cases isOther with
      | @another spacesOther sourceOther moreOther _ _ _ _ allSpacesOther isSourceOther isMoreOther =>
          have absent := spacesAbsent allSpaces (show isSpace '[' = false by decide)
          obtain ⟨afterSpaces, rfl, sameSource⟩ := Text.afterBeginning absent same
          simp only [List.append_assoc] at sameOther
          -- The attribute begins with a name, so the blanks before it are the same ones.
          have stopsAtName {text : List Char} {remaining : List Char} (isText : found.IsSource text) :
              Text.StopsAt isSpace (text ++ remaining) := by
            obtain ⟨raw, assignment, rfl, isWritten, -⟩ := isText
            obtain ⟨first, others, begins, starts⟩ := isWritten.begins
            rw [begins]
            exact Text.stopsAtCons (nameStartBounds starts).2.2
          have stopsAfter : Text.StopsAt isSpace (afterSpaces ++ '\x7b' :: more) := by
            cases afterSpaces with
            | nil => exact Text.stopsAtCons (by decide)
            | cons next others =>
                have stops : Text.StopsAt isSpace (source ++ sourceOfMore) := stopsAtName isSource
                rw [sameSource] at stops
                exact stops
          obtain ⟨rfl, sameRest⟩ := Text.admittedUnique allSpacesOther (stopsAtName isSourceOther)
            allSpaces stopsAfter sameOther
          obtain ⟨afterSource, rfl, rfl⟩ | ⟨inside, inSource⟩ := Text.inBeginningOrAfter sameSource
          · have readFirst : readAttribute? (source ++ (afterSource ++ '\x7b' :: more)) =
                some (found, afterSource ++ '\x7b' :: more) :=
              readAttributeIff.2 ⟨source, rfl, isSource⟩
            rw [List.append_assoc] at sameRest
            have readOther := readAttributeIff.2 ⟨sourceOther, sameRest.symm, isSourceOther⟩
            have sameAfter := congrArg Prod.snd (Option.some.inj (readFirst.symm.trans readOther))
            exact inductionHypothesis isMoreOther rfl sameAfter.symm
          · exact isSource.noDivergence isSourceOther inSource sameRest

theorem Tag.IsSource.noDivergence {tag : Tag} {isEmpty isEmptyOther : Bool}
    (isSource : tag.IsSource isEmpty source) (isOther : tag.IsSource isEmptyOther other)
    (same : source = front ++ '[' :: back) (sameOther : other ++ rest = front ++ '\x7b' :: more) :
    False := by
  obtain ⟨attributes, rfl, isWritten, isAttributes⟩ := isSource
  obtain ⟨attributesOther, rfl, -, isAttributesOther⟩ := isOther
  obtain ⟨afterName, rfl, sameAttributes⟩ :=
    Text.afterBeginning (nameAbsent isWritten (by decide)) same
  simp only [List.append_assoc] at sameOther
  exact isAttributes.noDivergence isAttributesOther sameAttributes (List.append_cancel_left sameOther)

/-- Two texts that are the same up to a bracket are not the same up to a brace. -/
theorem bracketNotBrace {text : List Char} (same : text = front ++ '[' :: back)
    (sameOther : text ++ rest = front ++ '\x7b' :: more) : False := by
  rw [same, List.append_assoc] at sameOther
  exact absurd (List.cons.inj (List.append_cancel_left sameOther)).1 (by decide)

theorem instructionNoDivergence {target spaces spacesOther content : List Char} (isPart : IsPart target)
    (allSpaces : AllSpaces spaces) (allSpacesOther : AllSpaces spacesOther)
    (stops : Text.StopsAt isSpace content)
    (same : '?' :: (target ++ (spaces ++ (content ++ ['?', '>']))) = front ++ '[' :: back)
    (sameOther : '?' :: (target ++ (spacesOther ++ (content ++ ['?', '>']))) ++ rest =
      front ++ '\x7b' :: more) : False := by
  have noneInTarget : '[' ∉ target := fun isInside => absurd (isPart.continues _ isInside) (by decide)
  have noneInSpaces : '[' ∉ spaces := spacesAbsent allSpaces (by decide)
  obtain ⟨inside, rfl, inContent⟩ : ∃ inside, front = '?' :: (target ++ spaces) ++ inside ∧
      content ++ ['?', '>'] = inside ++ '[' :: back :=
    Text.afterBeginning (by simp [noneInTarget, noneInSpaces]) (by simpa using same)
  simp only [List.cons_append, List.append_assoc] at sameOther
  have sameSpaces := List.append_cancel_left (List.cons.inj sameOther).2
  have stopsContent (others : List Char) :
      Text.StopsAt isSpace (content ++ ('?' :: others)) := by
    cases content with
    | nil => exact Text.stopsAtCons (by decide)
    | cons next more => exact Text.stopsAtCons (stops next rfl)
  have stopsInside : Text.StopsAt isSpace (inside ++ '\x7b' :: more) := by
    cases inside with
    | nil => exact Text.stopsAtCons (by decide)
    | cons next others =>
        have stopsAtNext := stopsContent ['>']
        rw [inContent] at stopsAtNext
        exact stopsAtNext
  obtain ⟨rfl, sameContent⟩ := Text.admittedUnique allSpacesOther (stopsContent _) allSpaces
    stopsInside (by simpa using sameSpaces)
  exact bracketNotBrace inContent (by simpa using sameContent)

/-- Markup that is no verbatim data does not have a second source that parts from the first one
with a brace in the place of a bracket. -/
theorem Event.IsSource.noDivergence {event : Event} (isSource : event.IsSource source)
    (isOther : event.IsSource other) (notVerbatim : ∀ content, event ≠ .verbatim content)
    (same : source = front ++ '[' :: back) (sameOther : other ++ rest = front ++ '\x7b' :: more) :
    False := by
  cases isSource with
  | opening isSource =>
      cases isOther with
      | opening isOther => exact isSource.noDivergence isOther same sameOther
  | empty isSource =>
      cases isOther with
      | empty isOther => exact isSource.noDivergence isOther same sameOther
  | closing isSource =>
      obtain ⟨spaces, rfl, isWritten, allSpaces⟩ := isSource
      have noneInName := nameAbsent isWritten (show continuesName '[' = false by decide)
      have noneInSpaces := spacesAbsent allSpaces (show isSpace '[' = false by decide)
      exact noDivergenceOfAbsent (by simp [noneInName, noneInSpaces]) same
  | comment =>
      cases isOther with
      | comment => exact bracketNotBrace same sameOther
  | verbatim => exact notVerbatim _ rfl
  | instruction isPart _ allSpaces stops =>
      cases isOther with
      | instruction _ _ allSpacesOther =>
          exact instructionNoDivergence isPart allSpaces allSpacesOther stops same sameOther

end

end Letterpress.Markup
