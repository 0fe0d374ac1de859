import Letterpress.Proofs.Bracket.Edit
import Letterpress.Proofs.Markup.Divergence
import Letterpress.Proofs.Markup.Frame
import Mathlib.Data.List.Induction

/-!
This file shows that a rewriting preserves a content exactly if it replaces tokens in texts only.
-/

namespace Letterpress.Bracket

open Markup

/-- Tokens are replaced in texts only, for the markup between the texts is kept. -/
inductive InTexts : List Edit → Prop
  | done : InTexts []
  | data {group rest : List Edit}
      (isRead : Event.read? (originalOf group ++ originalOf rest) =
        some (.data (originalOf group), originalOf rest))
      (restInTexts : InTexts rest) : InTexts (group ++ rest)
  | verbatim {group rest : List Edit}
      (isRead : Event.read? ('<' :: (verbatimOpening ++ (originalOf group ++ verbatimClosing) ++
        originalOf rest)) = some (.verbatim (originalOf group), originalOf rest))
      (restInTexts : InTexts rest) :
      InTexts (keepAll ('<' :: verbatimOpening) ++ (group ++ (keepAll verbatimClosing ++ rest)))
  | markup {source : List Char} {event : Event} {rest : List Edit}
      (isRead : Event.read? (source ++ originalOf rest) = some (event, originalOf rest))
      (noText : event.isText = false) (restInTexts : InTexts rest) :
      InTexts (keepAll source ++ rest)

/-- Two contents are the same side by side if each event of the one comes from the edits of an event
of the other that has the same frame. -/
inductive SideBySide : List Edit → List Event → List Event → Prop
  | done : SideBySide [] [] []
  | event {group rest : List Edit} {event editedEvent : Event} {events editedEvents : List Event}
      (isRead : Event.read? (originalOf group ++ originalOf rest) = some (event, originalOf rest))
      (isReadEdited : Event.read? (editedOf group ++ editedOf rest) =
        some (editedEvent, editedOf rest))
      (sameFrame : editedEvent.frame = event.frame)
      (others : SideBySide rest events editedEvents) :
      SideBySide (group ++ rest) (event :: events) (editedEvent :: editedEvents)

/-! ### What edits pass on -/

/-- A property passes edits if brackets and braces separate what has it. -/
structure PassesEdits (property : List Char → Prop) : Prop where
  parts : ∀ {front inside back : List Char}, property (front ++ ('[' :: (inside ++ ']' :: back))) →
    property front ∧ property inside ∧ property back
  join : ∀ {front code back : List Char}, property front → property code → property back →
    property (front ++ ('\x7b' :: (code ++ '\x7d' :: back)))
  code : ∀ {inside code : List Char}, IsReplacement inside code → property inside → property code

theorem PassesEdits.editedAfter {property : List Char → Prop} (passes : PassesEdits property)
    {script : List Edit} (sound : IsSound script) {front : List Char}
    (holds : property (front ++ originalOf script)) : property (front ++ editedOf script) := by
  induction script generalizing front with
  | nil => exact holds
  | cons edit rest inductionHypothesis =>
      obtain ⟨soundEdit, soundRest⟩ := soundCons.1 sound
      rw [originalOfCons] at holds
      rw [editedOfCons]
      cases edit with
      | keep character =>
          rw [← List.append_assoc] at holds ⊢
          exact inductionHypothesis soundRest holds
      | replace inside code =>
          simp only [Edit.original, List.cons_append, List.append_assoc, List.nil_append] at holds
          obtain ⟨holdsFront, holdsInside, holdsRest⟩ := passes.parts holds
          simp only [Edit.edited, List.cons_append, List.append_assoc, List.nil_append]
          have holdsEdited : property ([] ++ editedOf rest) := inductionHypothesis soundRest holdsRest
          exact passes.join holdsFront (passes.code soundEdit holdsInside) holdsEdited

theorem PassesEdits.edited {property : List Char → Prop} (passes : PassesEdits property)
    {script : List Edit} (sound : IsSound script) (holds : property (originalOf script)) :
    property (editedOf script) := by
  have holdsEdited : property ([] ++ editedOf script) := passes.editedAfter sound holds
  exact holdsEdited

/-- A class of characters passes edits if it has the inert ones. -/
theorem classPasses {admits : Char → Prop}
    (inertAdmitted : ∀ character, isInert character = true → admits character) :
    PassesEdits (fun text => ∀ character ∈ text, admits character) where
  parts holds := by
    simp only [List.forall_mem_append, List.forall_mem_cons] at holds
    exact ⟨holds.1, holds.2.2.1, holds.2.2.2.2⟩
  join holdsFront holdsCode holdsBack := by
    simp only [List.forall_mem_append, List.forall_mem_cons]
    exact ⟨holdsFront, inertAdmitted _ (by decide), holdsCode, inertAdmitted _ (by decide), holdsBack⟩
  code replacement holds character isInside :=
    (replacement.characters character isInside).elim (holds character) (inertAdmitted character)

theorem legalPasses : PassesEdits AllLegal := by
  refine classPasses fun character inert => ?_
  simp only [isInert, Bool.and_eq_true, decide_eq_true_eq] at inert
  simp only [isLegal, Bool.or_eq_true, Bool.and_eq_true, decide_eq_true_eq]
  omega

theorem decodablePasses : PassesEdits IsDecodable where
  parts holds := by
    obtain ⟨holdsFront, holdsRest⟩ := (IsDecodable.splitIff (by decide)).1 holds
    exact ⟨holdsFront, (IsDecodable.splitIff (by decide)).1 holdsRest⟩
  join holdsFront holdsCode holdsBack :=
    (IsDecodable.splitIff (by decide)).2 ⟨holdsFront,
      (IsDecodable.splitIff (by decide)).2 ⟨holdsCode, holdsBack⟩⟩
  code replacement := replacement.decodable

/-- A pattern stands on one side of a character that it does not hold. -/
theorem infixBeside {pattern front back : List Char} {character : Char} (absent : character ∉ pattern) :
    pattern <:+: front ++ character :: back ↔ pattern <:+: front ∨ pattern <:+: back := by
  constructor
  · rintro ⟨before, after, whole⟩
    obtain ⟨remaining, rfl, -⟩ | ⟨remaining, inBeginning⟩ := Text.inBeginningOrAfter whole
    · exact .inl ⟨before, remaining, rfl⟩
    · obtain ⟨others, -, rfl⟩ | ⟨others, rfl⟩ := Text.inBeginningOrAfter inBeginning
      · exact absurd (by simp) absent
      · rw [List.append_assoc, List.append_assoc, List.append_cancel_left_eq,
          List.cons_append] at whole
        refine .inr ⟨others, after, ?_⟩
        rw [← (List.cons.inj whole).2, List.append_assoc]
  · rintro (isInfix | isInfix)
    · exact isInfix.trans (List.prefix_append _ _).isInfix
    · exact isInfix.trans ((List.suffix_cons _ _).trans (List.suffix_append _ _)).isInfix

/-- The end of verbatim data has two closing brackets in a row, and a command has none. -/
theorem noClosingInCode {inside code : List Char} (replacement : IsReplacement inside code) :
    ¬ verbatimClosing <:+: code := by
  rintro ⟨before, after, rfl⟩
  have quoted := replacement.quoted (before ++ [']']) ('>' :: after) (by simp [verbatimClosing])
  rw [List.getLast?_concat] at quoted
  exact absurd (Option.some.inj quoted) (by decide)

theorem closingPasses : PassesEdits (fun text => ¬ verbatimClosing <:+: text) where
  parts holds := by
    refine ⟨fun isInfix => holds ?_, fun isInfix => holds ?_, fun isInfix => holds ?_⟩
    · exact (infixBeside (by decide)).2 (.inl isInfix)
    · refine (infixBeside (by decide)).2 (.inr ?_)
      exact isInfix.trans (List.prefix_append _ _).isInfix
    · refine (infixBeside (by decide)).2 (.inr ?_)
      exact isInfix.trans ((List.suffix_cons _ _).trans (List.suffix_append _ _)).isInfix
  join holdsFront holdsCode holdsBack := by
    rw [infixBeside (by decide), infixBeside (by decide)]
    exact not_or.2 ⟨holdsFront, not_or.2 ⟨holdsCode, holdsBack⟩⟩
  code replacement _ := noClosingInCode replacement

/-! ### Texts and markup in a script -/

section

variable {script group rest : List Edit}

/-- A script keeps everything, or a first token is replaced. -/
theorem keptOrReplaced (script : List Edit) :
    script = keepAll (originalOf script) ∨
      ∃ front inside code others, script = keepAll front ++ .replace inside code :: others := by
  induction script with
  | nil => exact .inl rfl
  | cons edit others inductionHypothesis =>
      cases edit with
      | replace inside code => exact .inr ⟨[], inside, code, others, rfl⟩
      | keep character =>
          obtain same | ⟨front, inside, code, more, rfl⟩ := inductionHypothesis
          · refine .inl ?_
            rw [originalOfCons, Edit.original, List.singleton_append, keepAll, List.map_cons]
            exact congrArg _ same
          · exact .inr ⟨character :: front, inside, code, more, rfl⟩

/-- A beginning that the edits leave as it is has been kept. -/
theorem keptBeginning {front original edited : List Char}
    (sameOriginal : originalOf script = front ++ original)
    (sameEdited : editedOf script = front ++ edited) :
    ∃ others, script = keepAll front ++ others ∧ originalOf others = original ∧
      editedOf others = edited := by
  induction front generalizing script with
  | nil => exact ⟨script, rfl, sameOriginal, sameEdited⟩
  | cons character front inductionHypothesis =>
      cases script with
      | nil => exact nomatch sameOriginal
      | cons edit others =>
          rw [originalOfCons] at sameOriginal
          rw [editedOfCons] at sameEdited
          cases edit with
          | keep kept =>
              obtain ⟨rfl, sameOriginalRest⟩ := List.cons.inj sameOriginal
              obtain ⟨-, sameEditedRest⟩ := List.cons.inj sameEdited
              obtain ⟨more, rfl, isOriginal, isEdited⟩ :=
                inductionHypothesis sameOriginalRest sameEditedRest
              exact ⟨more, rfl, isOriginal, isEdited⟩
          | replace inside code =>
              obtain ⟨rfl, -⟩ := List.cons.inj sameOriginal
              exact absurd (List.cons.inj sameEdited).1 (by decide)

/-- An end that the edits leave as it is has been kept. -/
theorem keptEnd {back original edited : List Char} (sameOriginal : originalOf script = original ++ back)
    (sameEdited : editedOf script = edited ++ back) :
    ∃ others, script = others ++ keepAll back ∧ originalOf others = original ∧
      editedOf others = edited := by
  induction back using List.reverseRecOn generalizing script with
  | nil =>
      rw [List.append_nil] at sameOriginal sameEdited
      exact ⟨script, (List.append_nil _).symm, sameOriginal, sameEdited⟩
  | append_singleton back character inductionHypothesis =>
      obtain rfl | ⟨others, edit, rfl⟩ := List.eq_nil_or_concat' script
      · simp [originalOf] at sameOriginal
      · rw [originalOfAppend, ← List.append_assoc] at sameOriginal
        rw [editedOfAppend, ← List.append_assoc] at sameEdited
        cases edit with
        | keep kept =>
            obtain ⟨sameOriginalRest, same⟩ := List.append_inj' sameOriginal rfl
            obtain ⟨sameEditedRest, -⟩ := List.append_inj' sameEdited rfl
            obtain rfl := (List.cons.inj same).1
            obtain ⟨more, rfl, isOriginal, isEdited⟩ :=
              inductionHypothesis sameOriginalRest sameEditedRest
            exact ⟨more, by simp [keepAll], isOriginal, isEdited⟩
        | replace inside code =>
            have endsOriginal : (originalOf others ++ '[' :: inside) ++ [']'] =
                (original ++ back) ++ [character] := by
              simpa [originalOf, Edit.original] using sameOriginal
            have endsEdited : (editedOf others ++ '\x7b' :: code) ++ ['\x7d'] =
                (edited ++ back) ++ [character] := by
              simpa [editedOf, Edit.edited] using sameEdited
            have isBracket := (List.append_inj' endsOriginal rfl).2
            have isBrace := (List.append_inj' endsEdited rfl).2
            exact absurd (isBracket.trans isBrace.symm) (by decide)

/-- The edited text goes on with a tag where the original one does. -/
theorem stopsEdited (stops : Text.StopsAt Event.isData (originalOf rest)) :
    Text.StopsAt Event.isData (editedOf rest) := by
  cases rest with
  | nil => exact stops
  | cons edit others =>
      cases edit with
      | keep character => exact Text.stopsAtCons (stops character rfl)
      | replace inside code => exact absurd (stops '[' rfl) (by decide)

theorem dataEdited (sound : IsSound group)
    (areData : ∀ character ∈ originalOf group, Event.isData character = true) :
    ∀ character ∈ editedOf group, Event.isData character = true := by
  refine PassesEdits.edited (classPasses fun character inert => ?_) sound areData
  simp only [isInert, Bool.and_eq_true, decide_eq_true_eq] at inert
  exact decide_eq_true inert.1.2

theorem editedNotEmpty (notEmpty : originalOf group ≠ []) : editedOf group ≠ [] := by
  cases group with
  | nil => exact absurd rfl notEmpty
  | cons edit others => cases edit <;> exact List.cons_ne_nil _ _

/-- Edits leave blanks alone. -/
theorem spacesEdited (allSpaces : (originalOf group).all isSpace = true) :
    editedOf group = originalOf group := by
  obtain same | ⟨front, inside, code, others, rfl⟩ := keptOrReplaced group
  · rw [same, editedOfKeep, originalOfKeep]
  · rw [originalOfAppend, originalOfCons, List.all_append] at allSpaces
    simp [Edit.original, isSpace] at allSpaces

theorem standsForData (sound : IsSound group) :
    (Event.data (editedOf group)).StandsFor (.data (originalOf group)) := by
  refine .data (fun allSpaces => by rwa [spacesEdited allSpaces]) (fun decodable => ?_)
  rw [decodeDataIff] at decodable ⊢
  obtain ⟨noClosing, legal, references⟩ := decodable
  exact ⟨closingPasses.edited sound noClosing,
    legalPasses.edited sound legal,
    decodablePasses.edited sound references⟩

/-! ### The two contents side by side -/

theorem readEditedData (sound : IsSound group)
    (isRead : Event.read? (originalOf group ++ originalOf rest) =
      some (.data (originalOf group), originalOf rest)) :
    Event.read? (editedOf group ++ editedOf rest) = some (.data (editedOf group), editedOf rest) := by
  obtain ⟨-, notEmpty, areData, stops⟩ := readDataIff.1 isRead
  exact readDataIff.2 ⟨rfl, editedNotEmpty notEmpty, dataEdited sound areData, stopsEdited stops⟩

theorem verbatimEdited (sound : IsSound group)
    (ends : EndsBefore verbatimClosing (originalOf group)) (legal : AllLegal (originalOf group)) :
    Event.IsSource (.verbatim (editedOf group))
      (verbatimOpening ++ (editedOf group ++ verbatimClosing)) := by
  refine .verbatim ?_ (legalPasses.edited sound legal)
  have soundEnd : IsSound (group ++ keepAll verbatimClosing.dropLast) :=
    soundAppend.2 ⟨sound, keepAllSound _⟩
  have noClosing : ¬ verbatimClosing <:+: originalOf (group ++ keepAll verbatimClosing.dropLast) := by
    rwa [originalOfAppend, originalOfKeep]
  have noClosingEdited := closingPasses.edited soundEnd noClosing
  rwa [editedOfAppend, editedOfKeep] at noClosingEdited

theorem readEditedVerbatim (sound : IsSound group)
    (isRead : Event.read? ('<' :: (verbatimOpening ++ (originalOf group ++ verbatimClosing) ++
      originalOf rest)) = some (.verbatim (originalOf group), originalOf rest)) :
    Event.read? ('<' :: (verbatimOpening ++ (editedOf group ++ verbatimClosing) ++
      editedOf rest)) = some (.verbatim (editedOf group), editedOf rest) := by
  obtain ⟨raw, same⟩ | ⟨source, -, isSource⟩ := sourceOfEvent isRead
  · exact nomatch same
  · cases isSource with
    | verbatim ends legal =>
        exact eventOfSource (verbatimEdited sound ends legal) (editedOf rest)

/-- A script that replaces tokens in texts only leads to the same events up to texts. -/
theorem sideBySideOfInTexts (sound : IsSound script) (inTexts : InTexts script) :
    ∃ events editedEvents, SideBySide script events editedEvents ∧
      List.Forall₂ Event.StandsFor editedEvents events := by
  induction inTexts with
  | done => exact ⟨[], [], .done, .nil⟩
  | @data group rest isRead _ inductionHypothesis =>
      obtain ⟨soundGroup, soundRest⟩ := soundAppend.1 sound
      obtain ⟨events, editedEvents, others, standFor⟩ := inductionHypothesis soundRest
      exact ⟨_, _, .event isRead (readEditedData soundGroup isRead) rfl others,
        .cons (standsForData soundGroup) standFor⟩
  | @verbatim group rest isRead _ inductionHypothesis =>
      obtain ⟨-, soundAfter⟩ := soundAppend.1 sound
      obtain ⟨soundGroup, soundEnd⟩ := soundAppend.1 soundAfter
      obtain ⟨events, editedEvents, others, standFor⟩ :=
        inductionHypothesis (soundAppend.1 soundEnd).2
      have isReadEdited := readEditedVerbatim soundGroup isRead
      have sameScript : keepAll ('<' :: verbatimOpening) ++
          (group ++ (keepAll verbatimClosing ++ rest)) =
            keepAll ('<' :: verbatimOpening) ++ (group ++ keepAll verbatimClosing) ++ rest := by
        simp only [List.append_assoc]
      have isReadGroup : Event.read? (originalOf (keepAll ('<' :: verbatimOpening) ++
          (group ++ keepAll verbatimClosing)) ++ originalOf rest) =
            some (.verbatim (originalOf group), originalOf rest) := by
        simpa only [originalOfAppend, originalOfKeep, List.cons_append] using isRead
      have isReadGroupEdited : Event.read? (editedOf (keepAll ('<' :: verbatimOpening) ++
          (group ++ keepAll verbatimClosing)) ++ editedOf rest) =
            some (.verbatim (editedOf group), editedOf rest) := by
        simpa only [editedOfAppend, editedOfKeep, List.cons_append] using isReadEdited
      rw [sameScript]
      exact ⟨_, _, .event isReadGroup isReadGroupEdited rfl others,
        .cons (.verbatim _ _) standFor⟩
  | @markup source event rest isRead noText _ inductionHypothesis =>
      obtain ⟨-, soundRest⟩ := soundAppend.1 sound
      obtain ⟨events, editedEvents, others, standFor⟩ := inductionHypothesis soundRest
      obtain ⟨raw, rfl⟩ | ⟨markup, same, isSource⟩ := sourceOfEvent isRead
      · exact nomatch noText
      · rw [← List.cons_append] at same
        obtain rfl := List.append_cancel_right same
        refine ⟨_, _, .event ?_ ?_ rfl others, .cons (.markup event) standFor⟩
        · rwa [originalOfKeep]
        · rw [editedOfKeep]
          exact eventOfSource isSource (editedOf rest)

/-- Markup that is read from both texts with the same frame is kept. -/
theorem keptMarkup {event editedEvent : Event} {source editedSource : List Char}
    (isSource : event.IsSource source) (isEditedSource : editedEvent.IsSource editedSource)
    (sameFrame : editedEvent.frame = event.frame) (isOriginal : originalOf group = '<' :: source)
    (isEdited : editedOf group = '<' :: editedSource) (noText : event.isText = false) :
    group = keepAll (originalOf group) := by
  obtain same | ⟨front, inside, code, others, rfl⟩ := keptOrReplaced group
  · exact same
  · obtain rfl := eventOfFrame noText sameFrame
    rw [originalOfAppend, originalOfKeep, originalOfCons] at isOriginal
    rw [editedOfAppend, editedOfKeep, editedOfCons] at isEdited
    cases front with
    | nil => exact absurd (List.cons.inj isOriginal).1 (by decide)
    | cons first front =>
        obtain ⟨rfl, rfl⟩ := List.cons.inj isOriginal
        obtain ⟨-, rfl⟩ := List.cons.inj isEdited
        have notVerbatim (content : List Char) : editedEvent ≠ .verbatim content := by
          rintro rfl
          exact nomatch noText
        exact (isSource.noDivergence isEditedSource notVerbatim rfl (List.append_nil _)).elim

theorem inTextsOfSideBySide {events editedEvents : List Event}
    (sideBySide : SideBySide script events editedEvents) : InTexts script := by
  induction sideBySide with
  | done => exact .done
  | @event group rest event editedEvent _ _ isRead isReadEdited sameFrame _ inductionHypothesis =>
      obtain ⟨raw, rfl⟩ | ⟨source, same, isSource⟩ := sourceOfEvent isRead
      · obtain ⟨same, -⟩ := readDataIff.1 isRead
        obtain rfl := List.append_cancel_right same
        exact .data isRead inductionHypothesis
      · rw [← List.cons_append] at same
        have isOriginal := List.append_cancel_right same
        obtain ⟨raw, rfl⟩ | ⟨editedSource, sameEdited, isEditedSource⟩ := sourceOfEvent isReadEdited
        · cases event with
          | data => exact absurd rfl isSource.notData
          | _ => exact nomatch sameFrame
        · rw [← List.cons_append] at sameEdited
          have isEdited := List.append_cancel_right sameEdited
          cases isText : event.isText with
          | false =>
              have kept := keptMarkup isSource isEditedSource sameFrame isOriginal isEdited isText
              rw [kept]
              rw [kept, originalOfKeep] at isRead
              exact .markup isRead isText inductionHypothesis
          | true =>
              cases isSource with
              | @verbatim content ends legal =>
                  cases isEditedSource with
                  | @verbatim editedContent =>
                      rw [← List.cons_append] at isOriginal isEdited
                      obtain ⟨afterOpening, rfl, isOriginalRest, isEditedRest⟩ :=
                        keptBeginning isOriginal isEdited
                      obtain ⟨inside, rfl, rfl, -⟩ := keptEnd isOriginalRest isEditedRest
                      rw [isOriginal] at isRead
                      simpa only [List.append_assoc] using .verbatim isRead inductionHypothesis
                  | _ => exact nomatch sameFrame
              | _ => exact nomatch isText

/-- The events of the two contents are read in full. -/
theorem SideBySide.contents {events editedEvents : List Event}
    (sideBySide : SideBySide script events editedEvents) :
    Event.ofContent? (originalOf script) = some events ∧
      Event.ofContent? (editedOf script) = some editedEvents := by
  induction sideBySide with
  | done => exact ⟨rfl, rfl⟩
  | event isRead isReadEdited _ _ inductionHypothesis =>
      obtain ⟨restRead, restReadEdited⟩ := inductionHypothesis
      rw [originalOfAppend, editedOfAppend, ofContentCons isRead, ofContentCons isReadEdited, restRead,
        restReadEdited]
      exact ⟨rfl, rfl⟩

end

end Letterpress.Bracket
