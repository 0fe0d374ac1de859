import Letterpress.Markup.Event
import Letterpress.Proofs.Markup.Tag

/-!
This file fixes the sources of markup and shows that the reader takes them whatever follows.
-/

namespace Letterpress.Markup

/-- A pattern ends a content where it occurs first. -/
def EndsBefore (pattern content : List Char) : Prop := ¬ pattern <:+: content ++ pattern.dropLast

def AllLegal (characters : List Char) : Prop := ∀ character ∈ characters, isLegal character = true

instance (characters : List Char) : Decidable (AllLegal characters) :=
  List.decidableBAll _ characters

def verbatimOpening : List Char := ['!', '[', 'C', 'D', 'A', 'T', 'A', '[']

def verbatimClosing : List Char := [']', ']', '>']

/-- This is the source of markup after the character that opens it. -/
inductive Event.IsSource : Event → List Char → Prop
  | opening {tag : Tag} {source : List Char} (isSource : tag.IsSource false source) :
      IsSource (.opening tag) source
  | empty {tag : Tag} {source : List Char} (isSource : tag.IsSource true source) :
      IsSource (.empty tag) source
  | closing {name : QualifiedName} {source : List Char} (isSource : IsClosingSource name source) :
      IsSource (.closing name) ('/' :: source)
  | comment {content : List Char} (ends : EndsBefore ['-', '-'] content) (legal : AllLegal content) :
      IsSource (.comment content) ('!' :: '-' :: '-' :: (content ++ ['-', '-', '>']))
  | verbatim {content : List Char} (ends : EndsBefore verbatimClosing content)
      (legal : AllLegal content) :
      IsSource (.verbatim content) (verbatimOpening ++ (content ++ verbatimClosing))
  | instruction {target spaces content : List Char} (isPart : IsPart target)
      (notReserved : isReserved target = false) (allSpaces : AllSpaces spaces)
      (stops : Text.StopsAt isSpace content) (separated : spaces = [] → content = [])
      (ends : EndsBefore ['?', '>'] (spaces ++ content)) (legal : AllLegal (spaces ++ content)) :
      IsSource (.instruction target content)
        ('?' :: (target ++ (spaces ++ (content ++ ['?', '>']))))

/-! ### Ends -/

section

variable {pattern before characters content rest : List Char}

theorem notInDropLast (notEmpty : pattern ≠ []) : ¬ pattern <:+: pattern.dropLast := by
  intro isInfix
  have shorter := isInfix.length_le
  have positive := List.length_pos_iff.2 notEmpty
  rw [List.length_dropLast] at shorter
  omega

theorem dropLastPrefix (pattern inside rest : List Char) :
    inside ++ pattern.dropLast <+: inside ++ (pattern ++ rest) := by
  rw [List.prefix_append_right_inj]
  exact (List.dropLast_prefix _).trans (List.prefix_append _ _)

/-- A pattern ends a content that goes on if it neither occurs here nor before it ends the rest. -/
theorem endsBeforeCons (rest : List Char) {next : Char} {inside : List Char} :
    EndsBefore pattern (next :: inside) ↔
      ¬ pattern <+: next :: (inside ++ (pattern ++ rest)) ∧ EndsBefore pattern inside := by
  have atDropLast := dropLastPrefix pattern (next :: inside) rest
  have fits : pattern.length ≤ (next :: inside ++ pattern.dropLast).length := by
    simp only [List.length_append, List.length_cons, List.length_dropLast]
    omega
  have samePrefix : pattern <+: next :: inside ++ pattern.dropLast ↔
      pattern <+: next :: (inside ++ (pattern ++ rest)) :=
    ⟨fun isPrefix => isPrefix.trans atDropLast,
      fun isPrefix => List.prefix_of_prefix_length_le isPrefix atDropLast fits⟩
  rw [← samePrefix, EndsBefore, List.cons_append, List.infix_cons_iff, not_or, EndsBefore]

theorem splitBeforeIff (notEmpty : pattern ≠ []) :
    Event.splitBefore? pattern before characters = some (content, rest) ↔
      ∃ inside, content = before.reverse ++ inside ∧ characters = inside ++ (pattern ++ rest) ∧
        EndsBefore pattern inside := by
  induction characters generalizing before with
  | nil => simp [Event.splitBefore?, notEmpty]
  | cons character others inductionHypothesis =>
      rw [Event.splitBefore?]
      split
      case isTrue begins =>
        have isPrefix := List.isPrefixOf_iff_prefix.1 begins
        constructor
        · intro found
          obtain ⟨rfl, rfl⟩ := Prod.mk.inj (Option.some.inj found)
          refine ⟨[], (List.append_nil _).symm, ?_, notInDropLast notEmpty⟩
          exact (List.prefix_iff_eq_append.1 isPrefix).symm
        · rintro ⟨inside, rfl, whole, ends⟩
          cases inside with
          | nil => simp [whole]
          | cons next inside =>
              rw [whole] at isPrefix
              exact absurd isPrefix ((endsBeforeCons _).1 ends).1
      case isFalse notBegins =>
        rw [List.isPrefixOf_iff_prefix] at notBegins
        rw [inductionHypothesis]
        constructor
        · rintro ⟨inside, rfl, rfl, ends⟩
          exact ⟨character :: inside, by simp, rfl, (endsBeforeCons _).2 ⟨notBegins, ends⟩⟩
        · rintro ⟨inside, rfl, whole, ends⟩
          cases inside with
          | nil =>
              rw [whole] at notBegins
              exact absurd (List.prefix_append _ _) notBegins
          | cons next inside =>
              obtain ⟨rfl, rfl⟩ := List.cons.inj whole
              exact ⟨inside, by simp, rfl, ((endsBeforeCons rest).1 ends).2⟩

theorem splitBeforeSome (notEmpty : pattern ≠ []) :
    (Event.splitBefore? pattern before characters).isSome ↔ pattern <:+: characters := by
  induction characters generalizing before with
  | nil => simp [Event.splitBefore?, notEmpty]
  | cons character others inductionHypothesis =>
      rw [Event.splitBefore?, List.infix_cons_iff, ← List.isPrefixOf_iff_prefix]
      split
      case isTrue begins => simp [begins]
      case isFalse notBegins =>
        rw [inductionHypothesis]
        simp [notBegins]

end

/-! ### Markup -/

section

variable {characters rest : List Char} {event : Event}

theorem allLegalIff {content : List Char} : content.all isLegal = true ↔ AllLegal content :=
  List.all_eq_true

theorem commentOfSource {content : List Char} (ends : EndsBefore ['-', '-'] content)
    (legal : AllLegal content) :
    Event.readComment? (content ++ ['-', '-', '>'] ++ rest) = some (.comment content, rest) := by
  have found : Event.splitBefore? ['-', '-'] [] (content ++ ['-', '-', '>'] ++ rest) =
      some (content, '>' :: rest) :=
    (splitBeforeIff (List.cons_ne_nil _ _)).2 ⟨content, rfl, by simp, ends⟩
  simp only [Event.readComment?, found, allLegalIff.2 legal, if_true]

theorem verbatimOfSource {content : List Char} (ends : EndsBefore verbatimClosing content)
    (legal : AllLegal content) :
    Event.readVerbatim? (content ++ verbatimClosing ++ rest) = some (.verbatim content, rest) := by
  have found : Event.splitBefore? verbatimClosing [] (content ++ verbatimClosing ++ rest) =
      some (content, rest) :=
    (splitBeforeIff (List.cons_ne_nil _ _)).2 ⟨content, rfl, List.append_assoc .., ends⟩
  rw [verbatimClosing] at found ⊢
  simp only [Event.readVerbatim?, found, allLegalIff.2 legal, if_true]

theorem instructionOfSource {target spaces content : List Char} (isPart : IsPart target)
    (notReserved : Event.isReserved target = false) (allSpaces : AllSpaces spaces)
    (stops : Text.StopsAt isSpace content) (separated : spaces = [] → content = [])
    (ends : EndsBefore ['?', '>'] (spaces ++ content)) (legal : AllLegal (spaces ++ content)) :
    Event.readInstruction? (target ++ (spaces ++ (content ++ ['?', '>'])) ++ rest) =
      some (.instruction target content, rest) := by
  have stopsTarget : Text.StopsAt isNameContinue (spaces ++ (content ++ '?' :: '>' :: rest)) := by
    cases spaces with
    | nil =>
        rw [separated rfl]
        exact Text.stopsAtCons (by decide)
    | cons space others =>
        exact stopsPart (Text.stopsAtCons (spaceStopsName (allSpaces space (by simp))))
  have foundTarget : QualifiedName.readPart? (target ++ (spaces ++ (content ++ '?' :: '>' :: rest))) =
      some (target, spaces ++ (content ++ '?' :: '>' :: rest)) :=
    readPartIff.2 ⟨rfl, isPart, stopsTarget⟩
  have found : Event.splitBefore? ['?', '>'] [] (spaces ++ (content ++ '?' :: '>' :: rest)) =
      some (spaces ++ content, rest) :=
    (splitBeforeIff (List.cons_ne_nil _ _)).2 ⟨spaces ++ content, rfl, by simp, ends⟩
  have separates : (spaces ++ content).isEmpty = true ∨ content.length < (spaces ++ content).length := by
    cases spaces with
    | nil => simp [separated rfl]
    | cons space others =>
        refine .inr ?_
        simp only [List.length_append, List.length_cons]
        omega
  have accepted := And.intro (allLegalIff.2 legal) separates
  simp only [Event.readInstruction?, List.append_assoc, List.cons_append, List.nil_append,
    foundTarget, found, skipSpaceOf allSpaces stops, notReserved]
  exact if_pos ⟨rfl, accepted⟩

theorem sourceOfComment (found : Event.readComment? characters = some (event, rest)) :
    ∃ content, characters = content ++ ['-', '-', '>'] ++ rest ∧
      EndsBefore ['-', '-'] content ∧ AllLegal content ∧ event = .comment content := by
  unfold Event.readComment? at found
  split at found
  case h_2 => exact nomatch found
  case h_1 content after foundEnd =>
    split at found
    case isFalse => exact nomatch found
    case isTrue legal =>
      obtain ⟨rfl, rfl⟩ := Prod.mk.inj (Option.some.inj found)
      obtain ⟨_, rfl, rfl, ends⟩ := (splitBeforeIff (List.cons_ne_nil _ _)).1 foundEnd
      exact ⟨content, by simp, ends, allLegalIff.1 legal, rfl⟩

theorem sourceOfVerbatim (found : Event.readVerbatim? characters = some (event, rest)) :
    ∃ content, characters = content ++ verbatimClosing ++ rest ∧
      EndsBefore verbatimClosing content ∧ AllLegal content ∧ event = .verbatim content := by
  unfold Event.readVerbatim? at found
  split at found
  case h_2 => exact nomatch found
  case h_1 content after foundEnd =>
    split at found
    case isFalse => exact nomatch found
    case isTrue legal =>
      obtain ⟨rfl, rfl⟩ := Prod.mk.inj (Option.some.inj found)
      obtain ⟨_, rfl, rfl, ends⟩ := (splitBeforeIff (List.cons_ne_nil _ _)).1 foundEnd
      exact ⟨content, by simp [verbatimClosing], ends, allLegalIff.1 legal, rfl⟩

theorem sourceOfInstruction (found : Event.readInstruction? characters = some (event, rest)) :
    ∃ source, characters = source ++ rest ∧ event.IsSource ('?' :: source) := by
  unfold Event.readInstruction? at found
  split at found
  case h_2 => exact nomatch found
  case h_1 target afterTarget foundTarget =>
    split at found
    case h_2 => exact nomatch found
    case h_1 inside after foundEnd =>
      simp only at found
      split at found
      case isFalse => exact nomatch found
      case isTrue accepted =>
        obtain ⟨rfl, rfl⟩ := Prod.mk.inj (Option.some.inj found)
        obtain ⟨notReserved, legal, separates⟩ := accepted
        obtain ⟨_, rfl, rfl, ends⟩ := (splitBeforeIff (List.cons_ne_nil _ _)).1 foundEnd
        obtain ⟨rfl, isPart, -⟩ := readPartIff.1 foundTarget
        obtain ⟨spaces, whole, allSpaces, stops⟩ := skipSpaceSource inside
        generalize skipSpace inside = content at whole stops separates
        subst whole
        refine ⟨_, ?_, .instruction isPart (by simpa using notReserved) allSpaces stops ?_ ends
          (allLegalIff.1 legal)⟩
        · simp
        · rintro rfl
          simpa using separates

/-- A tag begins with a letter, so it is not taken for other markup. -/
theorem tagOfSource {tag : Tag} {isEmpty : Bool} {source : List Char}
    (isSource : tag.IsSource isEmpty source) :
    Event.readMarkup? (source ++ rest) =
      some (if isEmpty then .empty tag else .opening tag, rest) := by
  have foundTag : Tag.read? (source ++ rest) = some ((tag, isEmpty), rest) :=
    Tag.readIff.2 ⟨source, rfl, isSource⟩
  obtain ⟨attributes, rfl, isWritten, -⟩ := isSource
  obtain ⟨first, others, begins, starts⟩ := isWritten.begins
  have notFirst (character : Char) (notStart : isNameStart character = false) :
      first ≠ character := fun same => by simp [same ▸ starts] at notStart
  rw [begins] at foundTag ⊢
  simp only [List.cons_append] at foundTag ⊢
  unfold Event.readMarkup?
  split
  case h_1 same => exact absurd (List.cons.inj same).1 (notFirst _ (by decide))
  case h_2 same => exact absurd (List.cons.inj same).1 (notFirst _ (by decide))
  case h_3 same => exact absurd (List.cons.inj same).1 (notFirst _ (by decide))
  case h_4 same => exact absurd (List.cons.inj same).1 (notFirst _ (by decide))
  case h_5 => rw [foundTag, Option.map_some]

theorem readMarkupIff :
    Event.readMarkup? characters = some (event, rest) ↔
      ∃ source, characters = source ++ rest ∧ event.IsSource source := by
  constructor
  · intro found
    unfold Event.readMarkup? at found
    split at found
    case h_1 =>
      obtain ⟨content, rfl, ends, legal, rfl⟩ := sourceOfComment found
      exact ⟨_, by simp, .comment ends legal⟩
    case h_2 =>
      obtain ⟨content, rfl, ends, legal, rfl⟩ := sourceOfVerbatim found
      exact ⟨_, by simp [verbatimOpening], .verbatim ends legal⟩
    case h_3 =>
      obtain ⟨source, rfl, isSource⟩ := sourceOfInstruction found
      exact ⟨_, rfl, isSource⟩
    case h_4 =>
      obtain ⟨⟨name, after⟩, foundName, same⟩ := Option.map_eq_some_iff.1 found
      obtain ⟨rfl, rfl⟩ := Prod.mk.inj same
      obtain ⟨source, rfl, isSource⟩ := readClosingIff.1 foundName
      exact ⟨_, rfl, .closing isSource⟩
    case h_5 =>
      obtain ⟨⟨⟨tag, isEmpty⟩, after⟩, foundTag, same⟩ := Option.map_eq_some_iff.1 found
      obtain ⟨rfl, rfl⟩ := Prod.mk.inj same
      obtain ⟨source, rfl, isSource⟩ := Tag.readIff.1 foundTag
      cases isEmpty with
      | false => exact ⟨_, rfl, .opening isSource⟩
      | true => exact ⟨_, rfl, .empty isSource⟩
  · rintro ⟨source, rfl, isSource⟩
    cases isSource with
    | opening isSource => exact tagOfSource isSource
    | empty isSource => exact tagOfSource isSource
    | @closing name source isSource =>
        have foundName : readClosing? (source ++ rest) = some (name, rest) :=
          readClosingIff.2 ⟨source, rfl, isSource⟩
        simp [Event.readMarkup?, foundName]
    | comment ends legal => exact commentOfSource ends legal
    | verbatim ends legal => exact verbatimOfSource ends legal
    | instruction isPart notReserved allSpaces stops separated ends legal =>
        exact instructionOfSource isPart notReserved allSpaces stops separated ends legal

end

/-! ### Contents -/

section

variable {raw characters rest : List Char} {event : Event}

theorem readMarkupEvent (characters : List Char) :
    Event.read? ('<' :: characters) = Event.readMarkup? characters := by
  rw [Event.read?]

theorem Event.IsSource.notData {source : List Char} (isSource : event.IsSource source) :
    event ≠ .data raw := by
  rintro rfl
  cases isSource

theorem readDataIff :
    Event.read? characters = some (.data raw, rest) ↔
      characters = raw ++ rest ∧ raw ≠ [] ∧ (∀ character ∈ raw, Event.isData character = true) ∧
        Text.StopsAt Event.isData rest := by
  constructor
  · intro found
    unfold Event.read? at found
    split at found
    case h_1 => exact nomatch found
    case h_2 =>
      obtain ⟨source, -, isSource⟩ := readMarkupIff.1 found
      exact absurd rfl isSource.notData
    case h_3 first others noTag =>
      obtain ⟨same, rfl⟩ := Prod.mk.inj (Option.some.inj found)
      obtain rfl := Event.data.inj same
      have isFirst : Event.isData first = true := decide_eq_true fun same => noTag same
      refine ⟨by simp, List.cons_ne_nil _ _,
        List.forall_mem_cons.2 ⟨isFirst, fun _ => List.mem_takeWhile_imp⟩, ?_⟩
      intro next isNext
      have notAdmitted := List.head?_dropWhile_not Event.isData others
      rw [isNext] at notAdmitted
      exact notAdmitted
  · rintro ⟨rfl, notEmpty, areData, stops⟩
    obtain ⟨first, others, rfl⟩ := List.exists_cons_of_ne_nil notEmpty
    obtain ⟨isFirst, areOthers⟩ := List.forall_mem_cons.1 areData
    have notTag : first ≠ '<' := of_decide_eq_true isFirst
    rw [List.cons_append, Event.read?, Text.takeWhileOfStop areOthers stops,
      Text.dropWhileOfStop areOthers stops]
    exact fun same => notTag same

/-- Every event takes characters from the front. -/
theorem sourceOfEvent (found : Event.read? characters = some (event, rest)) :
    (∃ raw, event = .data raw) ∨
      ∃ source, characters = '<' :: (source ++ rest) ∧ event.IsSource source := by
  cases characters with
  | nil => exact nomatch found
  | cons first others =>
      by_cases opens : first = '<'
      · subst opens
        rw [readMarkupEvent] at found
        obtain ⟨source, rfl, isSource⟩ := readMarkupIff.1 found
        exact .inr ⟨source, rfl, isSource⟩
      · rw [Event.read?] at found
        · exact .inl ⟨_, (Prod.mk.inj (Option.some.inj found)).1.symm⟩
        · exact fun same => opens same

theorem eventOfSource {source : List Char} (isSource : event.IsSource source) (rest : List Char) :
    Event.read? ('<' :: (source ++ rest)) = some (event, rest) := by
  rw [readMarkupEvent]
  exact readMarkupIff.2 ⟨source, rfl, isSource⟩

theorem restShorter (found : Event.read? characters = some (event, rest)) :
    rest.length < characters.length := by
  obtain ⟨raw, rfl⟩ | ⟨source, rfl, -⟩ := sourceOfEvent found
  · obtain ⟨rfl, notEmpty, -, -⟩ := readDataIff.1 found
    have positive := List.length_pos_iff.2 notEmpty
    rw [List.length_append]
    omega
  · simp only [List.length_cons, List.length_append]
    omega

/-- Any fuel that is as long as the characters is enough. -/
theorem readAllFuel {read : List Event} {fuel : Nat} (enough : characters.length ≤ fuel) :
    Event.readAll? read fuel characters =
      (Event.ofContent? characters).map (read.reverse ++ ·) := by
  induction fuel using Nat.strongRecOn generalizing read characters with
  | _ fuel inductionHypothesis =>
      cases characters with
      | nil => simp [Event.ofContent?, Event.readAll?]
      | cons first others =>
          obtain ⟨lower, rfl⟩ : ∃ lower, fuel = lower + 1 :=
            ⟨fuel - 1, by simp only [List.length_cons] at enough; omega⟩
          rw [List.length_cons] at enough
          rw [Event.ofContent?, List.length_cons, Event.readAll?, Event.readAll?]
          · cases found : Event.read? (first :: others) with
            | none => rfl
            | some result =>
                obtain ⟨event, rest⟩ := result
                have shorter := restShorter found
                rw [List.length_cons] at shorter
                simp only
                rw [inductionHypothesis lower (by omega) (by omega),
                  inductionHypothesis others.length (by omega) (by omega), Option.map_map]
                congr 1
                funext events
                simp
          · exact nofun
          · exact nofun

theorem ofContentCons (found : Event.read? characters = some (event, rest)) :
    Event.ofContent? characters = (Event.ofContent? rest).map (event :: ·) := by
  have shorter := restShorter found
  cases characters with
  | nil => exact nomatch found
  | cons first others =>
      rw [List.length_cons] at shorter
      rw [Event.ofContent?, List.length_cons, Event.readAll?, found]
      · simp only
        rw [readAllFuel (by omega)]
        rfl
      · exact nofun

/-- Character data is decoded if it is legal and does not hold the end of verbatim data. -/
theorem decodeDataSomeIff {content : List Char} :
    Event.decodeData? raw = some content ↔
      ¬ verbatimClosing <:+: raw ∧ AllLegal raw ∧ Decodes raw content := by
  have closes : (Event.splitBefore? [']', ']', '>'] [] raw).isSome = true ↔
      verbatimClosing <:+: raw := splitBeforeSome (List.cons_ne_nil _ _)
  unfold Event.decodeData?
  rw [Option.ite_none_left_eq_some, decodeReferencesIff, ← allLegalIff]
  simp [closes, and_assoc]

theorem decodeDataIff :
    (Event.decodeData? raw).isSome = true ↔
      ¬ verbatimClosing <:+: raw ∧ AllLegal raw ∧ IsDecodable raw := by
  simp only [Option.isSome_iff_exists, decodeDataSomeIff, exists_and_left, IsDecodable]

end

end Letterpress.Markup
