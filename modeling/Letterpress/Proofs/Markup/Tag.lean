import Letterpress.Markup.Tag
import Letterpress.Proofs.Markup.Reference
import Letterpress.Proofs.Text.Search
import Mathlib.Data.List.TakeWhile

/-!
This file fixes the sources of names, attributes and tags. A reader takes the source of what it
reads, whatever follows.
-/

namespace Letterpress.Markup

def AllSpaces (characters : List Char) : Prop := ∀ character ∈ characters, isSpace character = true

/-- A part of a name begins with one of the characters that may open it. -/
def IsPart (part : List Char) : Prop :=
  ∃ first others, part = first :: others ∧ isNameStart first = true ∧
    ∀ character ∈ others, isNameContinue character = true

/-- A name ends where neither a letter nor a colon follows. -/
def continuesName (character : Char) : Bool := isNameContinue character || character = ':'

structure QualifiedName.IsWritten (name : QualifiedName) : Prop where
  base : IsPart name.base
  qualifier : name.qualifier = [] ∨ IsPart name.qualifier

/-- A value is assigned between quotes that it does not hold. -/
def IsAssignment (raw source : List Char) : Prop :=
  ∃ before after quotation, source = before ++ '=' :: (after ++ quotation :: (raw ++ [quotation])) ∧
    AllSpaces before ∧ AllSpaces after ∧ (quotation = '"' ∨ quotation = '\'') ∧ quotation ∉ raw

def Attribute.IsSource (found : Attribute) (source : List Char) : Prop :=
  ∃ raw assignment, source = found.name.characters ++ assignment ∧ found.name.IsWritten ∧
    IsAssignment raw assignment ∧ decodeValue? raw = some found.value

/-- The attributes of a tag come with the end of the tag. -/
inductive AttributesSource : List Attribute → Bool → List Char → Prop
  | closing {spaces : List Char} (allSpaces : AllSpaces spaces) :
      AttributesSource [] false (spaces ++ ['>'])
  | empty {spaces : List Char} (allSpaces : AllSpaces spaces) :
      AttributesSource [] true (spaces ++ ['/', '>'])
  | another {spaces source more : List Char} {found : Attribute} {attributes : List Attribute}
      {isEmpty : Bool} (separated : spaces ≠ []) (allSpaces : AllSpaces spaces)
      (isSource : found.IsSource source) (sourceOfMore : AttributesSource attributes isEmpty more) :
      AttributesSource (found :: attributes) isEmpty (spaces ++ (source ++ more))

def Tag.IsSource (tag : Tag) (isEmpty : Bool) (source : List Char) : Prop :=
  ∃ attributes, source = tag.name.characters ++ attributes ∧ tag.name.IsWritten ∧
    AttributesSource tag.attributes isEmpty attributes

def IsClosingSource (name : QualifiedName) (source : List Char) : Prop :=
  ∃ spaces, source = name.characters ++ (spaces ++ ['>']) ∧ name.IsWritten ∧ AllSpaces spaces

/-! ### Names -/

section

variable {part rest characters source other : List Char} {name : QualifiedName}

theorem readPartIff :
    QualifiedName.readPart? characters = some (part, rest) ↔
      characters = part ++ rest ∧ IsPart part ∧ Text.StopsAt isNameContinue rest := by
  constructor
  · intro found
    cases characters with
    | nil => exact nomatch found
    | cons first others =>
        simp only [QualifiedName.readPart?, Option.ite_none_right_eq_some, Option.some.injEq,
          Prod.mk.injEq] at found
        obtain ⟨starts, rfl, rfl⟩ := found
        refine ⟨by simp, ⟨first, _, rfl, starts, fun _ => List.mem_takeWhile_imp⟩, ?_⟩
        intro next isNext
        have notAdmitted := List.head?_dropWhile_not isNameContinue others
        rw [isNext] at notAdmitted
        exact notAdmitted
  · rintro ⟨rfl, ⟨first, others, rfl, starts, continues⟩, stops⟩
    simp [QualifiedName.readPart?, starts, Text.takeWhileOfStop continues stops,
      Text.dropWhileOfStop continues stops]

theorem nameStartContinues {character : Char} (starts : isNameStart character = true) :
    isNameContinue character = true := by
  simp [isNameContinue, starts]

theorem IsPart.continues (isPart : IsPart part) :
    ∀ character ∈ part, isNameContinue character = true := by
  obtain ⟨first, others, rfl, starts, continues⟩ := isPart
  exact List.forall_mem_cons.2 ⟨nameStartContinues starts, continues⟩

theorem stopsBeforeColon (rest : List Char) : Text.StopsAt isNameContinue (':' :: rest) :=
  Text.stopsAtCons (by decide)

theorem stopsPart (stops : Text.StopsAt continuesName rest) : Text.StopsAt isNameContinue rest := by
  intro next isNext
  have stopsNext := stops next isNext
  simp only [continuesName, Bool.or_eq_false_iff] at stopsNext
  exact stopsNext.1

theorem stopsName (stops : Text.StopsAt isNameContinue rest)
    (noColon : ∀ more, rest ≠ ':' :: more) : Text.StopsAt continuesName rest := by
  intro next isNext
  cases rest with
  | nil => exact nomatch isNext
  | cons first more =>
      obtain rfl := Option.some.inj isNext
      have notColon : first ≠ ':' := fun same => noColon more (same ▸ rfl)
      simp [continuesName, stops first rfl, notColon]

theorem readNameIff :
    QualifiedName.read? characters = some (name, rest) ↔
      characters = name.characters ++ rest ∧ name.IsWritten ∧ Text.StopsAt continuesName rest := by
  constructor
  · intro found
    unfold QualifiedName.read? at found
    split at found
    case h_1 => exact nomatch found
    case h_2 qualifier afterColon foundQualifier =>
      obtain ⟨rfl, isQualifier, -⟩ := readPartIff.1 foundQualifier
      split at found
      case h_1 => exact nomatch found
      case h_3 => exact nomatch found
      case h_2 base after noColon foundBase =>
        obtain ⟨rfl, rfl⟩ := Prod.mk.inj (Option.some.inj found)
        obtain ⟨rfl, isBase, stops⟩ := readPartIff.1 foundBase
        refine ⟨?_, ⟨isBase, .inr isQualifier⟩, stopsName stops ?_⟩
        · obtain ⟨first, others, rfl, -, -⟩ := isQualifier
          simp [QualifiedName.characters]
        · rintro more rfl
          exact noColon _ rfl
    case h_3 base after noColon foundBase =>
      obtain ⟨rfl, rfl⟩ := Prod.mk.inj (Option.some.inj found)
      obtain ⟨rfl, isBase, stops⟩ := readPartIff.1 foundBase
      refine ⟨by simp [QualifiedName.characters], ⟨isBase, .inl rfl⟩, stopsName stops ?_⟩
      rintro more rfl
      exact noColon _ rfl
  · rintro ⟨rfl, ⟨isBase, qualifier⟩, stops⟩
    obtain ⟨written, base⟩ := name
    have noColon (more : List Char) : rest ≠ ':' :: more := by
      rintro rfl
      exact absurd (stops ':' rfl) (by decide)
    obtain rfl | isQualifier := qualifier
    · have foundBase := readPartIff.2 ⟨rfl, isBase, stopsPart stops⟩
      simp only [QualifiedName.characters, List.isEmpty_nil, ↓reduceIte, QualifiedName.read?,
        foundBase]
    · have foundQualifier := readPartIff.2 ⟨rfl, isQualifier, stopsBeforeColon (base ++ rest)⟩
      have foundBase := readPartIff.2 ⟨rfl, isBase, stopsPart stops⟩
      have notEmpty : written.isEmpty = false := by
        obtain ⟨first, others, rfl, -, -⟩ := isQualifier
        rfl
      simp only [QualifiedName.characters, notEmpty, Bool.false_eq_true, ↓reduceIte,
        List.append_assoc, List.cons_append, QualifiedName.read?, foundQualifier, foundBase]

theorem spaceStopsName {character : Char} (space : isSpace character = true) :
    continuesName character = false := by
  simp only [isSpace, Bool.or_eq_true, decide_eq_true_eq, or_assoc] at space
  obtain rfl | rfl | rfl | rfl := space <;> decide

theorem QualifiedName.IsWritten.continues (isWritten : name.IsWritten) :
    ∀ character ∈ name.characters, continuesName character = true := by
  obtain ⟨isBase, qualifier⟩ := isWritten
  intro character isInside
  unfold QualifiedName.characters at isInside
  split at isInside
  case isTrue => simp [continuesName, isBase.continues character isInside]
  case isFalse notEmpty =>
    obtain empty | isQualifier := qualifier
    · exact absurd (List.isEmpty_iff.2 empty) notEmpty
    · obtain isInside | isInside := List.mem_append.1 isInside
      · simp [continuesName, isQualifier.continues character isInside]
      · obtain rfl | isInside := List.mem_cons.1 isInside
        · decide
        · simp [continuesName, isBase.continues character isInside]

end

/-! ### Attributes -/

section

variable {raw rest characters source other : List Char} {found : Attribute}

theorem readQuotedIff :
    readQuoted? characters = some (raw, rest) ↔
      ∃ quotation, characters = quotation :: (raw ++ quotation :: rest) ∧
        (quotation = '"' ∨ quotation = '\'') ∧ quotation ∉ raw := by
  constructor
  · intro found
    cases characters with
    | nil => exact nomatch found
    | cons quotation others =>
        simp only [readQuoted?] at found
        split at found
        case isFalse => exact nomatch found
        case isTrue isQuotation =>
          obtain ⟨inside, after, rfl, taken, dropped, admitted, stops⟩ :=
            Text.spanAdmitted (· ≠ quotation) others
          simp only [taken, dropped] at found
          cases after with
          | nil => exact nomatch found
          | cons closing more =>
              obtain ⟨rfl, rfl⟩ := Prod.mk.inj (Option.some.inj found)
              obtain rfl : closing = quotation := by simpa using stops closing rfl
              exact ⟨closing, rfl, isQuotation,
                fun isInside => absurd (admitted closing isInside) (by simp)⟩
  · rintro ⟨quotation, rfl, isQuotation, absent⟩
    have admitted (character : Char) (isInside : character ∈ raw) :
        decide (character ≠ quotation) = true :=
      decide_eq_true fun same => absent (same ▸ isInside)
    have taken : (raw ++ quotation :: rest).takeWhile (· ≠ quotation) = raw :=
      Text.takeWhileOfStop admitted (Text.stopsAtCons (by simp))
    simp only [readQuoted?, if_pos isQuotation, taken, List.drop_left]

theorem skipSpaceOf {spaces : List Char} (allSpaces : AllSpaces spaces)
    (stops : Text.StopsAt isSpace rest) : skipSpace (spaces ++ rest) = rest :=
  Text.dropWhileOfStop allSpaces stops

theorem skipSpaceSource (characters : List Char) :
    ∃ spaces, characters = spaces ++ skipSpace characters ∧ AllSpaces spaces ∧
      Text.StopsAt isSpace (skipSpace characters) := by
  obtain ⟨spaces, rest, rfl, -, -, allSpaces, stops⟩ := Text.spanAdmitted isSpace characters
  rw [skipSpaceOf allSpaces stops]
  exact ⟨spaces, rfl, allSpaces, stops⟩

theorem readAssignedIff :
    readAssigned? characters = some (raw, rest) ↔
      ∃ source, characters = source ++ rest ∧ IsAssignment raw source := by
  constructor
  · intro found
    obtain ⟨before, sourceBefore, allBefore, -⟩ := skipSpaceSource characters
    unfold readAssigned? at found
    split at found
    case h_2 => exact nomatch found
    case h_1 afterEquals begins =>
      obtain ⟨after, sourceAfter, allAfter, -⟩ := skipSpaceSource afterEquals
      obtain ⟨quotation, quoted, isQuotation, absent⟩ := readQuotedIff.1 found
      refine ⟨_, ?_, before, after, quotation, rfl, allBefore, allAfter, isQuotation, absent⟩
      rw [sourceBefore, begins, sourceAfter, quoted]
      simp
  · rintro ⟨source, rfl, before, after, quotation, rfl, allBefore, allAfter, isQuotation, absent⟩
    have notSpace : isSpace quotation = false := by
      obtain rfl | rfl := isQuotation <;> decide
    have skipBefore : skipSpace (before ++ '=' :: (after ++ quotation :: (raw ++ quotation :: rest))) =
        '=' :: (after ++ quotation :: (raw ++ quotation :: rest)) :=
      skipSpaceOf allBefore (Text.stopsAtCons (by decide))
    have skipAfter : skipSpace (after ++ quotation :: (raw ++ quotation :: rest)) =
        quotation :: (raw ++ quotation :: rest) :=
      skipSpaceOf allAfter (Text.stopsAtCons notSpace)
    have quoted : readQuoted? (quotation :: (raw ++ quotation :: rest)) = some (raw, rest) :=
      readQuotedIff.2 ⟨quotation, rfl, isQuotation, absent⟩
    simp only [readAssigned?, List.append_assoc, List.cons_append, List.nil_append, skipBefore,
      skipAfter, quoted]

/-- Blanks stop a name. -/
theorem stopsAtSpaces {spaces more : List Char} (allSpaces : AllSpaces spaces)
    (stops : Text.StopsAt continuesName more) : Text.StopsAt continuesName (spaces ++ more) := by
  cases spaces with
  | nil => exact stops
  | cons space others => exact Text.stopsAtCons (spaceStopsName (allSpaces space (by simp)))

/-- What follows a name in a tag stops it. -/
theorem stopsAtAssignment (isAssignment : IsAssignment raw source) :
    Text.StopsAt continuesName (source ++ rest) := by
  obtain ⟨before, after, quotation, rfl, allBefore, -⟩ := isAssignment
  rw [List.append_assoc]
  exact stopsAtSpaces allBefore (Text.stopsAtCons (by decide))

theorem readAttributeIff :
    readAttribute? characters = some (found, rest) ↔
      ∃ source, characters = source ++ rest ∧ found.IsSource source := by
  constructor
  · intro isFound
    simp only [readAttribute?, Option.bind_eq_bind, Option.bind_eq_some_iff, Option.some.injEq,
      Prod.mk.injEq, Prod.exists] at isFound
    obtain ⟨name, afterName, foundName, raw, after, foundRaw, value, decoded, rfl, rfl⟩ := isFound
    obtain ⟨rfl, isWritten, -⟩ := readNameIff.1 foundName
    obtain ⟨assignment, rfl, isAssignment⟩ := readAssignedIff.1 foundRaw
    exact ⟨_, (List.append_assoc ..).symm, raw, assignment, rfl, isWritten, isAssignment, decoded⟩
  · rintro ⟨source, rfl, raw, assignment, rfl, isWritten, isAssignment, decoded⟩
    have foundName : QualifiedName.read? (found.name.characters ++ (assignment ++ rest)) =
        some (found.name, assignment ++ rest) :=
      readNameIff.2 ⟨rfl, isWritten, stopsAtAssignment isAssignment⟩
    have foundRaw : readAssigned? (assignment ++ rest) = some (raw, rest) :=
      readAssignedIff.2 ⟨assignment, rfl, isAssignment⟩
    simp only [readAttribute?, List.append_assoc, foundName, foundRaw, decoded,
      Option.bind_eq_bind, Option.bind_some]

end

/-! ### Tags -/

section

variable {characters rest source : List Char} {attributes read : List Attribute} {isEmpty : Bool}

theorem QualifiedName.IsWritten.begins {name : QualifiedName} (isWritten : name.IsWritten) :
    ∃ first others, name.characters = first :: others ∧ isNameStart first = true := by
  obtain ⟨⟨first, others, isBase, starts, -⟩, qualifier⟩ := isWritten
  unfold QualifiedName.characters
  split
  case isTrue => exact ⟨first, others, isBase, starts⟩
  case isFalse notEmpty =>
    obtain empty | ⟨first, others, isQualifier, starts, -⟩ := qualifier
    · exact absurd (List.isEmpty_iff.2 empty) notEmpty
    · exact ⟨first, others ++ ':' :: name.base, by rw [isQualifier, List.cons_append], starts⟩

/-- A name opens neither the end of a tag nor a blank. -/
theorem nameStartBounds {character : Char} (starts : isNameStart character = true) :
    character ≠ '>' ∧ character ≠ '/' ∧ isSpace character = false := by
  refine ⟨?_, ?_, ?_⟩
  · rintro rfl
    exact absurd starts (by decide)
  · rintro rfl
    exact absurd starts (by decide)
  · rw [Bool.eq_false_iff]
    intro space
    have stops := spaceStopsName space
    simp [continuesName, nameStartContinues starts] at stops

theorem sourceOfAttributes {fuel : Nat}
    (found : readAttributes? read fuel characters = some ((attributes, isEmpty), rest)) :
    ∃ more source, attributes = read.reverse ++ more ∧ characters = source ++ rest ∧
      AttributesSource more isEmpty source := by
  induction fuel generalizing read characters with
  | zero => exact nomatch found
  | succ fuel inductionHypothesis =>
      obtain ⟨spaces, whole, allSpaces, stops⟩ := skipSpaceSource characters
      rw [readAttributes?] at found
      split at found
      case h_1 others atEnd =>
        obtain ⟨⟨rfl, rfl⟩, rfl⟩ := by simpa only [Option.some.injEq, Prod.mk.injEq] using found
        refine ⟨[], spaces ++ ['>'], (List.append_nil _).symm, ?_, .closing allSpaces⟩
        rw [whole, atEnd]
        simp
      case h_2 others atEnd =>
        obtain ⟨⟨rfl, rfl⟩, rfl⟩ := by simpa only [Option.some.injEq, Prod.mk.injEq] using found
        refine ⟨[], spaces ++ ['/', '>'], (List.append_nil _).symm, ?_, .empty allSpaces⟩
        rw [whole, atEnd]
        simp
      case h_3 =>
        split at found
        case isFalse => exact nomatch found
        case isTrue startsWithBlank =>
          split at found
          case h_2 => exact nomatch found
          case h_1 first afterFirst foundFirst =>
            obtain ⟨source, atAttribute, isSource⟩ := readAttributeIff.1 foundFirst
            obtain ⟨more, sourceMore, rfl, rfl, isSourceMore⟩ := inductionHypothesis found
            refine ⟨first :: more, spaces ++ (source ++ sourceMore), by simp, ?_, ?_⟩
            · rw [whole, atAttribute]
              simp
            · refine .another ?_ allSpaces isSource isSourceMore
              rintro rfl
              rw [whole, List.nil_append] at startsWithBlank
              cases begins : skipSpace characters with
              | nil => simp [startsBlank, begins] at startsWithBlank
              | cons next others =>
                  rw [begins] at stops
                  simp [startsBlank, begins, stops next rfl] at startsWithBlank

theorem attributesOfSource (isSource : AttributesSource attributes isEmpty source)
    (read : List Attribute) (rest : List Char) {fuel : Nat} (enough : attributes.length < fuel) :
    readAttributes? read fuel (source ++ rest) =
      some ((read.reverse ++ attributes, isEmpty), rest) := by
  induction isSource generalizing read fuel with
  | @closing spaces allSpaces =>
      cases fuel with
      | zero => exact absurd enough (Nat.not_lt_zero _)
      | succ fuel =>
          have skipped : skipSpace (spaces ++ '>' :: rest) = '>' :: rest :=
            skipSpaceOf allSpaces (Text.stopsAtCons (by decide))
          simp [readAttributes?, skipped]
  | @empty spaces allSpaces =>
      cases fuel with
      | zero => exact absurd enough (Nat.not_lt_zero _)
      | succ fuel =>
          have skipped : skipSpace (spaces ++ '/' :: '>' :: rest) = '/' :: '>' :: rest :=
            skipSpaceOf allSpaces (Text.stopsAtCons (by decide))
          simp [readAttributes?, skipped]
  | @another spaces source more found attributes isEmpty separated allSpaces isSource _
      inductionHypothesis =>
      cases fuel with
      | zero => exact absurd enough (Nat.not_lt_zero _)
      | succ fuel =>
          have foundFirst : readAttribute? (source ++ (more ++ rest)) = some (found, more ++ rest) :=
            readAttributeIff.2 ⟨source, rfl, isSource⟩
          have foundMore := inductionHypothesis (found :: read) (Nat.lt_of_succ_lt_succ enough)
          obtain ⟨raw, assignment, sourceOfName, isWritten, -⟩ := isSource
          obtain ⟨first, others, begins, starts⟩ := isWritten.begins
          obtain ⟨notEnd, notSlash, notSpace⟩ := nameStartBounds starts
          have sourceBegins : source ++ (more ++ rest) =
              first :: (others ++ (assignment ++ (more ++ rest))) := by
            rw [sourceOfName, begins]
            simp
          have skipped : skipSpace (spaces ++ (source ++ (more ++ rest))) =
              source ++ (more ++ rest) :=
            skipSpaceOf allSpaces (sourceBegins ▸ Text.stopsAtCons notSpace)
          have startsWithBlank : startsBlank (spaces ++ (source ++ (more ++ rest))) = true := by
            obtain ⟨space, others, rfl⟩ := List.exists_cons_of_ne_nil separated
            simp [startsBlank, allSpaces space]
          rw [List.append_assoc, List.append_assoc, readAttributes?, skipped]
          split
          case h_1 same => exact absurd (List.cons.inj (sourceBegins.symm.trans same)).1 notEnd
          case h_2 same => exact absurd (List.cons.inj (sourceBegins.symm.trans same)).1 notSlash
          case h_3 => simp [startsWithBlank, foundFirst, foundMore]

theorem stopsAtAttributes (isSource : AttributesSource attributes isEmpty source) :
    Text.StopsAt continuesName (source ++ rest) := by
  cases isSource with
  | closing allSpaces =>
      rw [List.append_assoc]
      exact stopsAtSpaces allSpaces (Text.stopsAtCons (by decide))
  | empty allSpaces =>
      rw [List.append_assoc]
      exact stopsAtSpaces allSpaces (Text.stopsAtCons (by decide))
  | another separated allSpaces =>
      obtain ⟨space, others, rfl⟩ := List.exists_cons_of_ne_nil separated
      exact Text.stopsAtCons (spaceStopsName (allSpaces space (by simp)))

theorem nameAbsent {name : QualifiedName} {character : Char} (isWritten : name.IsWritten)
    (stops : continuesName character = false) : character ∉ name.characters :=
  fun isInside => by simp [isWritten.continues character isInside] at stops

theorem spacesAbsent {spaces : List Char} {character : Char} (allSpaces : AllSpaces spaces)
    (notSpace : isSpace character = false) : character ∉ spaces :=
  fun isInside => by simp [allSpaces character isInside] at notSpace

theorem decodeValueIff {raw value : List Char} :
    decodeValue? raw = some value ↔ '<' ∉ raw ∧ (∀ character ∈ raw, isLegal character = true) ∧
      Decodes (raw.map blankToSpace) value := by
  unfold decodeValue?
  split
  case isTrue refused =>
    simp only [Bool.or_eq_true, List.contains_iff_mem, Bool.not_eq_true',
      List.all_eq_false] at refused
    refine ⟨nofun, fun ⟨noTag, legal, _⟩ => ?_⟩
    obtain isInside | ⟨character, isInside, notLegal⟩ := refused
    · exact absurd isInside noTag
    · exact absurd (legal character isInside) notLegal
  case isFalse accepted =>
    simp only [Bool.or_eq_true, List.contains_iff_mem, Bool.not_eq_true', not_or,
      Bool.not_eq_false, List.all_eq_true] at accepted
    rw [decodeReferencesIff]
    exact ⟨fun decodes => ⟨accepted.1, accepted.2, decodes⟩, fun ⟨_, _, decodes⟩ => decodes⟩

theorem Attribute.IsSource.noTag {found : Attribute} (isSource : found.IsSource source) :
    '<' ∉ source := by
  obtain ⟨raw, assignment, rfl, isWritten, ⟨before, after, quotation, rfl, allBefore, allAfter,
    isQuotation, -⟩, decoded⟩ := isSource
  have noneInName : '<' ∉ found.name.characters := nameAbsent isWritten (by decide)
  have noneBefore : '<' ∉ before := spacesAbsent allBefore (by decide)
  have noneAfter : '<' ∉ after := spacesAbsent allAfter (by decide)
  have notQuotation : '<' ≠ quotation := by
    obtain rfl | rfl := isQuotation <;> decide
  simp [noneInName, noneBefore, noneAfter, notQuotation, (decodeValueIff.1 decoded).1]

/-- The attributes end before the next tag is opened, and each takes a character. -/
theorem AttributesSource.bounds (isSource : AttributesSource attributes isEmpty source) :
    '<' ∉ source ∧ attributes.length < source.length := by
  induction isSource with
  | @closing spaces allSpaces =>
      have noneInSpaces : '<' ∉ spaces := spacesAbsent allSpaces (by decide)
      simp [noneInSpaces]
  | @empty spaces allSpaces =>
      have noneInSpaces : '<' ∉ spaces := spacesAbsent allSpaces (by decide)
      simp [noneInSpaces]
  | @another spaces _ _ _ _ _ separated allSpaces isSource _ inductionHypothesis =>
      have noneInSpaces : '<' ∉ spaces := spacesAbsent allSpaces (by decide)
      have positive := List.length_pos_iff.2 separated
      refine ⟨by simp [noneInSpaces, isSource.noTag, inductionHypothesis.1], ?_⟩
      simp only [List.length_cons, List.length_append]
      omega

theorem Tag.readIff {tag : Tag} :
    Tag.read? characters = some ((tag, isEmpty), rest) ↔
      ∃ source, characters = source ++ rest ∧ tag.IsSource isEmpty source := by
  constructor
  · intro isFound
    simp only [Tag.read?, Option.bind_eq_bind, Option.bind_eq_some_iff, Option.some.injEq,
      Prod.mk.injEq, Prod.exists] at isFound
    obtain ⟨name, afterName, foundName, found, _, _, foundAttributes, ⟨rfl, rfl⟩, rfl⟩ := isFound
    obtain ⟨rfl, isWritten, -⟩ := readNameIff.1 foundName
    obtain ⟨more, source, rfl, rfl, isSource⟩ := sourceOfAttributes foundAttributes
    exact ⟨_, (List.append_assoc ..).symm, source, rfl, isWritten, isSource⟩
  · rintro ⟨_, rfl, source, rfl, isWritten, isSource⟩
    have foundName : QualifiedName.read? (tag.name.characters ++ (source ++ rest)) =
        some (tag.name, source ++ rest) :=
      readNameIff.2 ⟨rfl, isWritten, stopsAtAttributes isSource⟩
    have enough : tag.attributes.length < attributesBound (source ++ rest) := by
      obtain ⟨noTag, shorter⟩ := isSource.bounds
      have taken : (source ++ rest).takeWhile (· ≠ '<') = source ++ rest.takeWhile (· ≠ '<') :=
        List.takeWhile_append_of_pos fun _ isInside =>
          decide_eq_true fun same => noTag (same ▸ isInside)
      rw [attributesBound, taken, List.length_append]
      omega
    have foundAttributes := attributesOfSource isSource [] rest enough
    simp only [Tag.read?, List.append_assoc, foundName, foundAttributes, Option.bind_eq_bind,
      Option.bind_some, List.reverse_nil, List.nil_append]

theorem readClosingIff {name : QualifiedName} :
    readClosing? characters = some (name, rest) ↔
      ∃ source, characters = source ++ rest ∧ IsClosingSource name source := by
  constructor
  · intro isFound
    simp only [readClosing?, Option.bind_eq_bind, Option.bind_eq_some_iff, Prod.exists] at isFound
    obtain ⟨found, afterName, foundName, closes⟩ := isFound
    obtain ⟨rfl, isWritten, -⟩ := readNameIff.1 foundName
    obtain ⟨spaces, whole, allSpaces, -⟩ := skipSpaceSource afterName
    split at closes
    case h_2 => exact nomatch closes
    case h_1 others atEnd =>
      obtain ⟨rfl, rfl⟩ := Prod.mk.inj (Option.some.inj closes)
      refine ⟨_, ?_, spaces, rfl, isWritten, allSpaces⟩
      rw [whole, atEnd]
      simp
  · rintro ⟨_, rfl, spaces, rfl, isWritten, allSpaces⟩
    have stops : Text.StopsAt continuesName (spaces ++ '>' :: rest) :=
      stopsAtSpaces allSpaces (Text.stopsAtCons (by decide))
    have foundName : QualifiedName.read? (name.characters ++ (spaces ++ '>' :: rest)) =
        some (name, spaces ++ '>' :: rest) :=
      readNameIff.2 ⟨rfl, isWritten, stops⟩
    have skipped : skipSpace (spaces ++ '>' :: rest) = '>' :: rest :=
      skipSpaceOf allSpaces (Text.stopsAtCons (by decide))
    simp [readClosing?, foundName, skipped]

end

end Letterpress.Markup
