import Letterpress.Markup.Document
import Letterpress.Proofs.Markup.Tag

/-!
This file takes apart what a document has before its content: a mark, a declaration, an encoding and
line ends of several kinds.
-/

namespace Letterpress.Markup

/-- This is how an encoding reads what was written as a character. -/
def Encoding.write (encoding : Encoding) (character : Char) : List Char :=
  match encoding with
  | latin1 => (String.utf8EncodeChar character).map fun byte => Char.ofNat byte.toNat
  | utf8 => [character]
  | ascii => [character]

/-- The declaration of a document names the encoding of what follows it. -/
def splitDeclaration? (characters : List Char) : Option (Encoding × List Char) :=
  if hasDeclaration characters then do
    let (name, rest) ← readDeclaration? (characters.drop declarationOpening.length)
    some (← encodingOf? name, rest)
  else some (.utf8, characters)

/-- An item of the declaration may be missing. Blanks stand before it. -/
def IsOptionalItem (word : String) (isValid : List Char → Bool) (value : Option (List Char))
    (source : List Char) : Prop :=
  (value = none ∧ source = []) ∨
    ∃ spaces raw assignment, value = some raw ∧ source = spaces ++ (word.toList ++ assignment) ∧
      spaces ≠ [] ∧ AllSpaces spaces ∧ IsAssignment raw assignment ∧ isValid raw = true

/-- This is the source of a declaration after its opening. It may name an encoding. -/
def IsDeclaration (encoding : Option (List Char)) (source : List Char) : Prop :=
  ∃ spaces version assignment encodingSource standalone standaloneSource lastSpaces,
    source = spaces ++ ("version".toList ++ (assignment ++ (encodingSource ++
      (standaloneSource ++ (lastSpaces ++ ['?', '>']))))) ∧
      AllSpaces spaces ∧ IsAssignment version assignment ∧ isVersion version = true ∧
        IsOptionalItem "encoding" isEncodingName encoding encodingSource ∧
          IsOptionalItem "standalone" isYesOrNo standalone standaloneSource ∧ AllSpaces lastSpaces

/-- The events of a document are those of its content. -/
def eventsOf? (text : String) : Option (List Event) :=
  (body? (dropMark text.toList)).bind fun body => Event.ofContent? (normalizeLines body)

theorem readDocumentIff {text : String} {root : Node} :
    readDocument? text = some root ↔
      ∃ events, eventsOf? text = some events ∧ Node.ofEvents? events = some root := by
  simp only [readDocument?, eventsOf?, Option.bind_eq_bind, Option.bind_eq_some_iff]
  constructor
  · rintro ⟨body, isBody, events, areEvents, built⟩
    exact ⟨events, ⟨body, isBody, areEvents⟩, built⟩
  · rintro ⟨events, ⟨body, isBody, areEvents⟩, built⟩
    exact ⟨body, isBody, events, areEvents, built⟩

theorem bodyIff {characters body : List Char} :
    body? characters = some body ↔
      ∃ encoding rest, splitDeclaration? characters = some (encoding, rest) ∧
        encoding.reread? rest = some body := by
  unfold body? splitDeclaration?
  split
  · simp only [Option.bind_eq_bind, Option.bind_eq_some_iff, Option.some.injEq, Prod.mk.injEq,
      Prod.exists]
    constructor
    · rintro ⟨name, rest, declared, encoding, isEncoding, reread⟩
      exact ⟨encoding, rest, ⟨name, rest, declared, encoding, isEncoding, rfl, rfl⟩, reread⟩
    · rintro ⟨encoding, rest, ⟨name, _, declared, _, isEncoding, rfl, rfl⟩, reread⟩
      exact ⟨name, _, declared, _, isEncoding, reread⟩
  · simp [Encoding.reread?]

/-! ### Encodings -/

section

variable {characters body : List Char} {encoding : Encoding}

theorem toListLoop (bytes : ByteArray) (index : Nat) (read : List UInt8) :
    ByteArray.toList.loop bytes index read = read.reverse ++ bytes.data.toList.drop index := by
  induction index, read using ByteArray.toList.loop.induct bytes with
  | case1 index read inside inductionHypothesis =>
      have inList : index < bytes.data.toList.length := by simpa using inside
      have byte : bytes.get! index = bytes.data.toList[index] := by
        rw [Array.getElem_toList]
        exact getElem!_pos bytes.data index inside
      rw [ByteArray.toList.loop, if_pos inside, inductionHypothesis,
        List.drop_eq_getElem_cons inList, byte]
      simp
  | case2 index read outside =>
      have atEnd : bytes.data.toList.length ≤ index := by simpa using outside
      rw [ByteArray.toList.loop, if_neg outside, List.drop_of_length_le atEnd, List.append_nil]

theorem bytesOfCharacters (characters : List Char) :
    (bytesOf characters).toList = characters.flatMap String.utf8EncodeChar := by
  rw [ByteArray.toList, toListLoop]
  simp [bytesOf, List.utf8Encode]

theorem rereadIff :
    encoding.reread? characters = some body ↔
      (encoding = .ascii → ∀ character ∈ characters, character.toNat < 128) ∧
        body = characters.flatMap encoding.write := by
  cases encoding with
  | utf8 =>
      have same : characters.flatMap Encoding.utf8.write = characters := List.flatMap_singleton' _
      simp only [Encoding.reread?, same, Option.some.injEq, reduceCtorEq, false_implies, true_and]
      exact eq_comm
  | latin1 =>
      have same : (bytesOf characters).toList.map (fun byte => Char.ofNat byte.toNat) =
          characters.flatMap Encoding.latin1.write := by
        rw [bytesOfCharacters, List.map_flatMap]
        rfl
      simp only [Encoding.reread?, same, Option.some.injEq, reduceCtorEq, false_implies, true_and]
      exact eq_comm
  | ascii =>
      have same : characters.flatMap Encoding.ascii.write = characters := List.flatMap_singleton' _
      simp only [Encoding.reread?, same, Option.ite_none_right_eq_some, List.all_eq_true,
        decide_eq_true_eq, Option.some.injEq, true_implies]
      exact and_congr_right fun _ => eq_comm

theorem byteCharacter {code : Nat} (isByte : code < 256) :
    (Char.ofNat (UInt8.ofNat code).toNat).toNat = code := by
  have isValid : code.isValidChar := .inl (by omega)
  rw [UInt8.toNat_ofNat_of_lt' isByte, Char.ofNat, dif_pos isValid]
  rfl

theorem writeAscii {character : Char} (ascii : character.toNat < 128) :
    encoding.write character = [character] := by
  cases encoding with
  | utf8 => rfl
  | ascii => rfl
  | latin1 =>
      have isShort : character.val.toNat ≤ 0x7f := Nat.le_of_lt_succ ascii
      simp only [Encoding.write, String.utf8EncodeChar, if_pos isShort, List.map_cons, List.map_nil]
      exact congrArg (fun written => [written]) (Char.toNat_inj.1 (byteCharacter (by omega)))

theorem writeOutside {character : Char} (outside : 128 ≤ character.toNat) :
    encoding.write character ≠ [] ∧ ∀ written ∈ encoding.write character, 128 ≤ written.toNat := by
  have same : [character] ≠ [] ∧ ∀ written ∈ [character], 128 ≤ written.toNat :=
    ⟨List.cons_ne_nil _ _, List.forall_mem_singleton.2 outside⟩
  cases encoding with
  | utf8 => exact same
  | ascii => exact same
  | latin1 =>
      refine ⟨by simp [Encoding.write], ?_⟩
      have isLong : ¬ character.val.toNat ≤ 0x7f := Nat.not_le.2 outside
      simp only [Encoding.write, String.utf8EncodeChar, if_neg isLong]
      have highByte {code : Nat} (lower : 128 ≤ code) (upper : code < 256) :
          128 ≤ (Char.ofNat (UInt8.ofNat code).toNat).toNat := (byteCharacter upper).symm ▸ lower
      split_ifs
      all_goals
        simp only [List.map_cons, List.map_nil, List.forall_mem_cons, List.not_mem_nil,
          false_implies, implies_true, and_true]
      · exact ⟨highByte (by omega) (by omega), highByte (by omega) (by omega)⟩
      · exact ⟨highByte (by omega) (by omega), highByte (by omega) (by omega),
          highByte (by omega) (by omega)⟩
      · exact ⟨highByte (by omega) (by omega), highByte (by omega) (by omega),
          highByte (by omega) (by omega), highByte (by omega) (by omega)⟩

end

/-! ### Declarations -/

section

variable {characters raw rest source : List Char} {word : String} {isValid : List Char → Bool}

theorem readItemIff :
    readItem? word characters = some (raw, rest) ↔
      ∃ assignment, characters = word.toList ++ (assignment ++ rest) ∧
        IsAssignment raw assignment := by
  simp only [readItem?, Option.ite_none_right_eq_some, List.isPrefixOf_iff_prefix, readAssignedIff]
  constructor
  · rintro ⟨⟨others, rfl⟩, assignment, afterWord, isAssignment⟩
    rw [← String.length_toList, List.drop_left] at afterWord
    exact ⟨assignment, by rw [afterWord], isAssignment⟩
  · rintro ⟨assignment, rfl, isAssignment⟩
    exact ⟨List.prefix_append _ _, assignment, by rw [← String.length_toList, List.drop_left],
      isAssignment⟩

theorem sourceOfOptional {value : Option (List Char)}
    (found : readOptional? word isValid characters = some (value, rest)) :
    ∃ source, characters = source ++ rest ∧ IsOptionalItem word isValid value source := by
  obtain ⟨spaces, whole, allSpaces, -⟩ := skipSpaceSource characters
  unfold readOptional? at found
  simp only at found
  split at found
  case isFalse =>
    obtain ⟨rfl, rfl⟩ := Prod.mk.inj (Option.some.inj found)
    exact ⟨[], rfl, .inl ⟨rfl, rfl⟩⟩
  case isTrue begins =>
    split at found
    case h_2 => exact nomatch found
    case h_1 raw after foundItem =>
      obtain ⟨valid, same⟩ := Option.ite_none_right_eq_some.1 found
      obtain ⟨rfl, rfl⟩ := Prod.mk.inj (Option.some.inj same)
      obtain ⟨assignment, atWord, isAssignment⟩ := readItemIff.1 foundItem
      refine ⟨spaces ++ (word.toList ++ assignment), ?_, .inr ⟨spaces, raw, assignment, rfl, rfl, ?_,
        allSpaces, isAssignment, valid⟩⟩
      · rw [whole, atWord]
        simp only [List.append_assoc]
      · rintro rfl
        rw [List.nil_append] at whole
        exact absurd begins.2 (by rw [← whole]; exact Nat.lt_irrefl _)

/-- An item is read whatever follows that does not begin with the same letter. -/
theorem optionalOfSource {value : Option (List Char)} {letter : Char}
    (isItem : IsOptionalItem word isValid value source) (begins : word.toList.head? = some letter)
    (notSpace : isSpace letter = false) (notNext : (skipSpace rest).head? ≠ some letter) :
    readOptional? word isValid (source ++ rest) = some (value, rest) := by
  unfold readOptional?
  obtain ⟨rfl, rfl⟩ | ⟨spaces, raw, assignment, rfl, rfl, separated, allSpaces, isAssignment, valid⟩ :=
    isItem
  · refine if_neg fun ⟨isPrefix, _⟩ => notNext ?_
    obtain ⟨others, same⟩ := List.isPrefixOf_iff_prefix.1 isPrefix
    rw [List.nil_append] at same
    rw [← same, List.head?_append, begins]
    rfl
  · have stops : Text.StopsAt isSpace (word.toList ++ (assignment ++ rest)) := by
      intro next isNext
      rw [List.head?_append, begins] at isNext
      exact Option.some.inj isNext ▸ notSpace
    have skipped := skipSpaceOf allSpaces stops
    have foundItem : readItem? word (word.toList ++ (assignment ++ rest)) = some (raw, rest) :=
      readItemIff.2 ⟨assignment, rfl, isAssignment⟩
    have shorter : (word.toList ++ (assignment ++ rest)).length <
        (spaces ++ (word.toList ++ (assignment ++ rest))).length := by
      have positive := List.length_pos_iff.2 separated
      simp only [List.length_append]
      omega
    simp only [List.append_assoc, skipped, foundItem, valid, if_true]
    exact if_pos ⟨List.isPrefixOf_iff_prefix.2 (List.prefix_append _ _), shorter⟩

/-- An item that is not missing is the next thing after the blanks. -/
theorem nextOfOptional {value : Option (List Char)} {letter : Char}
    (isItem : IsOptionalItem word isValid value source) (begins : word.toList.head? = some letter)
    (notSpace : isSpace letter = false) (rest : List Char) :
    source = [] ∨ (skipSpace (source ++ rest)).head? = some letter := by
  obtain ⟨-, rfl⟩ | ⟨spaces, raw, assignment, -, rfl, -, allSpaces, -⟩ := isItem
  · exact .inl rfl
  · have isNext : (word.toList ++ (assignment ++ rest)).head? = some letter := by
      rw [List.head?_append, begins]
      rfl
    have stops : Text.StopsAt isSpace (word.toList ++ (assignment ++ rest)) := fun next same =>
      Option.some.inj (isNext.symm.trans same) ▸ notSpace
    rw [List.append_assoc, List.append_assoc, skipSpaceOf allSpaces stops]
    exact .inr isNext

theorem assignmentAbsent {character : Char} (isAssignment : IsAssignment raw source)
    (notMarkup : isSpace character = false ∧ character ≠ '=' ∧ character ≠ '"' ∧ character ≠ '\'')
    (absent : character ∉ raw) : character ∉ source := by
  obtain ⟨before, after, quotation, rfl, allBefore, allAfter, isQuotation, -⟩ := isAssignment
  obtain ⟨notSpace, notEquals, notDouble, notSingle⟩ := notMarkup
  have notQuotation : character ≠ quotation := by
    obtain rfl | rfl := isQuotation
    · exact notDouble
    · exact notSingle
  simp [spacesAbsent allBefore notSpace, spacesAbsent allAfter notSpace, notEquals, notQuotation, absent]

theorem optionalAbsent {value : Option (List Char)} (isItem : IsOptionalItem word isValid value source)
    (noneInWord : '[' ∉ word.toList) (noneInValid : ∀ raw, isValid raw = true → '[' ∉ raw) :
    '[' ∉ source := by
  obtain ⟨-, rfl⟩ | ⟨spaces, raw, assignment, -, rfl, -, allSpaces, isAssignment, valid⟩ := isItem
  · exact List.not_mem_nil
  · have noneInAssignment := assignmentAbsent isAssignment (by decide) (noneInValid raw valid)
    simp [spacesAbsent allSpaces (show isSpace '[' = false by decide), noneInWord, noneInAssignment]

theorem versionAbsent (valid : isVersion raw = true) : '[' ∉ raw := by
  unfold isVersion at valid
  split at valid
  case h_2 => exact nomatch valid
  case h_1 digits =>
    intro isInside
    obtain same | isInside := List.mem_cons.1 isInside
    · exact absurd same (by decide)
    · obtain same | isInside := List.mem_cons.1 isInside
      · exact absurd same (by decide)
      · exact absurd (List.all_eq_true.1 valid _ isInside) (by decide)

theorem encodingNameAbsent (valid : isEncodingName raw = true) : '[' ∉ raw := by
  cases raw with
  | nil => exact nomatch valid
  | cons first others =>
      obtain ⟨isFirst, areOthers⟩ := Bool.and_eq_true_iff.1 valid
      intro isInside
      obtain rfl | isInside := List.mem_cons.1 isInside
      · exact absurd isFirst (by decide)
      · exact absurd (List.all_eq_true.1 areOthers _ isInside) (by decide)

theorem yesOrNoAbsent (valid : isYesOrNo raw = true) : '[' ∉ raw := by
  simp only [isYesOrNo, Bool.or_eq_true, decide_eq_true_eq] at valid
  obtain rfl | rfl := valid <;> decide

theorem IsDeclaration.absent {encoding : Option (List Char)}
    (isDeclaration : IsDeclaration encoding source) : '[' ∉ source := by
  obtain ⟨spaces, version, assignment, encodingSource, standalone, standaloneSource, lastSpaces, rfl,
    allSpaces, isAssignment, valid, isEncoding, isStandalone, allLastSpaces⟩ := isDeclaration
  have noSpace : isSpace '[' = false := by decide
  have noneInAssignment := assignmentAbsent isAssignment (by decide) (versionAbsent valid)
  have noneInEncoding := optionalAbsent isEncoding (by decide) fun _ => encodingNameAbsent
  have noneInStandalone := optionalAbsent isStandalone (by decide) fun _ => yesOrNoAbsent
  simp [spacesAbsent allSpaces noSpace, spacesAbsent allLastSpaces noSpace, noneInAssignment,
    noneInEncoding, noneInStandalone]

theorem IsDeclaration.notEmpty {encoding : Option (List Char)}
    (isDeclaration : IsDeclaration encoding source) : source ≠ [] := by
  obtain ⟨spaces, version, assignment, encodingSource, standalone, standaloneSource, lastSpaces, rfl,
    -⟩ := isDeclaration
  simp

theorem readDeclarationIff {encoding : Option (List Char)} :
    readDeclaration? characters = some (encoding, rest) ↔
      ∃ source, characters = source ++ rest ∧ IsDeclaration encoding source := by
  constructor
  · intro found
    simp only [readDeclaration?, Option.bind_eq_bind, Option.bind_eq_some_iff, Prod.exists] at found
    obtain ⟨version, afterVersion, foundVersion, named, afterEncoding, foundEncoding, standalone,
      afterStandalone, foundStandalone, closes⟩ := found
    obtain ⟨spaces, whole, allSpaces, -⟩ := skipSpaceSource characters
    obtain ⟨assignment, atVersion, isAssignment⟩ := readItemIff.1 foundVersion
    obtain ⟨encodingSource, rfl, isEncoding⟩ := sourceOfOptional foundEncoding
    obtain ⟨standaloneSource, rfl, isStandalone⟩ := sourceOfOptional foundStandalone
    obtain ⟨lastSpaces, wholeEnd, allLastSpaces, -⟩ := skipSpaceSource afterStandalone
    split at closes
    case h_2 => exact nomatch closes
    case h_1 others valid atEnd =>
      obtain ⟨rfl, rfl⟩ := Prod.mk.inj (Option.some.inj closes)
      refine ⟨_, ?_, spaces, version, assignment, encodingSource, standalone, standaloneSource,
        lastSpaces, rfl, allSpaces, isAssignment, valid, isEncoding, isStandalone, allLastSpaces⟩
      rw [whole, atVersion, wholeEnd, atEnd]
      simp
  · rintro ⟨_, rfl, spaces, version, assignment, encodingSource, standalone, standaloneSource,
      lastSpaces, rfl, allSpaces, isAssignment, valid, isEncoding, isStandalone, allLastSpaces⟩
    generalize isEnd : lastSpaces ++ '?' :: '>' :: rest = ending
    have skippedEnd : skipSpace ending = '?' :: '>' :: rest :=
      isEnd ▸ skipSpaceOf allLastSpaces (Text.stopsAtCons (by decide))
    have skipped (text : List Char) : skipSpace (spaces ++ ("version".toList ++ text)) =
        "version".toList ++ text := skipSpaceOf allSpaces (Text.stopsAtCons (by decide))
    have notEncoding : (skipSpace (standaloneSource ++ ending)).head? ≠ some 'e' := by
      obtain rfl | isNext :=
        nextOfOptional isStandalone (show _ = some 's' by decide) (by decide) ending
      · rw [List.nil_append, skippedEnd]
        simp
      · rw [isNext]
        decide
    have notStandalone : (skipSpace ending).head? ≠ some 's' := by
      rw [skippedEnd]
      simp
    have isVersionItem : readItem? "version" ("version".toList ++
        (assignment ++ (encodingSource ++ (standaloneSource ++ ending)))) =
          some (version, encodingSource ++ (standaloneSource ++ ending)) :=
      readItemIff.2 ⟨assignment, rfl, isAssignment⟩
    have isEncodingItem := optionalOfSource isEncoding (by decide) (by decide) notEncoding
    have isStandaloneItem := optionalOfSource isStandalone (by decide) (by decide) notStandalone
    simp only [readDeclaration?, List.append_assoc, List.cons_append, List.nil_append, isEnd,
      skipped, isVersionItem, isEncodingItem, isStandaloneItem, Option.bind_eq_bind,
      Option.bind_some, valid, skippedEnd]

/-- What stands before a content has no brackets, and it is read whatever follows. -/
theorem sourceOfDeclared {encoding : Encoding}
    (found : splitDeclaration? characters = some (encoding, rest))
    (declared : hasDeclaration characters = true) :
    ∃ source, characters = source ++ rest ∧ '[' ∉ source ∧
      ∀ other, splitDeclaration? (source ++ other) = some (encoding, other) := by
  simp only [splitDeclaration?, declared, if_true, Option.bind_eq_bind, Option.bind_eq_some_iff,
    Option.some.injEq, Prod.mk.injEq, Prod.exists] at found
  obtain ⟨name, after, foundDeclaration, encoding, isEncoding, rfl, rfl⟩ := found
  obtain ⟨source, afterOpening, isDeclaration⟩ := readDeclarationIff.1 foundDeclaration
  obtain ⟨begins, separated⟩ := Bool.and_eq_true_iff.1 declared
  obtain ⟨others, rfl⟩ := List.isPrefixOf_iff_prefix.1 begins
  rw [List.drop_left] at afterOpening separated
  subst afterOpening
  have noneInOpening : '[' ∉ declarationOpening := by decide
  refine ⟨declarationOpening ++ source, (List.append_assoc ..).symm,
    by simp [noneInOpening, isDeclaration.absent], fun other => ?_⟩
  have declaredOther : hasDeclaration (declarationOpening ++ source ++ other) = true := by
    have notEmpty := isDeclaration.notEmpty
    rw [hasDeclaration, List.append_assoc, List.drop_left, List.head?_append_of_ne_nil _ notEmpty]
    rw [List.head?_append_of_ne_nil _ notEmpty] at separated
    rw [separated, List.isPrefixOf_iff_prefix.2 (List.prefix_append _ _)]
    rfl
  have readsOther : readDeclaration? (source ++ other) = some (name, other) :=
    readDeclarationIff.2 ⟨source, rfl, isDeclaration⟩
  rw [splitDeclaration?, if_pos declaredOther, List.append_assoc, List.drop_left, readsOther]
  simp only [Option.bind_eq_bind, Option.bind_some, isEncoding]

/-- The opening of a declaration comes with a blank. -/
theorem declaredIff :
    hasDeclaration characters = true ↔
      ∃ space others, isSpace space = true ∧ characters = declarationOpening ++ space :: others := by
  rw [hasDeclaration, Bool.and_eq_true_iff, List.isPrefixOf_iff_prefix]
  constructor
  · rintro ⟨⟨others, rfl⟩, separated⟩
    rw [List.drop_left] at separated
    cases others with
    | nil => exact nomatch separated
    | cons space others => exact ⟨space, others, separated, rfl⟩
  · rintro ⟨space, others, isBlank, rfl⟩
    rw [List.drop_left]
    exact ⟨List.prefix_append _ _, isBlank⟩

end

/-! ### Line ends -/

theorem normalizeLinesCons (character : Char) (rest : List Char) :
    normalizeLines (character :: rest) =
      normalizeLine character rest.head? ++ normalizeLines rest := by
  cases rest with
  | nil => simp [normalizeLines]
  | cons next others => simp [normalizeLines]

/-- Characters other than carriage returns stay. -/
theorem normalizeLinesFront {front : List Char} (noReturn : '\r' ∉ front) (rest : List Char) :
    normalizeLines (front ++ rest) = front ++ normalizeLines rest := by
  induction front with
  | nil => rfl
  | cons character front inductionHypothesis =>
      obtain ⟨notReturn, noReturnRest⟩ := List.ne_and_not_mem_of_not_mem_cons noReturn
      have kept (next : Option Char) : normalizeLine character next = [character] :=
        if_neg (Ne.symm notReturn)
      rw [List.cons_append, normalizeLinesCons, kept, inductionHypothesis noReturnRest]
      rfl

/-- Line ends are normalized on both sides of any character but a line feed. -/
theorem normalizeLinesBefore {character : Char} (notFeed : character ≠ '\n') (front back : List Char) :
    normalizeLines (front ++ character :: back) =
      normalizeLines front ++ normalizeLines (character :: back) := by
  induction front with
  | nil => rfl
  | cons first front inductionHypothesis =>
      have sameLine : normalizeLine first (front ++ character :: back).head? =
          normalizeLine first front.head? := by
        cases front with
        | nil => simp [normalizeLine, notFeed]
        | cons => rfl
      rw [List.cons_append, normalizeLinesCons, normalizeLinesCons, inductionHypothesis, sameLine,
        List.append_assoc]

theorem normalizedAbsent {character : Char} (notFeed : character ≠ '\n') {text : List Char}
    (absent : character ∉ text) : character ∉ normalizeLines text := by
  induction text with
  | nil => exact absent
  | cons first rest inductionHypothesis =>
      obtain ⟨notFirst, absentRest⟩ := List.ne_and_not_mem_of_not_mem_cons absent
      rw [normalizeLinesCons, List.mem_append, not_or]
      refine ⟨?_, inductionHypothesis absentRest⟩
      unfold normalizeLine
      split_ifs <;> simp [notFeed, notFirst]

end Letterpress.Markup
