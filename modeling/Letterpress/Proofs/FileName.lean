import Letterpress.FileName
import Letterpress.Proofs.Text.Letter
import Letterpress.Proofs.Text.LowerCase

/-!
This file shows that file names which are made safe are safe, end with their extension, and stay as
they are when they are made safe again.
-/

namespace Letterpress.FileName

/-- A name is plain if it can be used as it is, but for an extension. -/
structure IsPlain (name : String) : Prop where
  notEmpty : name ≠ ""
  isStripped : Text.strip name = name
  isSafe : ∀ character ∈ name.toList, isUnsafe character = false

instance (name : String) : Decidable (IsPlain name) :=
  decidable_of_iff (name ≠ "" ∧ Text.strip name = name ∧ name.toList.any isUnsafe = false)
    ⟨fun ⟨notEmpty, isStripped, isSafe⟩ => ⟨notEmpty, isStripped, by simpa using isSafe⟩,
      fun ⟨notEmpty, isStripped, isSafe⟩ => ⟨notEmpty, isStripped, by simpa using isSafe⟩⟩

/-- An extension is made of ASCII letters and digits. It may be written with its point. -/
def IsExtension (extension : String) : Prop :=
  ∃ letters : List Char, (∀ letter ∈ letters, letter.isAlphanum = true) ∧
    (extension.toList = letters ∨ extension.toList = '.' :: letters)

variable {name extension default : String}

/-! ### Safe names -/

theorem replacedIsSafe (character : Char) : isUnsafe (replaceUnsafe character) = false := by
  rw [replaceUnsafe]
  split
  case isTrue => rfl
  case isFalse safe => exact Bool.not_eq_true _ ▸ safe

theorem replaceSafe {characters : List Char}
    (isSafe : ∀ character ∈ characters, isUnsafe character = false) :
    characters.map replaceUnsafe = characters := by
  have unchanged : ∀ character ∈ characters, replaceUnsafe character = id character :=
    fun character isInside => if_neg (Bool.eq_false_iff.1 (isSafe character isInside))
  rw [List.map_congr_left unchanged, List.map_id]

theorem strippedAgain (characters : List Char) :
    Text.stripList (Text.stripList characters) = Text.stripList characters :=
  Text.stripListOfEnds (fun _ => Text.stripListFirst) fun _ => Text.stripListLast

theorem sanitizedIsPlain (isPlain : IsPlain default) (name : String) :
    IsPlain (sanitize name default) := by
  unfold sanitize orDefault
  split
  case isTrue => exact isPlain
  case isFalse =>
    split
    case isTrue => exact isPlain
    case isFalse notEmpty =>
      refine ⟨notEmpty, ?_, ?_⟩
      · rw [Text.strip, String.toList_ofList, strippedAgain]
      · intro character isInside
        rw [String.toList_ofList] at isInside
        obtain ⟨other, -, rfl⟩ := List.mem_map.1 (Text.stripListSubset _ isInside)
        exact replacedIsSafe other

theorem sanitizePlain (isPlain : IsPlain name) (default : String) : sanitize name default = name := by
  rw [sanitize, if_neg isPlain.notEmpty, replaceSafe isPlain.isSafe]
  change orDefault (Text.strip name) default = name
  rw [isPlain.isStripped, orDefault, if_neg isPlain.notEmpty]

theorem IsPlain.first (isPlain : IsPlain name) {first : Char}
    (isFirst : name.toList.head? = some first) : Text.isBlank first = false := by
  rw [← isPlain.isStripped, Text.strip, String.toList_ofList] at isFirst
  exact Text.stripListFirst isFirst

theorem IsPlain.last (isPlain : IsPlain name) {last : Char}
    (isLast : name.toList.getLast? = some last) : Text.isBlank last = false := by
  rw [← isPlain.isStripped, Text.strip, String.toList_ofList] at isLast
  exact Text.stripListLast isLast

/-! ### Endings -/

/-- The name ends with the suffix, up to the case of its letters. -/
def EndsWith (name suffix : String) : Prop :=
  ∃ stem ending : String, name = stem ++ ending ∧ ending.length = suffix.length ∧
    Text.toLower ending = Text.toLower suffix

theorem toLowerSame {first second : String} : Text.toLower first = Text.toLower second ↔
    Text.lowerFrom [] first.toList = Text.lowerFrom [] second.toList := by
  rw [Text.toLower, Text.toLower, String.ofList_inj]

theorem hasSuffixIff {suffix : String} (ascii : Text.IsAscii suffix.toList) :
    hasSuffix name suffix = true ↔ EndsWith name suffix := by
  have isLower : Text.lowerFrom [] suffix.toList = suffix.toList.map Char.toLower :=
    Text.lowerFromAscii ascii []
  have asciiLower : Text.IsAscii (Text.lowerFrom [] suffix.toList) := isLower ▸ Text.asciiToLower ascii
  have sameLength := (Text.lowerToAscii asciiLower).1
  rw [hasSuffix, List.isSuffixOf_iff_suffix, Text.toLower, Text.toLower, String.toList_ofList,
    String.toList_ofList]
  constructor
  · rintro ⟨front, same⟩
    obtain ⟨stem, ending, isName, lowered⟩ := Text.asciiEnd asciiLower same.symm
    obtain ⟨endingLength, sameLower⟩ := Text.lowerToAscii (lowered.symm ▸ asciiLower)
    refine ⟨String.ofList stem, String.ofList ending, ?_, ?_, ?_⟩
    · rw [← String.ofList_append, ← isName, String.ofList_toList]
    · rw [String.length_ofList, ← endingLength, lowered, sameLength, String.length_toList]
    · rw [toLowerSame, String.toList_ofList, sameLower [], lowered]
  · rintro ⟨stem, ending, rfl, -, same⟩
    rw [toLowerSame] at same
    obtain ⟨front, lowered⟩ := Text.lowerFromAppend [] stem.toList ending.toList
    refine ⟨front, ?_⟩
    have asciiEnding : Text.IsAscii (Text.lowerFrom [] ending.toList) := same.symm ▸ asciiLower
    rw [String.toList_append, lowered, (Text.lowerToAscii asciiEnding).2, same]

/-! ### Extensions -/

theorem alphanumericSafe {letter : Char} (alphanumeric : letter.isAlphanum = true) :
    isUnsafe letter = false := by
  have noneUnsafe : ∀ character, isUnsafe character = true → character.isAlphanum = false := by
    simp only [isUnsafe, List.contains_iff_mem, List.forall_mem_cons, List.not_mem_nil,
      false_implies, implies_true, and_true]
    decide
  rw [Bool.eq_false_iff]
  exact fun isUnsafe => Bool.false_ne_true ((noneUnsafe letter isUnsafe).symm.trans alphanumeric)

/-- A dotted extension is a point and letters after it. -/
theorem dottedLetters (isExtension : IsExtension extension) :
    ∃ letters : List Char, (dotted extension).toList = '.' :: letters ∧
      ∀ letter ∈ letters, letter.isAlphanum = true := by
  obtain ⟨letters, alphanumeric, without | withPoint⟩ := isExtension
  · refine ⟨letters, ?_, alphanumeric⟩
    have noPoint : ¬ ['.'].isPrefixOf letters = true := by
      cases letters with
      | nil => decide
      | cons letter rest =>
          have notPoint : letter ≠ '.' := by
            rintro rfl
            exact absurd (alphanumeric '.' List.mem_cons_self) (by decide)
          simpa [List.isPrefixOf] using notPoint.symm
    rw [dotted, without, if_neg noPoint, String.toList_append, without]
    rfl
  · refine ⟨letters, ?_, alphanumeric⟩
    rw [dotted, withPoint, if_pos (by simp [List.isPrefixOf]), withPoint]

section

variable (isExtension : IsExtension extension)
include isExtension

/-- The characters of an extension are harmless, wherever they stand in a name. -/
theorem dottedCharacter {character : Char} (isInside : character ∈ (dotted extension).toList) :
    character.toNat < 128 ∧ isUnsafe character = false ∧ Text.isBlank character = false := by
  obtain ⟨letters, isDotted, alphanumeric⟩ := dottedLetters isExtension
  rw [isDotted] at isInside
  obtain rfl | isLetter := List.mem_cons.1 isInside
  · decide
  · have isAlphanumeric := alphanumeric character isLetter
    have bounds := Text.isAlphanumIff.1 isAlphanumeric
    have isWord : Text.isAsciiWord character = true := by simp [Text.isAsciiWord, isAlphanumeric]
    exact ⟨by omega, alphanumericSafe isAlphanumeric, Text.asciiWordNotBlank isWord⟩

theorem endsWithIff : hasSuffix name (dotted extension) = true ↔ EndsWith name (dotted extension) :=
  hasSuffixIff fun _ isInside => (dottedCharacter isExtension isInside).1

/-- A plain name stays plain when the extension is put behind it. -/
theorem IsPlain.addExtension (isPlain : IsPlain name) : IsPlain (name ++ dotted extension) := by
  obtain ⟨letters, isDotted, -⟩ := dottedLetters isExtension
  obtain ⟨head, tail, isName⟩ := List.exists_cons_of_ne_nil
    (mt String.toList_eq_nil_iff.1 isPlain.notEmpty)
  refine ⟨?_, ?_, ?_⟩
  · rw [ne_eq, ← String.toList_eq_nil_iff, String.toList_append, isName]
    exact List.cons_ne_nil _ _
  · have first : ∀ character, (name ++ dotted extension).toList.head? = some character →
        Text.isBlank character = false := by
      intro character isFirst
      refine isPlain.first ?_
      rw [String.toList_append, isName] at isFirst
      rw [isName]
      exact isFirst
    have last : ∀ character, (name ++ dotted extension).toList.getLast? = some character →
        Text.isBlank character = false := by
      intro character isLast
      rw [String.toList_append, List.getLast?_append_of_ne_nil _ (by simp [isDotted])] at isLast
      exact (dottedCharacter isExtension (List.mem_of_getLast? isLast)).2.2
    rw [Text.strip, Text.stripListOfEnds first last, String.ofList_toList]
  · intro character isInside
    rw [String.toList_append, List.mem_append] at isInside
    exact isInside.elim (isPlain.isSafe character) fun isEnd =>
      (dottedCharacter isExtension isEnd).2.1

/-- A plain name that has its extension stays as it is. -/
theorem ensurePlain (isPlain : IsPlain name) (ends : EndsWith name (dotted extension))
    (default : String) : ensureExtension name extension default = name := by
  simp only [ensureExtension, sanitizePlain isPlain, (endsWithIff isExtension).2 ends, if_true]

theorem ensuredIsFinished (isPlain : IsPlain default) (name : String) :
    IsPlain (ensureExtension name extension default) ∧
      EndsWith (ensureExtension name extension default) (dotted extension) ∧
        (sanitize name default).toList <+: (ensureExtension name extension default).toList := by
  have sanitized := sanitizedIsPlain isPlain name
  rw [ensureExtension]
  split
  case isTrue ends => exact ⟨sanitized, (endsWithIff isExtension).1 ends, List.prefix_rfl⟩
  case isFalse =>
    refine ⟨sanitized.addExtension isExtension, ⟨_, _, rfl, rfl, rfl⟩, ?_⟩
    rw [String.toList_append]
    exact List.prefix_append _ _

/-- A file name that is made safe has none of the unsafe characters and no blank at its ends. It is
the sanitized name with the extension at its end, in letters of either case, and it stays as it is
when it is made safe again. -/
theorem safeNameIsStable (isPlain : IsPlain default) (name : String) :
    let ensured := ensureExtension name extension default
    (∀ character ∈ ensured.toList, isUnsafe character = false) ∧
      (∀ first, ensured.toList.head? = some first → Text.isBlank first = false) ∧
      (∀ last, ensured.toList.getLast? = some last → Text.isBlank last = false) ∧
      EndsWith ensured (dotted extension) ∧
      (sanitize name default).toList <+: ensured.toList ∧
      ensureExtension ensured extension default = ensured := by
  obtain ⟨plain, ends, begins⟩ := ensuredIsFinished isExtension isPlain name
  exact ⟨plain.isSafe, fun _ => plain.first, fun _ => plain.last, ends, begins,
    ensurePlain isExtension plain ends default⟩

end

/-- The name has blanks around it, an unsafe character, and the extension in capital letters. -/
theorem capitalExtensionIsStable :
    IsExtension "pdf" ∧ IsPlain "document" ∧
      let ensured := ensureExtension " 2024/Σ.PDF\n" "pdf" "document"
      (∀ character ∈ ensured.toList, isUnsafe character = false) ∧
        (∀ first, ensured.toList.head? = some first → Text.isBlank first = false) ∧
        (∀ last, ensured.toList.getLast? = some last → Text.isBlank last = false) ∧
        EndsWith ensured (dotted "pdf") ∧
        (sanitize " 2024/Σ.PDF\n" "document").toList <+: ensured.toList ∧
        ensureExtension ensured "pdf" "document" = ensured := by
  have isExtension : IsExtension "pdf" :=
    ⟨['p', 'd', 'f'], List.all_eq_true.1 (by decide), .inl rfl⟩
  have isPlain : IsPlain "document" := by decide
  exact ⟨isExtension, isPlain, safeNameIsStable isExtension isPlain " 2024/Σ.PDF\n"⟩

end Letterpress.FileName
