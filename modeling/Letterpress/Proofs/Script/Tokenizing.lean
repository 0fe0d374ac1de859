import Letterpress.Proofs.Number.Digits
import Letterpress.Proofs.Script.Printing
import Letterpress.Proofs.Text.Letter
import Letterpress.Proofs.Text.Splitting
import Mathlib.Tactic.SplitIfs

/-!
This file shows that the text of a printed program is cut into the words that were printed, and that
quoted texts keep their meaning.
-/

namespace Letterpress.Script

/-! ### Cutting -/

/-- The text is cut into tokens with these words, wherever it stands in a source. -/
def Cuts (characters : List Char) (words : List Word) : Prop :=
  ∀ position, ∃ tokens, tokens.map Token.word = words ∧
    ∀ source cut fuel, characters.length ≤ fuel →
      Token.cutFrom source cut fuel position characters = .ok (cut.reverse ++ tokens)

theorem cutsEnd : Cuts [] [Word.finish] := by
  intro position
  refine ⟨[⟨.finish, "", position⟩], rfl, ?_⟩
  intro source cut fuel _
  cases fuel <;> simp [Token.cutFrom]

theorem cutsBlank {blank : Char} {rest : List Char} {words : List Word}
    (isBlank : Text.isBlank blank = true) (cuts : Cuts rest words) :
    Cuts (blank :: rest) words := by
  intro position
  obtain ⟨tokens, sameWords, reads⟩ := cuts (position + 1)
  refine ⟨tokens, sameWords, ?_⟩
  intro source cut fuel enough
  cases fuel with
  | zero => exact absurd enough (Nat.not_succ_le_zero _)
  | succ fuel =>
      rw [Token.cutFrom, if_pos isBlank]
      exact reads source cut fuel (Nat.le_of_succ_le_succ enough)

/-- A text begins with a word if the word is not blank and is the first token of the text. -/
structure BeginsWith (word : Word) (rest : List Char) : Prop where
  notBlank : ∃ first more, word.text.toList = first :: more ∧ Text.isBlank first = false
  starts : Token.start? (word.text.toList ++ rest) = some (word.kind, word.text.toList.length)

/-- A word that a text begins with is cut off as one token. -/
theorem cutFromWord {word : Word} {rest : List Char} (begins : BeginsWith word rest)
    (source : String) (cut : List Token) (position : Nat) {fuel : Nat}
    (enough : (word.text.toList ++ rest).length ≤ fuel) : ∃ less, rest.length ≤ less ∧
      Token.cutFrom source cut fuel position (word.text.toList ++ rest) =
        Token.cutFrom source (⟨word.kind, word.text, position⟩ :: cut) less
          (position + word.text.toList.length) rest := by
  obtain ⟨first, more, isText, notBlank⟩ := begins.notBlank
  rw [List.length_append] at enough
  have starts := begins.starts
  have whole : String.ofList ((word.text.toList ++ rest).take word.text.toList.length) =
      word.text := by
    rw [List.take_left, String.ofList_toList]
  have remaining : (word.text.toList ++ rest).drop word.text.toList.length = rest := List.drop_left
  rw [isText] at enough starts whole remaining ⊢
  cases fuel with
  | zero => exact absurd enough (by simp)
  | succ fuel =>
      refine ⟨fuel, by simp at enough; omega, ?_⟩
      rw [List.cons_append] at starts whole remaining ⊢
      rw [Token.cutFrom, if_neg (by simp [notBlank]), starts]
      simp only [whole, remaining]

theorem cutsWord {word : Word} {rest : List Char} {words : List Word}
    (begins : BeginsWith word rest) (cuts : Cuts rest words) :
    Cuts (word.text.toList ++ rest) (word :: words) := by
  intro position
  obtain ⟨tokens, sameWords, reads⟩ := cuts (position + word.text.toList.length)
  refine ⟨⟨word.kind, word.text, position⟩ :: tokens, by rw [List.map_cons, sameWords]; rfl, ?_⟩
  intro source cut fuel enough
  obtain ⟨less, isEnough, cutOff⟩ := cutFromWord begins source cut position enough
  rw [cutOff, reads source _ less isEnough]
  simp

/-! ### Words -/

/-- A word ends before a space, before a semicolon and at the end of the text. -/
def EndsWord (rest : List Char) : Prop :=
  ∀ next, rest.head? = some next → next = ' ' ∨ next = ';'

theorem endsWordStops {admits : Char → Bool} {rest : List Char} (ends : EndsWord rest)
    (noSpace : admits ' ' = false) (noSemicolon : admits ';' = false) :
    Text.StopsAt admits rest := by
  intro next isNext
  obtain rfl | rfl := ends next isNext
  · exact noSpace
  · exact noSemicolon

/-- A lexeme is cut off wherever a word ends. -/
def Word.IsLexeme (word : Word) : Prop :=
  ∀ rest, EndsWord rest → BeginsWith word rest

open Token

theorem startOfNumber {characters : List Char} {length : Nat}
    (isNumber : numberLength characters = length) (positive : length ≠ 0) :
    start? characters = some (.number, length) := by
  rw [start?, candidates, isNumber, List.find?_cons_of_pos (by simpa using positive)]

theorem startOfText {characters : List Char} {length : Nat} (noNumber : numberLength characters = 0)
    (isText : textLength characters = length) (positive : length ≠ 0) :
    start? characters = some (.text, length) := by
  rw [start?, candidates, isText, List.find?_cons_of_neg (by simpa using noNumber),
    List.find?_cons_of_pos (by simpa using positive)]

theorem startOfName {characters : List Char} {length : Nat} (noNumber : numberLength characters = 0)
    (noText : textLength characters = 0) (isName : nameLength characters = length)
    (positive : length ≠ 0) : start? characters = some (.name, length) := by
  rw [start?, candidates, isName, List.find?_cons_of_neg (by simpa using noNumber),
    List.find?_cons_of_neg (by simpa using noText),
    List.find?_cons_of_pos (by simpa using positive)]

/-- Without a point a number is its digits and an exponent. -/
theorem lengthWithoutPoint {digits rest : List Char}
    (allDigits : ∀ digit ∈ digits, Text.isDecimal digit = true)
    (stops : Text.StopsAt Text.isDecimal rest) (noPoint : rest.head? ≠ some '.') :
    numberLength (digits ++ rest) =
      if digits.length = 0 then 0 else digits.length + exponentLength rest := by
  simp only [numberLength, Text.takeWhileOfStop allDigits stops, List.drop_left]
  split
  case h_1 => exact absurd rfl noPoint
  case h_2 => rw [List.drop_left]

/-- A number begins with a digit or a point. -/
theorem noNumberLength {first : Char} {rest : List Char} (notDigit : Text.isDecimal first = false)
    (notPoint : first ≠ '.') : numberLength (first :: rest) = 0 := by
  have noDigits : ∀ digit ∈ ([] : List Char), Text.isDecimal digit = true := nofun
  exact lengthWithoutPoint noDigits (Text.stopsAtCons notDigit) (by simpa using notPoint)

theorem noTextLength {first : Char} {rest : List Char} (notDouble : first ≠ '"')
    (notSingle : first ≠ '\'') : textLength (first :: rest) = 0 := by
  rw [textLength, if_neg (by simp [notDouble, notSingle])]

/-! ### Numbers -/

theorem asciiDigitIsDecimal {digit : Char} (isDigit : digit.isDigit = true) :
    Text.isDecimal digit = true := by
  have isAscii : digit.toNat < 128 := by
    have isAlphanum : digit.isAlphanum = true := by simp [Char.isAlphanum, isDigit]
    rw [Text.isAlphanumIff] at isAlphanum
    omega
  simp [Text.isDecimal, Text.decimalValue?, isAscii, isDigit]

theorem digitNotBlank {digit : Char} (isDigit : digit.isDigit = true) :
    Text.isBlank digit = false :=
  Text.asciiWordNotBlank (by simp [Text.isAsciiWord, Char.isAlphanum, isDigit])

theorem noExponent {rest : List Char} (ends : EndsWord rest) : exponentLength rest = 0 := by
  cases rest with
  | nil => rfl
  | cons first more =>
      obtain rfl | rfl := ends first rfl
      · rfl
      · rfl

theorem numberIsLexeme (value : Nat) : Word.IsLexeme ⟨.number, decimalText value⟩ := by
  intro rest ends
  have allDigits := digitsAreDigits value
  obtain ⟨first, more, isDigits⟩ := List.exists_cons_of_ne_nil
    (Nat.toDigits_ne_nil : Nat.toDigits 10 value ≠ [])
  have isText : (decimalText value).toList = decimalDigits value := String.toList_ofList
  have isFirst : first ∈ decimalDigits value := by
    rw [decimalDigits, isDigits]
    exact List.mem_cons_self
  refine ⟨⟨first, more, isText.trans isDigits, digitNotBlank (allDigits first isFirst)⟩, ?_⟩
  · have noPoint : rest.head? ≠ some '.' := by
      intro isPoint
      obtain isSpace | isSemicolon := ends '.' isPoint
      · exact absurd isSpace (by decide)
      · exact absurd isSemicolon (by decide)
    have notEmpty : (decimalDigits value).length ≠ 0 := by
      rw [decimalDigits, isDigits]
      exact Nat.succ_ne_zero _
    have isNumber := lengthWithoutPoint
      (fun digit isInside => asciiDigitIsDecimal (allDigits digit isInside))
      (endsWordStops ends (by decide) (by decide)) noPoint
    rw [if_neg notEmpty, noExponent ends, Nat.add_zero] at isNumber
    simp only [isText]
    exact startOfNumber isNumber notEmpty

/-! ### Names -/

/-- The first character of a name is no blank and begins no other kind of token. -/
theorem nameStartApart {first : Char} (starts : isNameStart first = true) :
    Text.isBlank first = false ∧ Text.isDecimal first = false ∧ first ≠ '.' ∧ first ≠ '"' ∧
      first ≠ '\'' := by
  have apart : ['.', '"', '\''].all (! isNameStart ·) = true := by decide
  have differs (other : Char) (isOther : other ∈ ['.', '"', '\'']) : first ≠ other := by
    rintro rfl
    have notStart := List.all_eq_true.1 apart first isOther
    rw [starts] at notStart
    exact Bool.false_ne_true notStart
  refine ⟨?_, ?_, differs _ (by decide), differs _ (by decide), differs _ (by decide)⟩
  · simp only [isNameStart, Bool.or_eq_true, decide_eq_true_eq, Bool.and_eq_true] at starts
    obtain rfl | ⟨isWord, -⟩ := starts
    · decide
    · exact Text.wordNotBlank isWord
  · simp only [isNameStart, Bool.or_eq_true, decide_eq_true_eq, Bool.and_eq_true] at starts
    obtain rfl | ⟨-, notDecimal⟩ := starts
    · decide
    · simpa using notDecimal

/-- A name reaches up to a character that does not go on with it. -/
theorem nameBegins {itemName : String} {rest : List Char} (isName : isNameText itemName = true)
    (stops : Text.StopsAt isNameContinue rest) : BeginsWith (.name itemName) rest := by
  unfold isNameText at isName
  split at isName
  case h_1 => exact nomatch isName
  case h_2 first more isText =>
    obtain ⟨starts, continues⟩ := Bool.and_eq_true_iff.1 isName
    obtain ⟨notBlank, notDigit, notPoint, notDouble, notSingle⟩ := nameStartApart starts
    refine ⟨⟨first, more, isText, notBlank⟩, ?_⟩
    have taken : (more ++ rest).takeWhile isNameContinue = more :=
      Text.takeWhileOfStop (List.all_eq_true.1 continues) stops
    have isLength : nameLength (first :: (more ++ rest)) = (first :: more).length := by
      rw [nameLength, if_pos starts, taken, Nat.add_comm, List.length_cons]
    simp only [Word.name, isText]
    exact startOfName (noNumberLength notDigit notPoint) (noTextLength notDouble notSingle)
      isLength (Nat.succ_ne_zero _)

theorem nameIsLexeme {itemName : String} (isName : isNameText itemName = true) :
    Word.IsLexeme (.name itemName) :=
  fun _ ends => nameBegins isName (endsWordStops ends (by decide) (by decide))

/-! ### Quoted texts -/

open Text in
/-- Quoting writes a character as it is, with a letter for it, or with its code. -/
theorem quoteCharacterForms (character : Char) :
    (quoteCharacter character = [character] ∧ character ≠ '"' ∧ character ≠ '\\') ∨
      (∃ letter, quoteCharacter character = ['\\', letter] ∧ letter ≠ '\n' ∧ letter ≠ 'u' ∧
        simpleEscape letter = character) ∨
      (quoteCharacter character = unicodeEscape character.toNat ∧ character.toNat < 0x20) := by
  unfold quoteCharacter
  split_ifs with isQuote isBackslash isLine isReturn isTab isBack isForm isControl
  · exact .inr (.inl ⟨'"', rfl, by decide, by decide, isQuote.symm⟩)
  · exact .inr (.inl ⟨'\\', rfl, by decide, by decide, isBackslash.symm⟩)
  · exact .inr (.inl ⟨'n', rfl, by decide, by decide, isLine.symm⟩)
  · exact .inr (.inl ⟨'r', rfl, by decide, by decide, isReturn.symm⟩)
  · exact .inr (.inl ⟨'t', rfl, by decide, by decide, isTab.symm⟩)
  · exact .inr (.inl ⟨'b', rfl, by decide, by decide, isBack.symm⟩)
  · exact .inr (.inl ⟨'f', rfl, by decide, by decide, isForm.symm⟩)
  · exact .inr (.inr ⟨rfl, isControl⟩)
  · exact .inl ⟨rfl, isQuote, isBackslash⟩

theorem quotedLengthPlain {character : Char} (rest : List Char) (notQuote : character ≠ '"')
    (notBackslash : character ≠ '\\') :
    quotedLength '"' (character :: rest) = (quotedLength '"' rest).map (· + 1) := by
  rw [quotedLength.eq_def]
  simp [notQuote, notBackslash]

theorem quotedLengthEscape {next : Char} (rest : List Char) (notLineFeed : next ≠ '\n') :
    quotedLength '"' ('\\' :: next :: rest) = (quotedLength '"' rest).map (· + 2) := by
  simp [quotedLength, notLineFeed]

theorem hexCharacterPlain (code : Nat) :
    Text.hexCharacter (code % 16) ≠ '"' ∧ Text.hexCharacter (code % 16) ≠ '\\' := by
  have allDigits : ∀ digit < 16,
      Text.hexCharacter digit ≠ '"' ∧ Text.hexCharacter digit ≠ '\\' := by
    decide
  exact allDigits _ (Nat.mod_lt _ (by decide))

/-- What is written for a character does not close the quotes. -/
theorem quotedLengthWritten (character : Char) (rest : List Char) :
    quotedLength '"' (Text.quoteCharacter character ++ rest) =
      (quotedLength '"' rest).map (· + (Text.quoteCharacter character).length) := by
  obtain ⟨written, notQuote, notBackslash⟩ | ⟨letter, written, notLineFeed, -, -⟩ | ⟨written, -⟩ :=
    quoteCharacterForms character
  · rw [written]
    exact quotedLengthPlain rest notQuote notBackslash
  · rw [written]
    exact quotedLengthEscape rest notLineFeed
  · rw [written]
    simp only [Text.unicodeEscape, List.cons_append, List.nil_append, List.length_cons,
      List.length_nil]
    rw [quotedLengthEscape _ (by decide)]
    iterate 4 rw [quotedLengthPlain _ (hexCharacterPlain _).1 (hexCharacterPlain _).2]
    simp only [Option.map_map]
    rfl

theorem quotedLengthQuoted (characters rest : List Char) :
    quotedLength '"' (characters.flatMap Text.quoteCharacter ++ '"' :: rest) =
      some ((characters.flatMap Text.quoteCharacter).length + 1) := by
  induction characters with
  | nil => exact (quotedLength.eq_def _ _).trans (if_pos rfl)
  | cons character characters inductionHypothesis =>
      rw [List.flatMap_cons, List.append_assoc, quotedLengthWritten, inductionHypothesis,
        List.length_append, Option.map_some]
      exact congrArg some (by omega)

/-- A quoted text ends with its closing quote, whatever follows. -/
theorem quotedBegins (text : String) (rest : List Char) :
    BeginsWith ⟨.text, Text.quote text⟩ rest := by
  have isText : (Text.quote text).toList = Text.quoteList text.toList := String.toList_ofList
  refine ⟨⟨'"', _, isText, by decide⟩, ?_⟩
  have isLength : textLength (Text.quoteList text.toList ++ rest) =
      (Text.quoteList text.toList).length := by
    simp only [Text.quoteList, List.cons_append, List.append_assoc, List.nil_append]
    rw [textLength, if_pos (by decide), quotedLengthQuoted]
    simp
  simp only [isText]
  exact startOfText (noNumberLength (by decide) (by decide)) isLength (Nat.succ_ne_zero _)

theorem quotedIsLexeme (text : String) : Word.IsLexeme ⟨.text, Text.quote text⟩ :=
  fun rest _ => quotedBegins text rest

theorem unescapePlain {character : Char} (rest : List Char) (notBackslash : character ≠ '\\') :
    unescapeFrom 0 (character :: rest) = character :: unescapeFrom 0 rest := by
  rw [unescapeFrom, if_neg notBackslash]

theorem unescapeLetter {letter : Char} (rest : List Char) (notUnicode : letter ≠ 'u') :
    unescapeFrom 0 ('\\' :: letter :: rest) = simpleEscape letter :: unescapeFrom 0 rest := by
  rw [unescapeFrom, if_pos rfl, escaped?, if_neg notUnicode]
  rfl

theorem unescapeUnicode {code : Nat} (rest : List Char) (isControl : code < 0x20) :
    unescapeFrom 0 (Text.unicodeEscape code ++ rest) =
      Char.ofNat code :: unescapeFrom 0 rest := by
  have allCodes : ∀ code < 0x20,
      escapedCode? ((Text.unicodeEscape code).drop 2) = some code ∧
        characterOf code = Char.ofNat code := by
    decide
  obtain ⟨isCode, isCharacter⟩ := allCodes code isControl
  have escapes : escaped? ('u' :: ((Text.unicodeEscape code).drop 2 ++ rest)) =
      some (Char.ofNat code, 5) := by
    have isCodeBefore : escapedCode? ((Text.unicodeEscape code).drop 2 ++ rest) = some code :=
      isCode
    rw [escaped?, if_pos rfl, isCodeBefore]
    exact congrArg (fun character => some (character, 5)) isCharacter
  have unfolds : Text.unicodeEscape code ++ rest =
      '\\' :: 'u' :: ((Text.unicodeEscape code).drop 2 ++ rest) := rfl
  rw [unfolds, unescapeFrom, if_pos rfl, escapes]
  rfl

theorem unescapeWritten (character : Char) (rest : List Char) :
    unescapeFrom 0 (Text.quoteCharacter character ++ rest) = character :: unescapeFrom 0 rest := by
  obtain ⟨written, -, notBackslash⟩ | ⟨letter, written, -, notUnicode, means⟩ |
    ⟨written, isControl⟩ := quoteCharacterForms character
  · rw [written]
    exact unescapePlain rest notBackslash
  · rw [written, ← means]
    exact unescapeLetter rest notUnicode
  · rw [written, unescapeUnicode rest isControl, Char.ofNat_toNat]

theorem unescapeQuoted (text : String) : unescape (Text.quote text) = text := by
  have unescapes (characters : List Char) :
      unescapeFrom 0 (characters.flatMap Text.quoteCharacter) = characters := by
    induction characters with
    | nil => rfl
    | cons character characters inductionHypothesis =>
        rw [List.flatMap_cons, unescapeWritten, inductionHypothesis]
  rw [unescape, Text.quote, String.toList_ofList, Text.quoteList, List.drop_one, List.tail_cons,
    List.dropLast_concat, unescapes, String.ofList_toList]

/-! ### Operators -/

/-- These are the operators that are printed. -/
def printedSymbols : List String :=
  ["!", "-", "+", "*", "/", "%", "<", "<=", ">", ">=", "==", "!=", "===", "!==", "&&", "||", "??",
    "?", ":", "=", ",", "(", ")", "[", "]", ";"]

theorem endsWordCases {rest : List Char} (ends : EndsWord rest) :
    rest = [] ∨ (∃ more, rest = ' ' :: more) ∨ ∃ more, rest = ';' :: more := by
  cases rest with
  | nil => exact .inl rfl
  | cons next more =>
      obtain rfl | rfl := ends next rfl
      · exact .inr (.inl ⟨more, rfl⟩)
      · exact .inr (.inr ⟨more, rfl⟩)

theorem symbolIsLexeme {symbol : String} (printed : symbol ∈ printedSymbols) :
    Word.IsLexeme (.symbol symbol) := by
  intro rest ends
  simp only [printedSymbols, List.mem_cons, List.not_mem_nil, or_false] at printed
  obtain rfl | ⟨more, rfl⟩ | ⟨more, rfl⟩ := endsWordCases ends
  all_goals
    rcases printed with rfl | rfl | rfl | rfl | rfl | rfl | rfl | rfl | rfl | rfl | rfl | rfl |
      rfl | rfl | rfl | rfl | rfl | rfl | rfl | rfl | rfl | rfl | rfl | rfl | rfl | rfl
    all_goals exact ⟨⟨_, _, rfl, by decide⟩, rfl⟩

/-! ### Expressions -/

theorem literalIsLexeme {value : Literal} (printable : value.IsPrintable) :
    value.word.IsLexeme := by
  cases value with
  | null => exact nameIsLexeme (by decide)
  | bool value => cases value <;> exact nameIsLexeme (by decide)
  | int value => exact numberIsLexeme value
  | real value => exact printable.elim
  | text value => exact quotedIsLexeme value

theorem plainNameIsLexeme {itemName : String} (plain : isPlainName itemName = true) :
    Word.IsLexeme (.name itemName) :=
  nameIsLexeme (Bool.and_eq_true_iff.1 plain).1

def AllLexemes (words : List Word) : Prop := ∀ word ∈ words, word.IsLexeme

section

variable {words others : List Word} {symbol : String}

theorem AllLexemes.append (first : AllLexemes words) (second : AllLexemes others) :
    AllLexemes (words ++ others) :=
  List.forall_mem_append.2 ⟨first, second⟩

theorem AllLexemes.cons {word : Word} (first : word.IsLexeme) (second : AllLexemes words) :
    AllLexemes (word :: words) :=
  List.forall_mem_cons.2 ⟨first, second⟩

theorem AllLexemes.single {word : Word} (first : word.IsLexeme) : AllLexemes [word] :=
  .cons first nofun

theorem AllLexemes.enclose {allowed rank : Nat} (inside : AllLexemes words) :
    AllLexemes (Word.enclose allowed rank words) := by
  unfold Word.enclose
  split
  · exact inside
  · exact .cons (symbolIsLexeme (by decide))
      (inside.append (.single (symbolIsLexeme (by decide))))

end

open Expression

theorem itemsAllLexemes {items : List Expression}
    (allItems : ∀ item ∈ items, ∀ allowed, AllLexemes (item.words allowed)) :
    AllLexemes (itemWords items) := by
  cases items with
  | nil => exact nofun
  | cons item rest =>
      rw [itemWordsCons]
      obtain ⟨first, others⟩ := List.forall_mem_cons.1 allItems
      refine (first assignmentRank).append ?_
      intro word isInside
      obtain ⟨next, isNext, isWord⟩ := List.mem_flatMap.1 isInside
      have lexemes := AllLexemes.cons (symbolIsLexeme (by decide : "," ∈ printedSymbols))
        (others next isNext assignmentRank)
      exact lexemes word isWord

theorem unarySymbolPrinted (operator : UnaryOperator) : operator.symbol ∈ printedSymbols := by
  cases operator <;> decide

theorem binarySymbolPrinted (operator : BinaryOperator) : operator.symbol ∈ printedSymbols := by
  cases operator <;> decide

theorem logicalSymbolPrinted (operator : LogicalOperator) : operator.symbol ∈ printedSymbols := by
  cases operator <;> decide

theorem expressionAllLexemes {expression : Expression} (printable : expression.IsPrintable) :
    ∀ allowed, AllLexemes (expression.words allowed) := by
  induction printable with
  | literal printable => exact fun _ => .single (literalIsLexeme printable)
  | name plain => exact fun _ => .single (plainNameIsLexeme plain)
  | this => exact fun _ => .single (nameIsLexeme (by decide))
  | array _ allItems =>
      intro allowed
      rw [words]
      exact .cons (symbolIsLexeme (by decide))
        ((itemsAllLexemes allItems).append (.single (symbolIsLexeme (by decide))))
  | member _ _ object key =>
      intro allowed
      rw [words]
      exact (object 0).append (.cons (symbolIsLexeme (by decide))
        ((key assignmentRank).append (.single (symbolIsLexeme (by decide)))))
  | call _ _ callee allArguments =>
      intro allowed
      rw [words]
      exact (callee 0).append (.cons (symbolIsLexeme (by decide))
        ((itemsAllLexemes allArguments).append (.single (symbolIsLexeme (by decide)))))
  | unary _ operand =>
      intro allowed
      rw [words]
      exact .enclose (.cons (symbolIsLexeme (unarySymbolPrinted _)) (operand _))
  | binary _ _ left right =>
      intro allowed
      rw [words]
      exact .enclose ((left _).append (.cons (symbolIsLexeme (binarySymbolPrinted _)) (right _)))
  | logical _ _ left right =>
      intro allowed
      rw [words]
      exact .enclose ((left _).append (.cons (symbolIsLexeme (logicalSymbolPrinted _)) (right _)))
  | conditional _ _ _ test consequent alternate =>
      intro allowed
      rw [words]
      exact .enclose ((test _).append (.cons (symbolIsLexeme (by decide))
        ((consequent _).append (.cons (symbolIsLexeme (by decide)) (alternate _)))))
  | assignName plain _ value =>
      intro allowed
      rw [words]
      exact .enclose (.cons (plainNameIsLexeme plain)
        (.cons (symbolIsLexeme (by decide)) (value _)))
  | assignMember _ _ _ object key value =>
      intro allowed
      rw [words]
      exact .enclose ((object _).append (.cons (symbolIsLexeme (by decide)) ((key _).append
        (.cons (symbolIsLexeme (by decide)) (.cons (symbolIsLexeme (by decide)) (value _))))))

theorem statementAllLexemes {statement : Statement} (printable : statement.IsPrintable) :
    AllLexemes statement.words := by
  have isDelete : Word.IsLexeme (.name "delete") := nameIsLexeme (by decide)
  cases statement with
  | expression value => exact expressionAllLexemes printable _
  | deleteName itemName => exact .cons isDelete (.single (plainNameIsLexeme printable))
  | deleteMember object key =>
      exact .cons isDelete (expressionAllLexemes (.member printable.1 printable.2) 0)

/-! ### Programs -/

theorem cutsSpaced {words others : List Word} {rest : List Char} (lexemes : AllLexemes words)
    (ends : EndsWord rest) (cuts : Cuts rest others) :
    Cuts (Word.spaced words ++ rest) (words ++ others) := by
  cases words with
  | nil => exact cuts
  | cons word words =>
      rw [Word.spaced, List.map_cons, Text.intercalateCons, List.append_assoc]
      induction words generalizing word with
      | nil => exact cutsWord (lexemes word (List.mem_singleton_self word) rest ends) cuts
      | cons next words inductionHypothesis =>
          obtain ⟨isLexeme, lexemes⟩ := List.forall_mem_cons.1 lexemes
          simp only [List.map_cons, List.flatMap_cons, List.append_assoc, List.cons_append]
          have cutsNext := cutsBlank (by decide : Text.isBlank ' ' = true)
            (inductionHypothesis next lexemes)
          refine cutsWord (isLexeme _ ?_) cutsNext
          exact fun _ isNext => .inl (Option.some.inj isNext).symm

theorem cutsBlanks (count : Nat) {rest : List Char} {words : List Word} (cuts : Cuts rest words) :
    Cuts (List.replicate count ' ' ++ rest) words := by
  induction count with
  | zero => exact cuts
  | succ count inductionHypothesis => exact cutsBlank (by decide) inductionHypothesis

theorem cutsSemicolon {rest : List Char} {words : List Word} (cuts : Cuts rest words) :
    Cuts (';' :: rest) (.symbol ";" :: words) :=
  cutsWord ⟨⟨';', [], rfl, by decide⟩, rfl⟩ cuts

theorem endsWordBlanks (count : Nat) (rest : List Char) :
    EndsWord (List.replicate count ' ' ++ ';' :: rest) := by
  intro next isNext
  cases count with
  | zero => exact .inr (Option.some.inj isNext).symm
  | succ count => exact .inl (Option.some.inj isNext).symm

theorem cutsProgram (before after : Nat) {program : Program}
    (printable : ∀ statement ∈ program, statement.IsPrintable) :
    Cuts (printProgram before after program).toList (programWords program) := by
  rw [printProgram, String.toList_ofList, programWords]
  cases program with
  | nil => exact cutsEnd
  | cons statement program =>
      simp only [List.map_cons, Text.intercalateCons, List.append_assoc]
      induction program generalizing statement with
      | nil =>
          have lexemes := statementAllLexemes (printable statement (List.mem_singleton_self _))
          exact cutsSpaced lexemes nofun cutsEnd
      | cons next program inductionHypothesis =>
          obtain ⟨isPrintable, printable⟩ := List.forall_mem_cons.1 printable
          simp only [List.map_cons, List.flatMap_cons, List.append_assoc, List.cons_append,
            List.nil_append]
          refine cutsSpaced (statementAllLexemes isPrintable) (endsWordBlanks before _) ?_
          exact cutsBlanks before (cutsSemicolon (cutsBlanks after
            (inductionHypothesis next printable)))

/-- A printed program is cut into its words. -/
theorem printedTokens (before after : Nat) {program : Program}
    (printable : ∀ statement ∈ program, statement.IsPrintable) :
    ∃ tokens, tokens.map Token.word = programWords program ∧
      tokenize (printProgram before after program) = .ok tokens := by
  obtain ⟨tokens, sameWords, reads⟩ := cutsProgram before after printable 0
  exact ⟨tokens, sameWords, reads _ [] _ (Nat.le_refl _)⟩

end Letterpress.Script
