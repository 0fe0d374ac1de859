import Letterpress.Proofs.Text.Splitting
import Letterpress.Report.InsertedText
import Letterpress.Script.Method

/-!
This file shows that an inserted value is text and never markup, and that the text can be read back.
-/

namespace Letterpress.Report

/-- This replaces the three escapes by the characters that they stand for. -/
def unescape : List Char → List Char
  | '&' :: 'a' :: 'm' :: 'p' :: ';' :: rest => '&' :: unescape rest
  | '&' :: 'l' :: 't' :: ';' :: rest => '<' :: unescape rest
  | '&' :: 'g' :: 't' :: ';' :: rest => '>' :: unescape rest
  | character :: rest => character :: unescape rest
  | [] => []

/-- These follow an ampersand. -/
def escapes : List (List Char) := ["amp;".toList, "lt;".toList, "gt;".toList]

/-- An escaped text holds no delimiter of tags, each of its ampersands begins an escape, and
replacing the escapes gives back the text. -/
structure IsEscaped (text written : List Char) : Prop where
  noOpening : '<' ∉ written
  noClosing : '>' ∉ written
  ampersands : ∀ before after, written = before ++ '&' :: after →
    ∃ escape ∈ escapes, escape <+: after
  readsBack : unescape written = text

/-- A carriage return before a line feed belongs to it. -/
def joinReturns : List Char → List Char
  | '\r' :: '\n' :: rest => '\n' :: joinReturns rest
  | character :: rest => character :: joinReturns rest
  | [] => []

def linesOf (text : List Char) : List (List Char) := Text.splitWhere (· = '\n') (joinReturns text)

/-! ### Escapes -/

/-- A character is written as it is, or as an escape. -/
theorem escapeCharacterWrites (character : Char) :
    (character ≠ '&' ∧ character ≠ '<' ∧ character ≠ '>' ∧
        escapeCharacter character = [character]) ∨
      ∃ escape ∈ escapes, escapeCharacter character = '&' :: escape := by
  unfold escapeCharacter escapes
  split <;> simp_all

theorem escapeLetters {escape : List Char} (isEscape : escape ∈ escapes) :
    '&' ∉ escape ∧ '<' ∉ escape ∧ '>' ∉ escape ∧ '\n' ∉ escape ∧ '\r' ∉ escape := by
  simp only [escapes, List.mem_cons, List.not_mem_nil, or_false] at isEscape
  obtain rfl | rfl | rfl := isEscape <;> decide

theorem unescapeCons {character : Char} (notEscape : character ≠ '&') (rest : List Char) :
    unescape (character :: rest) = character :: unescape rest := by
  rw [unescape]
  all_goals simp_all

theorem unescapeCharacter (character : Char) (rest : List Char) :
    unescape (escapeCharacter character ++ rest) = character :: unescape rest := by
  unfold escapeCharacter
  split
  case h_1 => rfl
  case h_2 => rfl
  case h_3 => rfl
  case h_4 notEscape _ _ => exact unescapeCons notEscape rest

theorem escapedNoDelimiter (text : List Char) :
    '<' ∉ text.flatMap escapeCharacter ∧ '>' ∉ text.flatMap escapeCharacter := by
  have noDelimiter (character : Char) :
      '<' ∉ escapeCharacter character ∧ '>' ∉ escapeCharacter character := by
    obtain ⟨-, notOpening, notClosing, same⟩ | ⟨escape, isEscape, same⟩ :=
      escapeCharacterWrites character
    · simp [same, Ne.symm notOpening, Ne.symm notClosing]
    · obtain ⟨-, noOpening, noClosing, -⟩ := escapeLetters isEscape
      simp [same, noOpening, noClosing]
  simp only [List.mem_flatMap, not_exists, not_and]
  exact ⟨fun character _ => (noDelimiter character).1, fun character _ => (noDelimiter character).2⟩

theorem escapedAmpersands (text before after : List Char)
    (whole : text.flatMap escapeCharacter = before ++ '&' :: after) :
    ∃ escape ∈ escapes, escape <+: after := by
  induction text generalizing before with
  | nil => simp at whole
  | cons character rest inductionHypothesis =>
      rw [List.flatMap_cons] at whole
      obtain ⟨notEscape, -, -, same⟩ | ⟨escape, isEscape, same⟩ := escapeCharacterWrites character
      · rw [same] at whole
        obtain ⟨remaining, -, wholeRest⟩ :=
          Text.afterBeginning (by simpa using Ne.symm notEscape) whole
        exact inductionHypothesis remaining wholeRest
      · rw [same, List.cons_append] at whole
        cases before with
        | nil => exact ⟨escape, isEscape, _, (List.cons.inj whole).2⟩
        | cons _ before =>
            obtain ⟨remaining, -, wholeRest⟩ :=
              Text.afterBeginning (escapeLetters isEscape).1 (List.cons.inj whole).2
            exact inductionHypothesis remaining wholeRest

theorem escapedText (text : List Char) : IsEscaped text (text.flatMap escapeCharacter) where
  noOpening := (escapedNoDelimiter text).1
  noClosing := (escapedNoDelimiter text).2
  ampersands := escapedAmpersands text
  readsBack := by
    induction text with
    | nil => rfl
    | cons character rest inductionHypothesis =>
        rw [List.flatMap_cons, unescapeCharacter, inductionHypothesis]

/-! ### Control characters -/

/-- Control characters may be left out before a text is escaped. -/
theorem insertedPlain (text : List Char) :
    insertedText false text = (text.filter (! isControl ·)).flatMap escapeCharacter := by
  have inEscape (character : Char) : (escapeCharacter character).filter (! isControl ·) =
      if isControl character then [] else escapeCharacter character := by
    unfold escapeCharacter
    split
    case h_1 => decide
    case h_2 => decide
    case h_3 => decide
    case h_4 => by_cases control : isControl character = true <;> simp [control]
  induction text with
  | nil => rfl
  | cons character rest inductionHypothesis =>
      simp only [insertedText, Bool.false_eq_true, if_false] at inductionHypothesis ⊢
      rw [List.flatMap_cons, List.filter_append, inductionHypothesis, inEscape]
      cases control : isControl character <;> simp [control]

/-! ### Lines -/

theorem linesNotEmpty (text : List Char) : ∃ first pieces, linesOf text = first :: pieces :=
  Text.splitWhereNotEmpty _ _

theorem breakLinesCons {character : Char} {rest : List Char} (notFeed : character ≠ '\n')
    (noFeedAfter : character = '\r' → rest.head? ≠ some '\n') :
    breakLines (character :: rest) = character :: breakLines rest := by
  rw [breakLines]
  · rintro more rfl rfl
    exact noFeedAfter rfl rfl
  · exact notFeed

theorem breakLinesFront {front rest : List Char} (noFeed : '\n' ∉ front) (noReturn : '\r' ∉ front) :
    breakLines (front ++ rest) = front ++ breakLines rest := by
  induction front with
  | nil => rfl
  | cons character front inductionHypothesis =>
      obtain ⟨notFeed, noFeedRest⟩ := List.ne_and_not_mem_of_not_mem_cons noFeed
      obtain ⟨notReturn, noReturnRest⟩ := List.ne_and_not_mem_of_not_mem_cons noReturn
      rw [List.cons_append, breakLinesCons notFeed.symm (fun same => absurd same.symm notReturn),
        inductionHypothesis noFeedRest noReturnRest, List.cons_append]

theorem escapedHead {text : List Char} {character : Char}
    (head : (text.flatMap escapeCharacter).head? = some character) (notAmpersand : character ≠ '&') :
    text.head? = some character := by
  cases text with
  | nil => exact nomatch head
  | cons first rest =>
      rw [List.flatMap_cons] at head
      obtain ⟨-, -, -, same⟩ | ⟨escape, -, same⟩ := escapeCharacterWrites first
      · simpa [same] using head
      · exact absurd (by simpa [same] using head) notAmpersand.symm

/-- Each line is escaped for itself, and the lines are joined by line breaks. -/
theorem breakLinesEscaped (text : List Char) :
    breakLines (text.flatMap escapeCharacter) =
      lineBreak.intercalate ((linesOf text).map (·.flatMap escapeCharacter)) := by
  have afterFeed (rest : List Char) (hypothesis : breakLines (rest.flatMap escapeCharacter) =
      lineBreak.intercalate ((linesOf rest).map (·.flatMap escapeCharacter))) :
      lineBreak ++ breakLines (rest.flatMap escapeCharacter) =
        lineBreak.intercalate (([] :: linesOf rest).map (·.flatMap escapeCharacter)) := by
    obtain ⟨first, pieces, lines⟩ := linesNotEmpty rest
    rw [hypothesis, lines]
    simp only [List.map_cons, Text.intercalateCons]
    simp
  induction text using joinReturns.induct with
  | case1 rest inductionHypothesis => exact afterFeed rest inductionHypothesis
  | case2 character rest notLineEnd inductionHypothesis =>
      by_cases isFeed : character = '\n'
      · subst isFeed
        exact afterFeed rest inductionHypothesis
      · obtain ⟨first, pieces, lines⟩ := linesNotEmpty rest
        have linesMore : linesOf (character :: rest) = (character :: first) :: pieces := by
          unfold linesOf at lines ⊢
          rw [joinReturns, Text.splitWhereCons, lines]
          · simp [Text.addToSegments, isFeed]
          · exact notLineEnd
        have written : breakLines ((character :: rest).flatMap escapeCharacter) =
            escapeCharacter character ++ breakLines (rest.flatMap escapeCharacter) := by
          rw [List.flatMap_cons]
          obtain ⟨-, -, -, same⟩ | ⟨escape, isEscape, same⟩ := escapeCharacterWrites character
          · rw [same, List.singleton_append, List.singleton_append]
            refine breakLinesCons isFeed fun isReturn head => ?_
            obtain ⟨more, rfl⟩ := List.head?_eq_some_iff.1 (escapedHead head (by decide))
            exact notLineEnd more isReturn rfl
          · obtain ⟨-, -, -, noFeed, noReturn⟩ := escapeLetters isEscape
            rw [same]
            exact breakLinesFront (by simp [noFeed]) (by simp [noReturn])
        rw [written, inductionHypothesis, linesMore, lines]
        simp only [List.map_cons, Text.intercalateCons, List.flatMap_cons, List.append_assoc]
  | case3 => rfl

/-- A text without a line feed is one line. -/
theorem oneLine {text : List Char} (noFeed : '\n' ∉ text) : linesOf text = [text] := by
  have joined : joinReturns text = text := by
    induction text using joinReturns.induct with
    | case1 rest => exact absurd (by simp) noFeed
    | case2 character rest notLineEnd inductionHypothesis =>
        rw [joinReturns, inductionHypothesis (List.not_mem_of_not_mem_cons noFeed)]
        exact notLineEnd
    | case3 => rfl
  have single : Text.splitWhere (· = '\n') (text ++ []) = [text ++ []] :=
    Text.splitWhereFront
      (fun character isInside => decide_eq_false fun same => noFeed (same ▸ isInside)) rfl
  rw [linesOf, joined]
  simpa using single

theorem joinLines (text : List Char) : ['\n'].intercalate (linesOf text) = joinReturns text := by
  obtain ⟨first, pieces, lines, whole, -⟩ := Text.splitWhereSource '\n' (joinReturns text)
  rw [linesOf, lines, Text.intercalateCons]
  exact whole.symm

/-! ### Line breaks -/

theorem breakBegins : ∃ others, lineBreak = '<' :: others :=
  List.head?_eq_some_iff.1 (by decide)

theorem breakNotBefore {character : Char} (notOpening : character ≠ '<') (rest : List Char) :
    lineBreak.isPrefixOf (character :: rest) = false := by
  obtain ⟨others, begins⟩ := breakBegins
  rw [begins, List.isPrefixOf, beq_eq_false_iff_ne.2 notOpening.symm, Bool.false_and]

theorem cutAtBreak {piece : List Char} (noOpening : '<' ∉ piece) (passed rest : List Char) :
    Script.cutAt? lineBreak passed (piece ++ (lineBreak ++ rest)) =
      some (passed.reverse ++ piece, rest) := by
  induction piece generalizing passed with
  | nil =>
      have begins : lineBreak.isPrefixOf (lineBreak ++ rest) = true :=
        List.isPrefixOf_iff_prefix.2 (List.prefix_append _ _)
      obtain ⟨others, same⟩ := breakBegins
      rw [same, List.cons_append] at begins
      rw [List.nil_append, List.append_nil, same, List.cons_append, Script.cutAt?, if_pos begins,
        ← List.cons_append, List.drop_left]
  | cons character piece inductionHypothesis =>
      obtain ⟨notOpening, noOpeningRest⟩ := List.ne_and_not_mem_of_not_mem_cons noOpening
      rw [List.cons_append, Script.cutAt?, breakNotBefore notOpening.symm, if_neg nofun,
        inductionHypothesis noOpeningRest, List.reverse_cons, List.append_assoc,
        List.singleton_append]

theorem cutAtNone {piece : List Char} (noOpening : '<' ∉ piece) (passed : List Char) :
    Script.cutAt? lineBreak passed piece = none := by
  induction piece generalizing passed with
  | nil => rfl
  | cons character piece inductionHypothesis =>
      obtain ⟨notOpening, noOpeningRest⟩ := List.ne_and_not_mem_of_not_mem_cons noOpening
      rw [Script.cutAt?, breakNotBefore notOpening.symm, if_neg nofun,
        inductionHypothesis noOpeningRest]

/-- Pieces without tags are found again between the line breaks that join them. -/
theorem splitAtBreaks {first : List Char} {pieces : List (List Char)} {fuel : Nat}
    (noOpening : ∀ piece ∈ first :: pieces, '<' ∉ piece) (enough : pieces.length ≤ fuel) :
    Script.splitText lineBreak fuel (lineBreak.intercalate (first :: pieces)) =
      (first :: pieces).map String.ofList := by
  obtain ⟨noOpeningFirst, noOpeningRest⟩ := List.forall_mem_cons.1 noOpening
  induction pieces generalizing first fuel with
  | nil =>
      rw [Text.intercalateCons, List.flatMap_nil, List.append_nil]
      cases fuel with
      | zero => rfl
      | succ fuel => simp only [Script.splitText, cutAtNone noOpeningFirst, List.map_cons, List.map_nil]
  | cons second rest inductionHypothesis =>
      cases fuel with
      | zero => exact absurd enough (Nat.not_succ_le_zero _)
      | succ fuel =>
          have following := inductionHypothesis noOpeningRest (Nat.le_of_succ_le_succ enough)
            (noOpeningRest second (List.mem_cons_self ..))
            fun piece isInside => noOpeningRest piece (List.mem_cons_of_mem _ isInside)
          rw [Text.intercalateCons] at following ⊢
          simp only [List.flatMap_cons, List.append_assoc, Script.splitText,
            cutAtBreak noOpeningFirst, List.reverse_nil, List.nil_append, following, List.map_cons]

theorem breaksBound (first : List Char) (pieces : List (List Char)) :
    pieces.length ≤ (lineBreak.intercalate (first :: pieces)).length := by
  rw [Text.intercalateCons, List.length_append]
  induction pieces with
  | nil => exact Nat.zero_le _
  | cons piece rest inductionHypothesis =>
      have positive : 0 < lineBreak.length := by decide
      simp only [List.flatMap_cons, List.length_append, List.length_cons] at inductionHypothesis ⊢
      omega

/-- A text is written with line breaks if each of its lines is written like a text without them.
Splitting at the line breaks leaves no tag, and what is read back are the lines. -/
structure IsBroken (text written : List Char) : Prop where
  joined : written = lineBreak.intercalate ((linesOf text).map (insertedText false))
  escaped : ∀ line ∈ linesOf text, IsEscaped line (insertedText false line)
  noOpening : ∀ piece ∈ Script.splitText lineBreak written.length written, '<' ∉ piece.toList
  readsBack : ['\n'].intercalate
    ((Script.splitText lineBreak written.length written).map fun piece => unescape piece.toList) =
      joinReturns text

/-! ### Inserted values -/

section

variable {text line : List Char}

theorem joinReturnsSubset (text : List Char) : joinReturns text ⊆ text := by
  induction text using joinReturns.induct with
  | case1 rest inductionHypothesis =>
      rw [joinReturns]
      exact List.Subset.trans (List.cons_subset_cons _ inductionHypothesis) (List.subset_cons_self ..)
  | case2 character rest notLineEnd inductionHypothesis =>
      rw [joinReturns]
      · exact List.cons_subset_cons _ inductionHypothesis
      · exact notLineEnd
  | case3 => exact List.Subset.refl _

/-- A line of a text without control characters has none. -/
theorem lineNoControl (noControl : ∀ character ∈ text, isControl character = false)
    (isLine : line ∈ linesOf text) : line.filter (! isControl ·) = line :=
  List.filter_eq_self.2 fun character isInside => by
    have inText := joinReturnsSubset text (Text.splitWhereSubset _ _ line isLine isInside)
    rw [noControl character inText, Bool.not_false]

theorem brokenText (noControl : ∀ character ∈ text, isControl character = false) :
    IsBroken text (breakLines (text.flatMap escapeCharacter)) := by
  have sameLine (line : List Char) (isLine : line ∈ linesOf text) :
      line.flatMap escapeCharacter = insertedText false line := by
    rw [insertedPlain, lineNoControl noControl isLine]
  have joined : breakLines (text.flatMap escapeCharacter) =
      lineBreak.intercalate ((linesOf text).map (insertedText false)) := by
    rw [breakLinesEscaped, List.map_congr_left sameLine]
  have escaped (line : List Char) (isLine : line ∈ linesOf text) :
      IsEscaped line (insertedText false line) := sameLine line isLine ▸ escapedText line
  have pieces : Script.splitText lineBreak (breakLines (text.flatMap escapeCharacter)).length
      (breakLines (text.flatMap escapeCharacter)) =
        (linesOf text).map fun line => String.ofList (insertedText false line) := by
    obtain ⟨first, others, lines⟩ := linesNotEmpty text
    rw [joined]
    rw [lines] at escaped ⊢
    rw [List.map_cons, splitAtBreaks _ (breaksBound _ _), ← List.map_cons, List.map_map]
    · rfl
    · rw [← List.map_cons]
      exact List.forall_mem_map.2 fun line isLine => (escaped line isLine).noOpening
  refine ⟨joined, escaped, ?_, ?_⟩
  · rw [pieces]
    refine List.forall_mem_map.2 fun line isLine => ?_
    rw [String.toList_ofList]
    exact (escaped line isLine).noOpening
  · rw [pieces, List.map_map, ← joinLines]
    congr 1
    refine (List.map_congr_left fun line isLine => ?_).trans (List.map_id _)
    rw [Function.comp_apply, String.toList_ofList, (escaped line isLine).readsBack, id_eq]

end

/-- A value is inserted as its text without the control characters. Outside of runs the text is
escaped, and inside of runs each of its lines is. -/
theorem insertedValueIsText {heap : Heap} {value : Value} {text : String}
    (written : heap.text value = .ok text) :
    ∃ plain broken : List Char,
      insertedValue heap false value = .ok (String.ofList plain) ∧
      insertedValue heap true value = .ok (String.ofList broken) ∧
      IsEscaped (text.toList.filter (! isControl ·)) plain ∧
      ('\n' ∈ text.toList.filter (! isControl ·) →
        IsBroken (text.toList.filter (! isControl ·)) broken) ∧
      ('\n' ∉ text.toList.filter (! isControl ·) → broken = plain) := by
  have inserted (isInRun : Bool) : insertedValue heap isInRun value =
      .ok (String.ofList (insertedText isInRun text.toList)) := by
    rw [insertedValue, written]
    rfl
  have inRun : insertedText true text.toList =
      breakLines ((text.toList.filter (! isControl ·)).flatMap escapeCharacter) := by
    rw [← insertedPlain]
    rfl
  refine ⟨_, _, inserted false, inserted true, ?_, fun _ => ?_, fun noFeed => ?_⟩
  · rw [insertedPlain]
    exact escapedText _
  · rw [inRun]
    refine brokenText fun character isInside => ?_
    simpa using (List.mem_filter.1 isInside).2
  · rw [inRun, breakLinesEscaped, oneLine noFeed, insertedPlain]
    simp

/-- The text of the value has a tag, two lines and a control character. -/
theorem tagIsInsertedAsText :
    Heap.empty.text (.text "<b>\r\n&\x01lt;") = .ok "<b>\r\n&\x01lt;" ∧
      ∃ plain broken : List Char,
        insertedValue Heap.empty false (.text "<b>\r\n&\x01lt;") = .ok (String.ofList plain) ∧
        insertedValue Heap.empty true (.text "<b>\r\n&\x01lt;") = .ok (String.ofList broken) ∧
        IsEscaped ("<b>\r\n&\x01lt;".toList.filter (! isControl ·)) plain ∧
        ('\n' ∈ "<b>\r\n&\x01lt;".toList.filter (! isControl ·) →
          IsBroken ("<b>\r\n&\x01lt;".toList.filter (! isControl ·)) broken) ∧
        ('\n' ∉ "<b>\r\n&\x01lt;".toList.filter (! isControl ·) → broken = plain) :=
  ⟨rfl, insertedValueIsText rfl⟩

end Letterpress.Report
