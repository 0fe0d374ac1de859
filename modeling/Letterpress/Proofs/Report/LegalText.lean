import Letterpress.Proofs.Markup.Event
import Letterpress.Proofs.Report.InsertedText
import Letterpress.Proofs.Report.WellFormed

/-!
This file tells which characters of a text survive its insertion though no document may hold them.
They are the two characters that are left out neither as control characters nor by the markup.
-/

namespace Letterpress.Report

open Markup

/-- The text has neither of the two illegal characters that are no control characters. -/
def IsClean (text : List Char) : Prop := '\ufffe' ∉ text ∧ '\uffff' ∉ text

instance (text : List Char) : Decidable (IsClean text) := inferInstanceAs (Decidable (_ ∧ _))

section

variable {character : Char} {text : List Char}

/-! ### Characters -/

/-- The illegal characters are the control characters and two others. -/
theorem illegalIff : isLegal character = false ↔
    isControl character = true ∨ character = '\ufffe' ∨ character = '\uffff' := by
  have valid : character.toNat < 0xd800 ∨ 0xdfff < character.toNat ∧ character.toNat < 0x110000 :=
    character.valid
  have isTab : '\t'.toNat = 9 := rfl
  have isFeed : '\n'.toNat = 10 := rfl
  have isReturn : '\r'.toNat = 13 := rfl
  have isFirst : '\ufffe'.toNat = 0xfffe := rfl
  have isSecond : '\uffff'.toNat = 0xffff := rfl
  simp only [isLegal, isControl, ← Char.toNat_inj, ne_eq, Bool.or_eq_false_iff, Bool.and_eq_true,
    Bool.and_eq_false_iff, decide_eq_true_eq, decide_eq_false_iff_not]
  omega

section

variable (illegal : isLegal character = false)
include illegal

theorem illegalNotIn {others : List Char} (allLegal : AllLegal others) : character ∉ others :=
  fun isInside => Bool.false_ne_true (illegal.symm.trans (allLegal character isInside))

theorem illegalDiffers {other : Char} (legal : isLegal other = true) : character ≠ other :=
  fun same => illegalNotIn illegal (List.forall_mem_singleton.2 legal) (List.mem_singleton.2 same)

/-! ### Inserted texts -/

/-- The characters of escapes are legal. -/
theorem illegalInEscape (other : Char) :
    character ∈ escapeCharacter other ↔ character = other := by
  unfold escapeCharacter
  split
  case h_1 =>
    exact iff_of_false (illegalNotIn illegal (by decide)) (illegalDiffers illegal (by decide))
  case h_2 =>
    exact iff_of_false (illegalNotIn illegal (by decide)) (illegalDiffers illegal (by decide))
  case h_3 =>
    exact iff_of_false (illegalNotIn illegal (by decide)) (illegalDiffers illegal (by decide))
  case h_4 => exact List.mem_singleton

/-- The characters of line breaks are legal, and so are those that they replace. -/
theorem illegalInLines (text : List Char) : character ∈ breakLines text ↔ character ∈ text := by
  have notInBreak : character ∉ lineBreak := illegalNotIn illegal (by decide)
  have notFeed : character ≠ '\n' := illegalDiffers illegal (by decide)
  have notReturn : character ≠ '\r' := illegalDiffers illegal (by decide)
  induction text using breakLines.induct with
  | case1 rest inductionHypothesis =>
      rw [breakLines]
      simp [inductionHypothesis, notInBreak, notFeed, notReturn]
  | case2 rest inductionHypothesis =>
      rw [breakLines]
      simp [inductionHypothesis, notInBreak, notFeed]
  | case3 other rest notLineEnd isOther inductionHypothesis =>
      have unchanged : breakLines (other :: rest) = other :: breakLines rest := by
        rw [breakLines]
        · exact notLineEnd
        · exact isOther
      simp [unchanged, inductionHypothesis]
  | case4 => rfl

/-- An illegal character of a text is inserted unless it is a control character. -/
theorem illegalInInserted (isInRun : Bool) (text : List Char) :
    character ∈ insertedText isInRun text ↔ character ∈ text ∧ isControl character = false := by
  have plain : character ∈ (text.flatMap escapeCharacter).filter (! isControl ·) ↔
      character ∈ text ∧ isControl character = false := by
    simp [List.mem_filter, List.mem_flatMap, illegalInEscape illegal]
  cases isInRun with
  | true => exact (illegalInLines illegal _).trans plain
  | false => exact plain

end

/-- A text is clean if its illegal characters are control characters. -/
theorem cleanIff : IsClean text ↔
    ∀ character ∈ text, isLegal character = false → isControl character = true := by
  constructor
  · rintro ⟨noFirst, noSecond⟩ character isInside illegal
    obtain control | rfl | rfl := illegalIff.1 illegal
    · exact control
    · exact absurd isInside noFirst
    · exact absurd isInside noSecond
  · intro allControl
    exact ⟨fun isInside => absurd (allControl _ isInside (by decide)) (by decide),
      fun isInside => absurd (allControl _ isInside (by decide)) (by decide)⟩

theorem insertedIsLegalIff (isInRun : Bool) (text : List Char) :
    AllLegal (insertedText isInRun text) ↔ IsClean text := by
  rw [cleanIff]
  constructor
  · intro allLegal character isInside illegal
    by_contra notControl
    rw [Bool.not_eq_true] at notControl
    exact illegalNotIn illegal allLegal
      ((illegalInInserted illegal isInRun text).2 ⟨isInside, notControl⟩)
  · intro allControl character isInserted
    by_contra illegal
    rw [Bool.not_eq_true] at illegal
    obtain ⟨isInside, notControl⟩ := (illegalInInserted illegal isInRun text).1 isInserted
    rw [allControl character isInside illegal] at notControl
    exact nomatch notControl

end

/-! ### Renderings -/

section

variable {settings : Settings} {character : Char}

/-- The character survives the insertion of one of the texts. -/
def Survives (character : Char) (inserted : List String) : Prop :=
  ∃ text ∈ inserted, character ∈ text.toList ∧ isControl character = false

theorem survivesAppend {inserted more : List String} : Survives character (inserted ++ more) ↔
    Survives character inserted ∨ Survives character more := by
  simp only [Survives, List.mem_append, or_and_right, exists_or]

theorem absentIff {item : Item} {items : List Item} : character ∉ writtenIn (item :: items) ↔
    character ∉ item.written ∧ character ∉ writtenIn items := by
  rw [writtenIn, List.mem_append, not_or]

mutual

/-- An illegal character that the markup does not have comes from the texts that are inserted. -/
theorem illegalInRendered (illegal : isLegal character = false) {loopValues : Table Value}
    {items : List Item} {session after : Session} {inserted : List String} {output : List Char} :
    Renders settings loopValues items session inserted output after →
      character ∉ writtenIn items → (character ∈ output ↔ Survives character inserted)
  | .done, _ => by simp [Survives]
  | .markup content rest, absent => by
      obtain ⟨notInContent, absentRest⟩ := absentIff.1 absent
      rw [List.mem_append, illegalInRendered illegal rest absentRest]
      exact or_iff_right notInContent
  | .insert isInRun _ _ rest, absent => by
      obtain ⟨-, absentRest⟩ := absentIff.1 absent
      rw [List.mem_append, illegalInInserted illegal, illegalInRendered illegal rest absentRest,
        Survives, Survives, List.exists_mem_cons_iff]
  | .execute _ rest, absent => illegalInRendered illegal rest absent
  | .loop _ _ repeats rest, absent => by
      obtain ⟨absentBody, absentRest⟩ := absentIff.1 absent
      rw [List.mem_append, survivesAppend, illegalInRepeated illegal repeats absentBody,
        illegalInRendered illegal rest absentRest]
  | .taken _ _ renders rest, absent => by
      obtain ⟨absentBody, absentRest⟩ := absentIff.1 absent
      rw [List.mem_append, survivesAppend, illegalInRendered illegal renders absentBody,
        illegalInRendered illegal rest absentRest]
  | .skipped _ _ rest, absent => illegalInRendered illegal rest (absentIff.1 absent).2

theorem illegalInRepeated (illegal : isLegal character = false) {loopValues : Table Value}
    {itemName : String} {list : Value} {body : List Item} {indices : List Nat}
    {session after : Session} {inserted : List String} {output : List Char} :
    Repeats settings loopValues itemName list body indices session inserted output after →
      character ∉ writtenIn body → (character ∈ output ↔ Survives character inserted)
  | .done, _ => by simp [Survives]
  | .turn renders repeats, absent => by
      rw [List.mem_append, survivesAppend, illegalInRendered illegal renders absent,
        illegalInRepeated illegal repeats absent]

end

/-- If the markup is legal, the output is exactly if the inserted texts are clean. -/
theorem renderedIsLegalIff {loopValues : Table Value} {items : List Item} {session after : Session}
    {inserted : List String} {output : List Char}
    (renders : Renders settings loopValues items session inserted output after)
    (legal : AllLegal (writtenIn items)) :
    AllLegal output ↔ ∀ text ∈ inserted, IsClean text.toList := by
  simp only [cleanIff]
  constructor
  · intro legalOutput text isInserted character isInside illegal
    by_contra notControl
    rw [Bool.not_eq_true] at notControl
    exact illegalNotIn illegal legalOutput <|
      (illegalInRendered illegal renders (illegalNotIn illegal legal)).2
        ⟨text, isInserted, isInside, notControl⟩
  · intro allClean character isInside
    by_contra illegal
    rw [Bool.not_eq_true] at illegal
    obtain ⟨text, isInserted, isInText, notControl⟩ :=
      (illegalInRendered illegal renders (illegalNotIn illegal legal)).1 isInside
    rw [allClean text isInserted character isInText illegal] at notControl
    exact nomatch notControl

/-- A string is inserted as legal characters exactly if it has none of the two that are left out
neither as control characters nor by the markup, and no other character is ever illegal. So data
makes the characters of a report illegal by these two only. -/
theorem insertedStringIsLegalIff (heap : Heap) (isInRun : Bool) (text : String) :
    (∃ written, insertedValue heap isInRun (.text text) = .ok written ∧
        (AllLegal written.toList ↔ '\ufffe' ∉ text.toList ∧ '\uffff' ∉ text.toList) ∧
        ∀ character ∈ written.toList, isLegal character = false →
          character ∈ text.toList ∧ (character = '\ufffe' ∨ character = '\uffff')) ∧
      ∀ {settings : Settings} {loopValues : Table Value} {items : List Item}
        {session after : Session} {inserted : List String} {output : List Char},
        Renders settings loopValues items session inserted output after →
          AllLegal (writtenIn items) →
            (AllLegal output ↔
              ∀ other ∈ inserted, '\ufffe' ∉ other.toList ∧ '\uffff' ∉ other.toList) := by
  refine ⟨⟨String.ofList (insertedText isInRun text.toList), rfl, ?_, ?_⟩, renderedIsLegalIff⟩
  · rw [String.toList_ofList]
    exact insertedIsLegalIff isInRun text.toList
  · intro character isInserted illegal
    rw [String.toList_ofList, illegalInInserted illegal] at isInserted
    obtain ⟨isInside, notControl⟩ := isInserted
    rw [illegalIff, notControl] at illegal
    exact ⟨isInside, illegal.resolve_left Bool.false_ne_true⟩

/-- The data of this report is a text of two lines. -/
theorem brokenLineIsLegal : ∃ output after,
    Renders plainSettings .empty choiceItems lineSession ["a\nb"] output after ∧
      AllLegal (writtenIn choiceItems) ∧ AllLegal output := by
  obtain ⟨output, after, renders⟩ := choiceRenders
  have legal : AllLegal (writtenIn choiceItems) := by decide +kernel
  have isClean : ∀ text ∈ ["a\nb"], '\ufffe' ∉ text.toList ∧ '\uffff' ∉ text.toList := by decide
  have legalIff := (insertedStringIsLegalIff .empty true "a\nb").2 renders legal
  exact ⟨output, after, renders, legal, legalIff.2 isClean⟩

/-- The last character of the basic plane is no control character, and it is inserted as it is. -/
theorem lastOfPlaneIsInserted : ¬ ∀ (heap : Heap) (isInRun : Bool) (text written : String),
    insertedValue heap isInRun (.text text) = .ok written → AllLegal written.toList := by
  intro allLegal
  exact absurd (allLegal .empty false "\uffff" "\uffff" rfl) (by decide)

end

end Letterpress.Report
