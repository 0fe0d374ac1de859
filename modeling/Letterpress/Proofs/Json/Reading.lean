import Letterpress.Json.Reading
import Letterpress.Proofs.Number.Digits
import Letterpress.Proofs.Result
import Mathlib.Data.List.TakeWhile

/-!
This file shows which documents are ever read: their integers can be written again, and the names of
an object are distinct.
-/

namespace Letterpress.Json

/-- The integers in the document have no more digits than are read, and no name comes twice. -/
inductive IsSound : Json → Prop
  | null : IsSound .null
  | bool (value : Bool) : IsSound (.bool value)
  | int {value : Int} (isShort : (decimalDigits value.natAbs).length ≤ maximalDigits) :
      IsSound (.int value)
  | real (value : Binary64) : IsSound (.real value)
  | text (value : String) : IsSound (.text value)
  | array {items : List Json} (areSound : ∀ item ∈ items, IsSound item) : IsSound (.array items)
  | object {fields : List (String × Json)} (distinct : (fields.map Prod.fst).Nodup)
      (areSound : ∀ field ∈ fields, IsSound field.2) : IsSound (.object fields)

/-- What is read is a sound document. -/
def ReadsSound (found : Except Flaw (Json × List Char)) : Prop :=
  Yields (fun result => result.1.IsSound) found

/-! ### Numbers and words -/

theorem numberIsSound (negative : Bool) (characters : List Char) :
    ReadsSound (readNumber negative characters) := by
  have areDigits : ∀ digit ∈ if (characters.takeWhile Char.isDigit).head? = some '0' then ['0']
      else characters.takeWhile Char.isDigit, digit.isDigit = true := by
    split
    case isTrue => exact List.forall_mem_singleton.2 rfl
    case isFalse => exact fun _ => List.mem_takeWhile_imp
  unfold readNumber
  dsimp only
  generalize (if (characters.takeWhile Char.isDigit).head? = some '0' then ['0']
    else characters.takeWhile Char.isDigit) = whole at areDigits
  split
  case isTrue => exact yieldsError
  case isFalse notEmpty =>
    split
    case isTrue =>
      split
      case isTrue => exact yieldsError
      case isFalse isShort =>
        have bounded := digitsOfRead (by simpa using notEmpty) areDigits
        have sameSize : (if negative = true then -(readDecimal whole : Int)
            else (readDecimal whole : Int)).natAbs = readDecimal whole := by
          split <;> simp
        exact yieldsOk.2 (.int (by rw [sameSize]; omega))
    case isFalse =>
      split
      case h_1 => exact yieldsOk.2 (.real _)
      case h_2 => exact yieldsError

theorem wordIsSound {characters : List Char} {found : Json × List Char}
    (isWord : readWord? characters = some found) : found.1.IsSound := by
  obtain ⟨⟨word, value⟩, isInside, isFound⟩ := List.exists_of_findSome?_eq_some isWord
  dsimp only at isFound
  split at isFound
  case isFalse => exact nomatch isFound
  case isTrue =>
    obtain rfl := Option.some.inj isFound
    simp only [List.mem_cons, Prod.mk.injEq, List.not_mem_nil, or_false] at isInside
    obtain ⟨-, rfl⟩ | ⟨-, rfl⟩ | ⟨-, rfl⟩ | ⟨-, rfl⟩ | ⟨-, rfl⟩ | ⟨-, rfl⟩ := isInside <;> constructor

/-! ### Fields -/

/-- A field takes the place of the field of its name, or it comes last. -/
theorem putFieldSound {fields : List (String × Json)} {value : Json}
    (isSound : (object fields).IsSound) (valueSound : value.IsSound) (name : String) :
    (object (putField fields name value)).IsSound := by
  cases isSound with
  | object distinct areSound =>
    unfold putField
    split
    case isTrue =>
      refine .object ?_ (List.forall_mem_map.2 fun field isInside => ?_)
      · have sameNames (field : String × Json) :
            (if field.1 = name then (name, value) else field).1 = field.1 := by
          split
          case isTrue same => exact same.symm
          case isFalse => rfl
        simpa [Function.comp_def, sameNames] using distinct
      · split
        case isTrue => exact valueSound
        case isFalse => exact areSound field isInside
    case isFalse isNew =>
      have notInside : name ∉ fields.map Prod.fst := by
        simpa [List.mem_map] using isNew
      refine .object ?_ ?_
      · rw [List.map_append, List.nodup_append]
        refine ⟨distinct, List.nodup_cons.2 ⟨List.not_mem_nil, List.nodup_nil⟩, ?_⟩
        rintro other isInside last isLast rfl
        obtain rfl : other = name := List.mem_singleton.1 isLast
        exact notInside isInside
      · exact List.forall_mem_append.2 ⟨areSound, List.forall_mem_singleton.2 valueSound⟩

/-! ### Documents -/

section

variable {fuel : Nat} (values : ∀ depth characters, ReadsSound (readValue depth fuel characters))
  (items : ∀ depth read characters, (∀ item ∈ read, IsSound item) →
    ReadsSound (readItems depth read fuel characters))
  (fields : ∀ depth read characters, (object read).IsSound →
    ReadsSound (readFields depth read fuel characters))

include items fields in
theorem valueStep (depth : Nat) (characters : List Char) :
    ReadsSound (readValue depth (fuel + 1) characters) := by
  unfold readValue
  split
  case h_1 rest _ =>
    split
    case h_1 => exact yieldsOk.2 (.text _)
    case h_2 => exact yieldsError
  case h_2 rest _ =>
    cases depth with
    | zero => exact yieldsError
    | succ depth =>
        dsimp only
        split
        case h_1 => exact yieldsOk.2 (.array nofun)
        case h_2 => exact items depth [] rest nofun
  case h_3 rest _ =>
    cases depth with
    | zero => exact yieldsError
    | succ depth =>
        dsimp only
        split
        case h_1 => exact yieldsOk.2 (.object List.nodup_nil nofun)
        case h_2 => exact fields depth [] rest (.object List.nodup_nil nofun)
  case h_4 trimmed _ _ _ =>
    split
    case h_1 found isWord => exact yieldsOk.2 (wordIsSound isWord)
    case h_2 =>
      split
      case h_1 => exact numberIsSound true _
      case h_2 => exact numberIsSound false _

include values items in
theorem itemsStep (depth : Nat) (read : List Json) (characters : List Char)
    (areSound : ∀ item ∈ read, item.IsSound) :
    ReadsSound (readItems depth read (fuel + 1) characters) := by
  unfold readItems
  split
  case h_1 => exact yieldsError
  case h_2 item after isRead =>
    have allSound : ∀ other ∈ item :: read, other.IsSound :=
      List.forall_mem_cons.2 ⟨values depth characters _ isRead, areSound⟩
    split
    case h_1 rest _ => exact items depth _ rest allSound
    case h_2 => exact yieldsOk.2 (.array fun other isInside =>
      allSound other (List.mem_reverse.1 isInside))
    case h_3 => exact yieldsError

include values fields in
theorem fieldsStep (depth : Nat) (read : List (String × Json)) (characters : List Char)
    (isSound : (object read).IsSound) :
    ReadsSound (readFields depth read (fuel + 1) characters) := by
  unfold readFields
  split
  case h_2 => exact yieldsError
  case h_1 afterQuote _ =>
    split
    case h_1 => exact yieldsError
    case h_2 name afterName _ =>
      split
      case h_2 => exact yieldsError
      case h_1 afterColon _ =>
        split
        case h_1 => exact yieldsError
        case h_2 value after isRead =>
          have allSound := putFieldSound isSound (values depth afterColon _ isRead) name
          split
          case h_1 rest _ => exact fields depth _ rest allSound
          case h_2 => exact yieldsOk.2 allSound
          case h_3 => exact yieldsError

end

/-- The readers call each other with one step less of fuel. -/
theorem readersAreSound (fuel : Nat) :
    (∀ depth characters, ReadsSound (readValue depth fuel characters)) ∧
      (∀ depth read characters, (∀ item ∈ read, IsSound item) →
        ReadsSound (readItems depth read fuel characters)) ∧
      ∀ depth read characters, (object read).IsSound →
        ReadsSound (readFields depth read fuel characters) := by
  induction fuel with
  | zero => exact ⟨fun _ _ => yieldsError, fun _ _ _ _ => yieldsError, fun _ _ _ _ => yieldsError⟩
  | succ fuel inductionHypothesis =>
      obtain ⟨values, items, fields⟩ := inductionHypothesis
      exact ⟨valueStep items fields, itemsStep values items, fieldsStep values fields⟩

theorem readIsSound {content : String} {document : Json} (isRead : read content = .ok document) :
    document.IsSound := by
  unfold read at isRead
  dsimp only at isRead
  split at isRead
  case h_1 => exact nomatch isRead
  case h_2 found rest isValue =>
    split at isRead
    case isFalse => exact nomatch isRead
    case isTrue =>
      obtain rfl := Except.ok.inj isRead
      exact (readersAreSound _).1 _ _ _ isValue

end Letterpress.Json
