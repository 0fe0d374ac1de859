import Letterpress.Proofs.Result
import Letterpress.Proofs.Text.Letter
import Letterpress.Stamp.Preview
import Mathlib.Data.List.Basic
import Mathlib.Data.List.Induction

/-!
This file shows that a store of previews is a map from ids to contents, which holds under each id what
was saved last, and it tells which texts are ids.
-/

namespace Letterpress

/-- These are the calls of a store. A saving knows the id that was drawn for it. -/
inductive PreviewCall
  | save (id : String) (content : Content)
  | load (id : String)
  | has (id : String)
  | delete (id : String)

namespace PreviewCall

/-- Only savings and deletions change what is kept under their ids. -/
def Touches (call : PreviewCall) (id : String) : Prop :=
  match call with
  | save other _ => other = id
  | delete other => other = id
  | _ => False

end PreviewCall

namespace PreviewStore

/-- This is the store after a call. A call that fails leaves it as it is. -/
def after (store : PreviewStore) : PreviewCall → PreviewStore
  | .save id content => store.save id content
  | .load _ => store
  | .has _ => store
  | .delete id =>
      match store.delete id with
      | .ok (_, next) => next
      | .error _ => store

def afterAll (store : PreviewStore) (calls : List PreviewCall) : PreviewStore :=
  calls.foldl after store

def Leave (calls : List PreviewCall) (id : String) : Prop := ∀ call ∈ calls, ¬ call.Touches id

/-- The content was saved under the id, or it was there at first, and no call since then has touched
the id. -/
def IsKept (store : PreviewStore) (calls : List PreviewCall) (id : String) (content : Content) :
    Prop :=
  (∃ before since, calls = before ++ .save id content :: since ∧ Leave since id) ∨
    store.content? id = some content ∧ Leave calls id

variable {store : PreviewStore} {calls : List PreviewCall} {id other : String} {content : Content}
  {Result : Type}

/-! ### Ids -/

/-- These are the characters of ids. -/
def IsIdLetter (character : Char) : Prop :=
  'A' ≤ character ∧ character ≤ 'Z' ∨ 'a' ≤ character ∧ character ≤ 'z' ∨
    '0' ≤ character ∧ character ≤ '9' ∨ character = '_' ∨ character = '-'

theorem idCharacterIff {character : Char} :
    isIdCharacter character = true ↔ IsIdLetter character := by
  have isLetter : character.isAlphanum = true ↔
      ('A' ≤ character ∧ character ≤ 'Z' ∨ 'a' ≤ character ∧ character ≤ 'z') ∨
        '0' ≤ character ∧ character ≤ '9' := Text.isAlphanumIff
  rw [isIdCharacter, Bool.or_eq_true, Bool.or_eq_true, decide_eq_true_eq, decide_eq_true_eq,
    isLetter]
  simp only [IsIdLetter, or_assoc]

/-- A line feed is no character of an id. -/
theorem lineFeedNoLetter : ¬ IsIdLetter '\n' := by
  rw [← idCharacterIff]
  decide

theorem lettersIff {letters : List Char} : (!letters.isEmpty && letters.all isIdCharacter) = true ↔
    letters ≠ [] ∧ ∀ letter ∈ letters, IsIdLetter letter := by
  simp [idCharacterIff]

/-- An id is a text of id characters that is not empty. A line feed may stand at its end. -/
theorem isIdIff : isId id = true ↔ ∃ letters : List Char, letters ≠ [] ∧
    (∀ letter ∈ letters, IsIdLetter letter) ∧
    (id.toList = letters ∨ id.toList = letters ++ ['\n']) := by
  rw [isId, lettersIff]
  constructor
  · rintro ⟨notEmpty, allLetters⟩
    refine ⟨_, notEmpty, allLetters, ?_⟩
    unfold dropFinalLineFeed
    split
    case isTrue isLast =>
      obtain ⟨front, isText⟩ := List.getLast?_eq_some_iff.1 isLast
      rw [isText, List.dropLast_concat]
      exact .inr rfl
    case isFalse => exact .inl rfl
  · rintro ⟨letters, notEmpty, allLetters, isText | isText⟩
    · have noneLast : id.toList.getLast? ≠ some '\n' := fun isLast =>
        lineFeedNoLetter (allLetters _ (isText ▸ List.mem_of_getLast? isLast))
      rw [dropFinalLineFeed, if_neg noneLast, isText]
      exact ⟨notEmpty, allLetters⟩
    · rw [dropFinalLineFeed, isText, List.getLast?_concat, if_pos rfl, List.dropLast_concat]
      exact ⟨notEmpty, allLetters⟩

/-! ### Files -/

/-- The file of an id lies in the folder itself. -/
theorem fileNameNoSlash (isValid : isId id = true) : '/' ∉ (fileName id).toList := by
  obtain ⟨letters, -, allLetters, isText⟩ := isIdIff.1 isValid
  have notInLetters : '/' ∉ letters := fun isInside =>
    absurd (idCharacterIff.2 (allLetters '/' isInside)) (by decide)
  have notInId : '/' ∉ id.toList := by
    obtain isText | isText := isText
    · rwa [isText]
    · rw [isText, List.mem_append, not_or]
      exact ⟨notInLetters, by decide⟩
  rw [fileName, String.toList_append, List.mem_append, not_or]
  exact ⟨notInId, by decide⟩

/-- Different ids have different files. -/
theorem fileNameInj : fileName id = fileName other ↔ id = other := by
  rw [fileName, fileName, String.append_left_inj]

theorem contentOfSave (store : PreviewStore) (other : String) (content : Content) (id : String) :
    (store.save other content).content? id =
      if other = id then some content else store.content? id := by
  rw [content?, save, Table.getInsert]
  simp only [fileNameInj, @eq_comm _ id, content?]

theorem loadOfId (isId : isId id = true) : store.load id =
    (store.content? id).elim (.error (.unknownPreview id)) .ok := by
  rw [load, checkId, if_pos isId]
  cases store.content? id <;> rfl

theorem deleteOfId (isId : isId id = true) : store.delete id =
    .ok ((store.content? id).isSome, { store with files := store.files.erase (fileName id) }) := by
  rw [delete, checkId, if_pos isId]
  rfl

theorem contentOfErase (store : PreviewStore) (other id : String) :
    ({ store with files := store.files.erase (fileName other) } : PreviewStore).content? id =
      if other = id then none else store.content? id := by
  rw [content?, Table.getErase]
  simp only [fileNameInj, @eq_comm _ id, content?]

/-! ### Calls -/

/-- A call changes what is kept under its own id at most. -/
theorem contentAfterOther {call : PreviewCall} (untouched : ¬ call.Touches id) :
    (store.after call).content? id = store.content? id := by
  cases call with
  | save other content => exact (contentOfSave store other content id).trans (if_neg untouched)
  | load => rfl
  | has => rfl
  | delete other =>
      rw [after]
      cases isValid : isId other with
      | true =>
          rw [deleteOfId isValid]
          exact (contentOfErase store other id).trans (if_neg untouched)
      | false =>
          rw [delete, checkId, isValid]
          rfl

theorem contentAfterDelete (isValid : isId id = true) :
    (store.after (.delete id)).content? id = none := by
  rw [after, deleteOfId isValid]
  exact (contentOfErase store id id).trans (if_pos rfl)

theorem leaveSnoc {call : PreviewCall} :
    Leave (calls ++ [call]) id ↔ Leave calls id ∧ ¬ call.Touches id := by
  simp only [Leave, List.forall_mem_append, List.forall_mem_singleton]

theorem keptAfterSnoc {call : PreviewCall} : IsKept store (calls ++ [call]) id content ↔
    call = .save id content ∨ ¬ call.Touches id ∧ IsKept store calls id content := by
  constructor
  · rintro (⟨before, since, same, left⟩ | ⟨isFirst, left⟩)
    · obtain rfl | ⟨earlier, last, rfl⟩ := since.eq_nil_or_concat'
      · exact .inl (List.singleton_inj.1 (List.append_inj_right' same rfl))
      · rw [← List.cons_append, ← List.append_assoc] at same
        obtain ⟨rfl, sameCall⟩ := List.append_inj' same rfl
        obtain rfl := List.singleton_inj.1 sameCall
        obtain ⟨leftEarlier, untouched⟩ := leaveSnoc.1 left
        exact .inr ⟨untouched, .inl ⟨before, earlier, rfl, leftEarlier⟩⟩
    · obtain ⟨leftBefore, untouched⟩ := leaveSnoc.1 left
      exact .inr ⟨untouched, .inr ⟨isFirst, leftBefore⟩⟩
  · rintro (rfl | ⟨untouched, ⟨before, since, rfl, left⟩ | ⟨isFirst, left⟩⟩)
    · exact .inl ⟨calls, [], rfl, List.forall_mem_nil _⟩
    · refine .inl ⟨before, since ++ [call], ?_, leaveSnoc.2 ⟨left, untouched⟩⟩
      rw [List.append_assoc, List.cons_append]
    · exact .inr ⟨isFirst, leaveSnoc.2 ⟨left, untouched⟩⟩

/-- One more call keeps what the calls before have kept, or it saves or deletes. -/
theorem contentAfterCall (isValid : isId id = true) (call : PreviewCall) :
    (store.after call).content? id = some content ↔
      call = .save id content ∨ ¬ call.Touches id ∧ store.content? id = some content := by
  by_cases touches : call.Touches id
  · cases call with
    | save other saved =>
        have same : other = id := touches
        subst same
        rw [after, contentOfSave, if_pos rfl]
        simp [touches]
    | load => exact touches.elim
    | has => exact touches.elim
    | delete other =>
        have same : other = id := touches
        subst same
        simp [contentAfterDelete isValid, touches]
  · rw [contentAfterOther touches]
    refine ⟨fun found => .inr ⟨touches, found⟩, ?_⟩
    rintro (rfl | ⟨-, found⟩)
    · exact absurd rfl touches
    · exact found

/-- After some calls the store holds under an id what is kept there. -/
theorem contentAfterAll (isValid : isId id = true) (calls : List PreviewCall) :
    (store.afterAll calls).content? id = some content ↔ IsKept store calls id content := by
  induction calls using List.reverseRecOn with
  | nil => simp [afterAll, IsKept, Leave]
  | append_singleton calls call inductionHypothesis =>
      rw [afterAll, List.foldl_append, keptAfterSnoc, ← inductionHypothesis]
      exact contentAfterCall isValid call

/-! ### Answers -/

/-- The call is refused with a message, and the details name the id. -/
def IsRefused (id message : String) (result : Except StampProblem Result) : Prop :=
  ∃ problem, result = .error problem ∧ problem.kind = .preview ∧ ∀ wording,
    problem.message wording = message ∧ problem.details wording = [("preview_id", .text id)]

theorem refusedAsInvalid (id : String) : IsRefused id "Invalid preview id"
    (.error (.invalidPreview id) : Except StampProblem Result) :=
  ⟨_, rfl, rfl, fun _ => ⟨rfl, rfl⟩⟩

theorem refusedAsUnknown (id : String) : IsRefused id "Preview not found"
    (.error (.unknownPreview id) : Except StampProblem Result) :=
  ⟨_, rfl, rfl, fun _ => ⟨rfl, rfl⟩⟩

/-- What is no id is refused, and nothing is looked up or changed. -/
theorem answersToInvalid (store : PreviewStore) (isInvalid : isId id = false) :
    IsRefused id "Invalid preview id" (store.load id) ∧
      IsRefused id "Invalid preview id" (store.delete id) ∧ store.has id = false ∧
        store.after (.delete id) = store := by
  have loads : store.load id = .error (.invalidPreview id) := by
    rw [load, checkId, isInvalid]
    rfl
  have deletes : store.delete id = .error (.invalidPreview id) := by
    rw [delete, checkId, isInvalid]
    rfl
  refine ⟨loads ▸ refusedAsInvalid id, deletes ▸ refusedAsInvalid id, ?_, ?_⟩
  · rw [has, isInvalid, Bool.false_and]
  · rw [after, deletes]

/-- What is an id is looked up, and nothing but a deletion changes its entry. -/
theorem answersToValid (store : PreviewStore) (isValid : isId id = true) :
    (∀ content, store.load id = .ok content ↔ store.content? id = some content) ∧
      (IsRefused id "Preview not found" (store.load id) ↔ store.content? id = none) ∧
      (store.has id = true ↔ ∃ content, store.content? id = some content) ∧
      store.delete id = .ok (store.has id, store.after (.delete id)) := by
  refine ⟨fun content => ?_, ?_, ?_, ?_⟩
  · rw [loadOfId isValid]
    cases store.content? id <;> simp
  · rw [loadOfId isValid]
    cases store.content? id with
    | none => exact iff_of_true (refusedAsUnknown id) rfl
    | some content =>
        refine iff_of_false ?_ (Option.some_ne_none content)
        rintro ⟨problem, isError, -⟩
        cases isError
  · rw [has, isValid, Bool.true_and, Option.isSome_iff_exists]
  · rw [after, deleteOfId isValid, has, isValid, Bool.true_and]

/-- After any calls a text of id characters, which may end with a line feed, is looked up in a file of
the folder among what was saved and not deleted since, and any other text is refused. What is found
under an id depends on the calls that save or delete this id only. -/
theorem previewsFollowCalls (store : PreviewStore) (calls : List PreviewCall) (id : String) :
    let current := store.afterAll calls
    (isId id = true ↔ ∃ letters : List Char, letters ≠ [] ∧ (∀ letter ∈ letters, IsIdLetter letter) ∧
        (id.toList = letters ∨ id.toList = letters ++ ['\n'])) ∧
      if isId id = true then
        '/' ∉ (fileName id).toList ∧
          (∀ content, current.load id = .ok content ↔ IsKept store calls id content) ∧
          (IsRefused id "Preview not found" (current.load id) ↔
            ¬ ∃ content, IsKept store calls id content) ∧
          (current.has id = true ↔ ∃ content, IsKept store calls id content) ∧
          ∃ next, current.delete id = .ok (current.has id, next) ∧ next.content? id = none ∧
            ∀ other, other ≠ id → next.content? other = current.content? other
      else
        IsRefused id "Invalid preview id" (current.load id) ∧
          IsRefused id "Invalid preview id" (current.delete id) ∧ current.has id = false ∧
            current.after (.delete id) = current := by
  intro current
  refine ⟨isIdIff, ?_⟩
  split
  case isTrue isValid =>
    have kept (content : Content) :
        current.content? id = some content ↔ IsKept store calls id content :=
      contentAfterAll isValid calls
    obtain ⟨loads, fails, has, deletes⟩ := answersToValid current isValid
    rw [Option.eq_none_iff_forall_ne_some] at fails
    simp only [ne_eq, kept, ← not_exists] at loads fails has
    refine ⟨fileNameNoSlash isValid, loads, fails, has, _, deletes, contentAfterDelete isValid, ?_⟩
    exact fun other different => contentAfterOther fun touches => different touches.symm
  case isFalse isInvalid => exact answersToInvalid current (Bool.eq_false_iff.2 isInvalid)

/-- A text that ends with a line feed is accepted, though a line feed is no character of an id. -/
theorem lineFeedIsAccepted : ¬ ∀ (store : PreviewStore) (id : String),
    (∃ character ∈ id.toList, ¬ IsIdLetter character) →
      IsRefused id "Invalid preview id" (store.load id) := by
  intro allRefused
  have isValid : isId "a\n" = true := by decide
  have isUnknown := (answersToValid empty isValid).2.1.2 rfl
  obtain ⟨problem, isError, -, invalid⟩ :=
    allRefused empty "a\n" ⟨'\n', by decide, lineFeedNoLetter⟩
  obtain ⟨other, isOther, -, unknown⟩ := isUnknown
  obtain rfl : problem = other := Except.error.inj (isError.symm.trans isOther)
  let wording : Wording := ⟨fun _ => "", "", "", "", ""⟩
  exact absurd ((invalid wording).1.symm.trans (unknown wording).1) (by decide)

end PreviewStore

end Letterpress
