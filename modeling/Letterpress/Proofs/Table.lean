import Letterpress.Table
import Mathlib.Data.List.Induction

/-!
This file tells which entries a table has that is made of a list, and in which order: a name has the
place where it first came and the entry that came last.
-/

namespace Letterpress.Table

variable {Entry : Type} {name : String} {entry : Entry} {entries : List (String × Entry)}

/-- A name that is new comes last. -/
theorem insertIntoNew (isNew : name ∉ entries.map Prod.fst) :
    insertInto name entry entries = entries ++ [(name, entry)] := by
  induction entries with
  | nil => rfl
  | cons first rest inductionHypothesis =>
      rw [List.map_cons, List.mem_cons, not_or] at isNew
      rw [insertInto, if_neg (Ne.symm isNew.1), inductionHypothesis isNew.2, List.cons_append]

/-- A name that is there keeps its place. -/
theorem namesInsertInto (isThere : name ∈ entries.map Prod.fst) :
    (insertInto name entry entries).map Prod.fst = entries.map Prod.fst := by
  induction entries with
  | nil => exact absurd isThere List.not_mem_nil
  | cons first rest inductionHypothesis =>
      rw [insertInto]
      split
      case isTrue same => rw [List.map_cons, List.map_cons, same]
      case isFalse different =>
        have inRest := (List.mem_cons.1 isThere).resolve_left (Ne.symm different)
        rw [List.map_cons, inductionHypothesis inRest, List.map_cons]

theorem ofListSnoc (entries : List (String × Entry)) (last : String × Entry) :
    ofList (entries ++ [last]) = (ofList entries).insert last.1 last.2 :=
  List.foldl_append ..

theorem namesInsert (table : Table Entry) (name : String) (entry : Entry) :
    (table.insert name entry).names =
      if name ∈ table.names then table.names else table.names ++ [name] := by
  split
  case isTrue isThere => exact namesInsertInto isThere
  case isFalse isNew =>
    change (insertInto name entry table.entries).map Prod.fst = _
    rw [insertIntoNew isNew, List.map_append]
    rfl

/-- The names stand in the order in which they first came. -/
theorem namesOfList (entries : List (String × Entry)) :
    (ofList entries).names = (entries.map Prod.fst).eraseDups := by
  induction entries using List.reverseRecOn with
  | nil => rfl
  | append_singleton entries last inductionHypothesis =>
      rw [ofListSnoc, namesInsert, inductionHypothesis, List.map_append, List.eraseDups_append]
      rw [List.map_singleton, List.removeAll]
      simp only [List.mem_eraseDups]
      by_cases isThere : last.1 ∈ entries.map Prod.fst <;> simp [isThere, List.eraseDups_cons]

/-- If no name comes twice, the entries are those of the list. -/
theorem entriesOfDistinct (distinct : (entries.map Prod.fst).Nodup) :
    (ofList entries).entries = entries := by
  induction entries using List.reverseRecOn with
  | nil => rfl
  | append_singleton entries last inductionHypothesis =>
      rw [List.map_append, List.nodup_append] at distinct
      obtain ⟨earlier, -, apart⟩ := distinct
      have isNew : last.1 ∉ entries.map Prod.fst := fun isThere =>
        apart last.1 isThere last.1 (List.mem_singleton_self _) rfl
      have same := inductionHypothesis earlier
      rw [ofListSnoc]
      change insertInto last.1 last.2 (ofList entries).entries = _
      rw [same, insertIntoNew isNew]

/-- The last entry of a name counts. -/
theorem lastOfList : (ofList entries).get? name = some entry ↔
    ∃ before after, entries = before ++ (name, entry) :: after ∧ ∀ other ∈ after, other.1 ≠ name := by
  rw [getOfList, List.lookup_eq_some_iff]
  constructor
  · rintro ⟨before, after, split, notBefore⟩
    refine ⟨after.reverse, before.reverse, ?_, fun other isBefore => ?_⟩
    · rw [← List.reverse_reverse entries, split, List.reverse_append, List.reverse_cons,
        List.append_assoc, List.singleton_append]
    · exact (bne_iff_ne.1 (notBefore other (List.mem_reverse.1 isBefore))).symm
  · rintro ⟨before, after, rfl, notAfter⟩
    refine ⟨after.reverse, before.reverse, ?_, fun other isAfter => ?_⟩
    · rw [List.reverse_append, List.reverse_cons, List.append_assoc, List.singleton_append]
    · exact bne_iff_ne.2 (notAfter other (List.mem_reverse.1 isAfter)).symm

end Letterpress.Table
