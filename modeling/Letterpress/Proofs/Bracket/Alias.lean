import Letterpress.Bracket.Alias
import Mathlib.Data.List.Nodup
import Mathlib.Data.List.Perm.Subperm

/-!
This file shows that the alias of a loop is a name and that no loop around it has the same alias.
-/

namespace Letterpress.Bracket

/-- A name holds ASCII letters, digits and underscores only. -/
def IsName (itemName : String) : Prop :=
  itemName ≠ "" ∧ ∀ character ∈ itemName.toList, Text.isAsciiWord character = true

theorem decimalTextInjective {count other : Nat} (same : decimalText count = decimalText other) :
    count = other := by
  have sameDigits : Nat.toDigits 10 count = Nat.toDigits 10 other := String.ofList_inj.1 same
  have sameValue := congrArg (fun digits => Nat.ofDigitChars 10 digits 0) sameDigits
  simpa using sameValue

theorem decimalTextNotEmpty (count : Nat) : decimalText count ≠ "" := by
  simp [decimalText, decimalDigits, Nat.toDigits_ne_nil]

/-- A numbered candidate differs from the base. -/
theorem numberedNotBase (base : String) (count : Nat) : candidate base (count + 1) ≠ base := by
  intro same
  have empty : decimalText (count + 2) = "" :=
    (String.append_right_inj base).1 (same.trans String.append_empty.symm)
  exact decimalTextNotEmpty _ empty

theorem candidateInjective (base : String) : Function.Injective (candidate base) := by
  intro count other same
  cases count with
  | zero =>
      cases other with
      | zero => rfl
      | succ other => exact absurd same.symm (numberedNotBase base other)
  | succ count =>
      cases other with
      | zero => exact absurd same (numberedNotBase base count)
      | succ other =>
          have sameNumber := decimalTextInjective ((String.append_right_inj base).1 same)
          omega

/-- One of the first candidates is not active, for there are more of them. -/
theorem candidateNotActive (base : String) (active : List String) :
    ∃ count ≤ active.length, candidate base count ∉ active := by
  by_contra allUsed
  push Not at allUsed
  have allActive : (List.range (active.length + 1)).map (candidate base) ⊆ active := by
    intro itemName isCandidate
    obtain ⟨count, inRange, rfl⟩ := List.mem_map.1 isCandidate
    exact allUsed count (Nat.le_of_lt_succ (List.mem_range.1 inRange))
  have distinct : ((List.range (active.length + 1)).map (candidate base)).Nodup :=
    List.nodup_range.map (candidateInjective base)
  have bounded := (List.subperm_of_subset distinct allActive).length_le
  rw [List.length_map, List.length_range] at bounded
  omega

/-- The fresh alias is the first candidate that is not active. -/
theorem freshAliasFirst (base : String) (active : List String) :
    ∃ count, freshAlias base active = candidate base count ∧ candidate base count ∉ active ∧
      ∀ smaller < count, candidate base smaller ∈ active := by
  unfold freshAlias
  rw [List.find?_map]
  cases found : (List.range (active.length + 1)).find?
      ((fun itemName => !active.contains itemName) ∘ candidate base) with
  | some count =>
      obtain ⟨isFree, -, others⟩ := List.find?_range_eq_some.1 found
      exact ⟨count, rfl, by simpa using isFree, fun smaller isSmaller => by
        simpa using others smaller isSmaller⟩
  | none =>
      obtain ⟨count, bounded, isFree⟩ := candidateNotActive base active
      have isUsed := List.find?_eq_none.1 found count
        (List.mem_range.2 (Nat.lt_succ_of_le bounded))
      exact absurd (by simpa using isUsed) isFree

theorem freshAliasNotActive (base : String) (active : List String) :
    freshAlias base active ∉ active := by
  obtain ⟨count, same, isFree, -⟩ := freshAliasFirst base active
  exact same ▸ isFree

theorem deriveAliasNotActive (rules : AliasRules) (loopName : String) (active : List String) :
    deriveAlias rules loopName active ∉ active :=
  freshAliasNotActive _ active

/-! ### Aliases are names -/

theorem decimalTextIsAsciiWord (count : Nat) :
    ∀ character ∈ (decimalText count).toList, Text.isAsciiWord character = true := by
  intro character isDigit
  rw [decimalText, String.toList_ofList, decimalDigits] at isDigit
  have digit := Nat.isDigit_of_mem_toDigits (by decide) (by decide) isDigit
  simp [Text.isAsciiWord, Char.isAlphanum, digit]

theorem candidateIsName {base : String} (isName : IsName base) (count : Nat) :
    IsName (candidate base count) := by
  cases count with
  | zero => exact isName
  | succ count =>
      refine ⟨fun empty => isName.1 (String.append_eq_empty_iff.1 empty).1, ?_⟩
      intro character isInside
      rw [candidate, String.toList_append, List.mem_append] at isInside
      exact isInside.elim (isName.2 character) (decimalTextIsAsciiWord _ character)

theorem baseAliasIsName {rules : AliasRules} (fallback : IsName rules.fallback)
    (loopName : String) : IsName (baseAlias rules loopName) := by
  simp only [baseAlias]
  split
  case isTrue starts =>
    refine ⟨fun empty => ?_, ?_⟩
    · rw [String.ofList_eq_empty_iff.1 empty] at starts
      exact nomatch starts
    · intro character isInside
      rw [String.toList_ofList] at isInside
      exact (List.mem_filter.1 isInside).2
  case isFalse => exact fallback

theorem deriveAliasIsName {rules : AliasRules} (fallback : IsName rules.fallback)
    (loopName : String) (active : List String) : IsName (deriveAlias rules loopName active) := by
  have baseIsName := baseAliasIsName fallback loopName
  unfold deriveAlias freshAlias
  generalize baseAlias rules loopName = base at baseIsName
  cases found : List.find? (fun itemName => !active.contains itemName)
      ((List.range (active.length + 1)).map (candidate base)) with
  | none => exact baseIsName
  | some itemName =>
      obtain ⟨count, -, rfl⟩ := List.mem_map.1 (List.mem_of_find?_eq_some found)
      exact candidateIsName baseIsName count

theorem standardFallbackIsName : IsName AliasRules.standard.fallback :=
  ⟨by decide, List.all_eq_true.1 (by decide)⟩

end Letterpress.Bracket
