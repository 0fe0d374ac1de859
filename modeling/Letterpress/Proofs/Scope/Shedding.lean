import Letterpress.Scope.Basic

/-!
This file follows the values that a scope loses. A table without some names keeps its other entries
in their order, and the installing of helpers takes away only values that have the name of a helper
which is not installed yet.
-/

namespace Letterpress

namespace Table

variable {Entry : Type}

/-- This drops the entries of some names. -/
def without (table : Table Entry) (names : List String) : Table Entry :=
  table.filter fun name _ => !names.contains name

theorem eqOfEntries {first second : Table Entry} (same : first.entries = second.entries) :
    first = second := by
  cases first
  cases second
  cases same
  rfl

theorem withoutNone (table : Table Entry) : table.without [] = table := by
  refine eqOfEntries (List.filter_eq_self.2 fun entry _ => ?_)
  rfl

theorem withoutBoth (table : Table Entry) (names others : List String) :
    (table.without names).without others = table.without (names ++ others) := by
  refine eqOfEntries ?_
  simp only [without, filter, List.filter_filter]
  congr 1
  funext entry
  simp [Bool.and_comm]

theorem eraseWithout (table : Table Entry) (name : String) :
    table.erase name = table.without [name] := by
  refine eqOfEntries ?_
  simp only [erase, without, filter]
  congr 1
  funext entry
  simp

theorem withoutAbsent {table : Table Entry} {names : List String}
    (absent : ∀ name ∈ names, name ∉ table.names) : table.without names = table := by
  refine eqOfEntries (List.filter_eq_self.2 fun entry isInside => ?_)
  rw [Bool.not_eq_true', Bool.eq_false_iff]
  intro isNamed
  exact absent entry.1 (List.contains_iff_mem.1 isNamed) (List.mem_map_of_mem isInside)

theorem withoutInsert {table : Table Entry} {name : String} {entry : Entry} {names : List String}
    (dropped : name ∈ names) : (table.insert name entry).without names = table.without names := by
  refine eqOfEntries ?_
  simp only [without, filter, insert]
  induction table.entries with
  | nil => simp [insertInto, dropped]
  | cons first rest inductionHypothesis =>
      rw [insertInto]
      split
      case isTrue same =>
        rw [List.filter_cons_of_neg (by simpa using dropped),
          List.filter_cons_of_neg (by simpa [same] using dropped)]
      case isFalse => rw [List.filter_cons, List.filter_cons, inductionHypothesis]

theorem insertedWithout {entries : List (String × Entry)} {names : List String}
    (dropped : ∀ entry ∈ entries, entry.1 ∈ names) (table : Table Entry) :
    (entries.foldl (fun result entry => result.insert entry.1 entry.2) table).without names =
      table.without names := by
  induction entries generalizing table with
  | nil => rfl
  | cons first rest inductionHypothesis =>
      obtain ⟨firstDropped, restDropped⟩ := List.forall_mem_cons.1 dropped
      rw [List.foldl_cons, inductionHypothesis restDropped, withoutInsert firstDropped]

/-- What lies over a table is gone without its names, and so is what it hides. -/
theorem overlayWithout {table other : Table Entry} {names : List String}
    (dropped : other.names ⊆ names) : (table.overlay other).without names = table.without names :=
  insertedWithout (fun _ isInside => dropped (List.mem_map_of_mem isInside)) table

theorem containsIff {table : Table Entry} {name : String} :
    table.contains name = true ↔ name ∈ table.names := by
  rw [contains, get?, names]
  induction table.entries with
  | nil => simp
  | cons first rest inductionHypothesis =>
      rw [lookupCons, List.map_cons, List.mem_cons]
      split
      case isTrue same => simp [same]
      case isFalse differs => simp only [inductionHypothesis, differs, false_or]

theorem memberWithout {table : Table Entry} {names : List String} {name : String} :
    name ∈ (table.without names).names ↔ name ∉ names ∧ name ∈ table.names := by
  simp only [Table.names, without, filter, List.mem_map, List.mem_filter, Bool.not_eq_true',
    List.contains_eq_mem, decide_eq_false_iff_not]
  constructor
  · rintro ⟨entry, ⟨isEntry, isKept⟩, rfl⟩
    exact ⟨isKept, entry, isEntry, rfl⟩
  · rintro ⟨isKept, entry, isEntry, rfl⟩
    exact ⟨entry, ⟨isEntry, isKept⟩, rfl⟩

end Table

namespace Scope

/-- A scope sheds values if it loses some of the allowed names and no binding. -/
structure Sheds (allowed : String → Prop) (before after : Scope) : Prop where
  values : ∃ lost, (∀ name ∈ lost, allowed name) ∧ after.values = before.values.without lost
  bindings : ∀ name, before.bindings.contains name = true → after.bindings.contains name = true

variable {allowed : String → Prop} {before middle after scope : Scope}

theorem Sheds.refl (scope : Scope) : scope.Sheds allowed scope :=
  ⟨⟨[], nofun, (Table.withoutNone _).symm⟩, fun _ => id⟩

theorem Sheds.trans (first : before.Sheds allowed middle) (second : middle.Sheds allowed after) :
    before.Sheds allowed after := by
  obtain ⟨lost, allAllowed, afterFirst⟩ := first.values
  obtain ⟨others, othersAllowed, afterSecond⟩ := second.values
  refine ⟨⟨lost ++ others, List.forall_mem_append.2 ⟨allAllowed, othersAllowed⟩, ?_⟩, ?_⟩
  · rw [afterSecond, afterFirst, Table.withoutBoth]
  · exact fun name isBound => second.bindings name (first.bindings name isBound)

/-- A binding more changes no value. -/
theorem shedsByBinding (scope : Scope) (name : String) (binding : Binding) :
    scope.Sheds allowed (scope.bind name binding) := by
  refine ⟨⟨[], nofun, (Table.withoutNone _).symm⟩, fun other isBound => ?_⟩
  simp only [Table.contains, bind, Table.getInsert] at isBound ⊢
  split
  · rfl
  · exact isBound

theorem shedsByEnsureOne {name : String} (default : Callable)
    (isAllowed : scope.bindings.contains name = false → allowed name) :
    scope.Sheds allowed (scope.ensureOne name default) := by
  unfold ensureOne
  cases found : scope.bindings.get? name with
  | some binding => exact shedsByBinding scope name _
  | none =>
      have unbound : scope.bindings.contains name = false := by
        rw [Table.contains, found]
        rfl
      have sheds : scope.Sheds allowed _ := shedsByBinding scope name
        ⟨.function default, overrideFrom (scope.values.get? name)⟩
      refine ⟨⟨[name], ?_, Table.eraseWithout _ _⟩, sheds.bindings⟩
      exact fun other isOther => List.mem_singleton.1 isOther ▸ isAllowed unbound

theorem shedsByReinstateOne (name : String) (default : Callable) :
    scope.Sheds allowed (scope.reinstateOne name default) := by
  unfold reinstateOne
  split
  · exact .refl scope
  · exact shedsByBinding scope name _

/-- A scope misses a helper if its name is not bound. -/
def Misses (helpers : Helpers) (scope : Scope) (name : String) : Prop :=
  helpers.contains name = true ∧ scope.bindings.contains name = false

theorem Sheds.misses {helpers : Helpers} {name : String} (sheds : before.Sheds allowed after)
    (misses : Misses helpers after name) : Misses helpers before name := by
  refine ⟨misses.1, Bool.eq_false_iff.2 fun isBound => ?_⟩
  exact Bool.false_ne_true (misses.2.symm.trans (sheds.bindings name isBound))

/-- Installing the helpers takes away values under the names of missing ones. -/
theorem shedsByEnsure {helpers : Helpers}
    (isAllowed : ∀ name, Misses helpers scope name → allowed name) :
    scope.Sheds allowed (scope.ensure helpers) := by
  have shedsAll (entries : List (String × Callable)) (areHelpers : entries ⊆ helpers.entries)
      (start : Scope) (isAllowed : ∀ name, Misses helpers start name → allowed name) :
      start.Sheds allowed
        (entries.foldl (fun result helper => result.ensureOne helper.1 helper.2) start) := by
    induction entries generalizing start with
    | nil => exact .refl start
    | cons first rest inductionHypothesis =>
        obtain ⟨isHelper, areOthers⟩ := List.cons_subset.1 areHelpers
        have shedsFirst : start.Sheds allowed (start.ensureOne first.1 first.2) :=
          shedsByEnsureOne first.2 fun unbound => isAllowed first.1
            ⟨Table.containsIff.2 (List.mem_map_of_mem isHelper), unbound⟩
        refine shedsFirst.trans (inductionHypothesis areOthers _ fun name misses => ?_)
        exact isAllowed name (shedsFirst.misses misses)
  exact shedsAll helpers.entries (List.Subset.refl _) scope isAllowed

/-- Reinstating the helpers does no more. -/
theorem shedsByReinstate {helpers : Helpers}
    (isAllowed : ∀ name, Misses helpers scope name → allowed name) :
    scope.Sheds allowed (scope.reinstate helpers) := by
  have shedsAll (entries : List (String × Callable)) (start : Scope) : start.Sheds allowed
      (entries.foldl (fun result helper => result.reinstateOne helper.1 helper.2) start) := by
    induction entries generalizing start with
    | nil => exact .refl start
    | cons first rest inductionHypothesis =>
        exact (shedsByReinstateOne first.1 first.2).trans (inductionHypothesis _)
  exact (shedsByEnsure isAllowed).trans (shedsAll helpers.entries _)

end Scope

end Letterpress
