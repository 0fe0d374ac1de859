/-!
This file tells when a result that depends on others is a success, and when it is a failure. It also
tells when two results agree.
-/

namespace Letterpress

variable {Failure First Second : Type} {found : Except Failure First}

theorem bindOkIff {next : First → Except Failure Second} {result : Second} :
    found.bind next = .ok result ↔ ∃ first, found = .ok first ∧ next first = .ok result := by
  cases found with
  | error failure => simp [Except.bind]
  | ok first => simp [Except.bind]

theorem bindErrorIff {next : First → Except Failure Second} {failure : Failure} :
    found.bind next = .error failure ↔
      found = .error failure ∨ ∃ first, found = .ok first ∧ next first = .error failure := by
  cases found with
  | error failure => simp [Except.bind]
  | ok first => simp [Except.bind]

theorem mapErrorOkIff {Other : Type} {change : Failure → Other} {result : First} :
    found.mapError change = .ok result ↔ found = .ok result := by
  cases found with
  | error failure => exact ⟨nofun, nofun⟩
  | ok first =>
      change Except.ok first = _ ↔ _
      rw [Except.ok.injEq, Except.ok.injEq]

theorem okOfOption {result : First} (same : found.toOption = some result) : found = .ok result := by
  cases found with
  | error => exact nomatch same
  | ok => exact congrArg Except.ok (Option.some.inj same)

/-! ### Properties of results -/

/-- A result satisfies a property unless it is a failure. -/
def Yields (property : First → Prop) (found : Except Failure First) : Prop :=
  ∀ result, found = .ok result → property result

section

variable {property : First → Prop} {propertyNext : Second → Prop} {other : Except Failure First}
  {next otherNext : First → Except Failure Second}

@[simp] theorem yieldsOk {result : First} :
    Yields property (.ok result : Except Failure First) ↔ property result := by
  simp [Yields]

@[simp] theorem yieldsPure {result : First} :
    Yields property (pure result : Except Failure First) ↔ property result := yieldsOk

@[simp] theorem yieldsError {failure : Failure} :
    Yields property (.error failure : Except Failure First) := nofun

@[simp] theorem yieldsThrow {failure : Failure} :
    Yields property (throw failure : Except Failure First) := nofun

@[simp] theorem yieldsTrue : Yields (fun _ => True) found := fun _ _ => trivial

@[simp] theorem yieldsBind :
    Yields propertyNext (found >>= next) ↔
      Yields (fun result => Yields propertyNext (next result)) found := by
  cases found with
  | error failure => exact ⟨fun _ => yieldsError, fun _ => yieldsError⟩
  | ok result =>
      rw [yieldsOk]
      rfl

@[simp] theorem yieldsMap {change : First → Second} :
    Yields propertyNext (change <$> found) ↔ Yields (fun result => propertyNext (change result)) found := by
  cases found with
  | error failure => exact ⟨fun _ => yieldsError, fun _ => yieldsError⟩
  | ok result =>
      rw [yieldsOk]
      exact yieldsOk

/-- Two results agree if they are the same and satisfy a property. -/
structure Agree (property : First → Prop) (found other : Except Failure First) : Prop where
  same : found = other
  yields : Yields property found

theorem Agree.ofSame (same : found = other) : Agree (fun _ => True) found other :=
  ⟨same, yieldsTrue⟩

theorem Agree.pure {result : First} (holds : property result) :
    Agree property (.ok result : Except Failure First) (.ok result) :=
  ⟨rfl, yieldsOk.2 holds⟩

/-- What comes after results that agree has to agree only where the property holds. -/
theorem Agree.bind (agree : Agree property found other)
    (agreeNext : ∀ result, property result → Agree propertyNext (next result) (otherNext result)) :
    Agree propertyNext (found >>= next) (other >>= otherNext) := by
  obtain ⟨rfl, yields⟩ := agree
  cases found with
  | error failure => exact ⟨rfl, yieldsError⟩
  | ok result => exact agreeNext result (yieldsOk.1 yields)

theorem Agree.mapError {Other : Type} (agree : Agree property found other)
    (change : Failure → Other) :
    Agree property (found.mapError change) (other.mapError change) := by
  obtain ⟨rfl, yields⟩ := agree
  exact ⟨rfl, fun result same => yields result (mapErrorOkIff.1 same)⟩

/-- Two results match if they are the same failure or related successes. -/
inductive Matches (related : First → First → Prop) :
    Except Failure First → Except Failure First → Prop
  | error (failure : Failure) : Matches related (.error failure) (.error failure)
  | ok {result other : First} (areRelated : related result other) :
      Matches related (.ok result) (.ok other)

theorem Matches.bind {related : Second → Second → Prop} (found : Except Failure First)
    (matchNext : ∀ result, Matches related (next result) (otherNext result)) :
    Matches related (found >>= next) (found >>= otherNext) := by
  cases found with
  | error failure => exact .error failure
  | ok result => exact matchNext result

end

end Letterpress
