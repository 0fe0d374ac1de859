import Letterpress.Conversion
import Mathlib.Data.List.Basic

/-!
This file shows that the first converter that is installed decides a conversion, and which problem
is left if it fails or if there is none.
-/

namespace Letterpress

variable {Document : Type} {attempts before after : List (Attempt Document)}
  {attempt : Attempt Document}

namespace Attempt

def isMissing (attempt : Attempt Document) : Bool :=
  match attempt.outcome with
  | .missing => true
  | _ => false

theorem missingIff : attempt.isMissing = true ↔ attempt.outcome = .missing := by
  rw [isMissing]
  split <;> simp_all

end Attempt

namespace Conversion

/-- The problem that is left behind some missing converters names the last of them. -/
def problemAfter (problem : ConversionProblem) (missing : List (Attempt Document)) :
    ConversionProblem :=
  missing.getLast?.elim problem fun last => .missing last.command

/-- Missing converters are started one after the other, and then the others. -/
theorem runMissing (problem : ConversionProblem)
    (allMissing : ∀ other ∈ before, other.isMissing = true) (attempts : List (Attempt Document)) :
    runFrom problem (before ++ attempts) =
      ⟨before.map Attempt.command ++ (runFrom (problemAfter problem before) attempts).started,
        (runFrom (problemAfter problem before) attempts).result⟩ := by
  induction before generalizing problem with
  | nil => rfl
  | cons first rest inductionHypothesis =>
      obtain ⟨isMissing, restMissing⟩ := List.forall_mem_cons.1 allMissing
      obtain ⟨command, outcome⟩ := first
      obtain rfl : outcome = .missing := Attempt.missingIff.1 isMissing
      have sameProblem : problemAfter (.missing command) rest =
          problemAfter problem (⟨command, .missing⟩ :: rest) := by
        cases rest <;> rfl
      rw [List.cons_append, runFrom, inductionHypothesis _ restMissing, sameProblem]
      rfl

/-- What an installed converter makes of a conversion. -/
structure IsDecidedBy (attempt : Attempt Document) (result : Except ConversionProblem Document) :
    Prop where
  converts : ∀ document, result = .ok document ↔ attempt.outcome = .exited 0 (some document)
  timesOut : attempt.outcome = .timedOut → ∃ problem, result = .error problem ∧
    problem.message = "PDF conversion timed out (" ++ attempt.command ++ ")"
  fails : ∀ code document, attempt.outcome = .exited code document →
    code ≠ 0 ∨ document = none → ∃ problem, result = .error problem ∧
      problem.message = "Could not convert DOCX to PDF: " ++ attempt.command ++
        " exited with code " ++ integerText code

theorem exitConverts {command : String} {code : Int} {document : Option Document}
    {found : Document} : exitResult command code document = .ok found ↔
      code = 0 ∧ document = some found := by
  unfold exitResult
  split
  case h_1 other isZero => simp_all
  case h_2 notBoth =>
    refine iff_of_false nofun fun ⟨isZero, isFound⟩ => ?_
    exact notBoth found (decide_eq_true isZero) isFound

theorem exitFails {command : String} {code : Int} {document : Option Document}
    (hasFailed : code ≠ 0 ∨ document = none) :
    exitResult command code document = .error (.exited command code) := by
  unfold exitResult
  split
  case h_1 found isZero => simp_all
  case h_2 => rfl

theorem exitMessage (command : String) (code : Int) :
    (ConversionProblem.exited command code).message = "Could not convert DOCX to PDF: " ++ command ++
      " exited with code " ++ integerText code := by
  change ConversionProblem.failed (command ++ " exited with code " ++ integerText code) = _
  rw [String.append_assoc, String.append_assoc, String.append_assoc]
  rfl

theorem installedDecides (problem : ConversionProblem) (isInstalled : attempt.outcome ≠ .missing)
    (after : List (Attempt Document)) :
    let conversion := runFrom problem (attempt :: after)
    conversion.started = [attempt.command] ∧ IsDecidedBy attempt conversion.result := by
  obtain ⟨command, outcome⟩ := attempt
  cases outcome with
  | missing => exact absurd rfl isInstalled
  | timedOut => exact ⟨rfl, fun _ => iff_of_false nofun nofun, fun _ => ⟨_, rfl, rfl⟩, nofun⟩
  | exited code document =>
      refine ⟨rfl, fun found => ?_, nofun, fun otherCode otherDocument same hasFailed => ?_⟩
      · rw [ConverterOutcome.exited.injEq]
        exact exitConverts
      · cases same
        exact ⟨.exited command code, exitFails hasFailed, exitMessage command code⟩

/-- The converters are started in order up to the first one that is installed, and no other one is.
That one decides whether there is a document. If none is installed, the last one that was tried is
named, or that there is none. -/
theorem firstInstalledDecides (attempts : List (Attempt Document)) :
    let conversion := runAttempts attempts
    (∃ before attempt after, attempts = before ++ attempt :: after ∧
        (∀ other ∈ before, other.outcome = .missing) ∧ attempt.outcome ≠ .missing ∧
        conversion.started = (before ++ [attempt]).map Attempt.command ∧
        IsDecidedBy attempt conversion.result) ∨
      ((∀ attempt ∈ attempts, attempt.outcome = .missing) ∧
        conversion.started = attempts.map Attempt.command ∧
        ∃ problem, conversion.result = .error problem ∧
          problem.message = "Could not convert DOCX to PDF: " ++
            attempts.getLast?.elim "no converter configured" fun last =>
              last.command ++ " not installed") := by
  intro conversion
  cases isFirst : attempts.find? fun attempt => !attempt.isMissing with
  | some attempt =>
      obtain ⟨installed, before, after, rfl, missing⟩ := List.find?_eq_some_iff_append.1 isFirst
      have allMissing : ∀ other ∈ before, other.isMissing = true := by simpa using missing
      have isInstalled : attempt.outcome ≠ .missing := fun isMissing => by
        simp [Attempt.missingIff.2 isMissing] at installed
      obtain ⟨startsOne, isDecided⟩ :=
        installedDecides (problemAfter .noConverter before) isInstalled after
      have same : conversion = _ := runMissing .noConverter allMissing (attempt :: after)
      refine .inl ⟨before, attempt, after, rfl, fun other isBefore =>
        Attempt.missingIff.1 (allMissing other isBefore), isInstalled, ?_, ?_⟩
      · rw [same, startsOne, List.map_append]
        rfl
      · rw [same]
        exact isDecided
  | none =>
      have allMissing : ∀ attempt ∈ attempts, attempt.isMissing = true := by
        simpa using List.find?_eq_none.1 isFirst
      have same := runMissing .noConverter allMissing []
      rw [List.append_nil] at same
      refine .inr ⟨fun attempt isInside => Attempt.missingIff.1 (allMissing attempt isInside),
        ?_, problemAfter .noConverter attempts, ?_, ?_⟩
      · exact (congrArg started same).trans (List.append_nil _)
      · exact congrArg result same
      · rw [problemAfter]
        cases attempts.getLast? <;> rfl

example : (runAttempts [⟨"soffice", .missing⟩, ⟨"libreoffice", .exited 0 (some "pages")⟩,
    ⟨"lowriter", .timedOut⟩]).started = ["soffice", "libreoffice"] := by decide

end Conversion

end Letterpress
