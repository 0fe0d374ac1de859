/-!
This file fixes what a search of a text for a delimited pattern finds. The pattern is tried at one
character after the other, and the search goes on after what was found.
-/

namespace Letterpress.Text

/-- A text is what a predicate admits at its beginning and the rest after it. -/
theorem spanAdmitted (admits : Char → Bool) (characters : List Char) :
    ∃ before after, characters = before ++ after ∧ characters.takeWhile admits = before ∧
      characters.drop before.length = after ∧ (∀ character ∈ before, admits character = true) ∧
      ∀ next, after.head? = some next → admits next = false := by
  induction characters with
  | nil => exact ⟨[], [], rfl, rfl, rfl, nofun, nofun⟩
  | cons character rest inductionHypothesis =>
      cases admitted : admits character with
      | false =>
          exact ⟨[], character :: rest, rfl, List.takeWhile_cons_of_neg (by simp [admitted]), rfl,
            nofun, by simp [admitted]⟩
      | true =>
          obtain ⟨before, after, whole, taken, dropped, allAdmitted, stops⟩ := inductionHypothesis
          refine ⟨character :: before, after, congrArg _ whole, ?_, dropped, ?_, stops⟩
          · rw [List.takeWhile_cons_of_pos admitted, taken]
          · exact List.forall_mem_cons.2 ⟨admitted, allAdmitted⟩

/-- A delimited pattern begins with one character and ends with another one, which it does not
admit between them. -/
structure Delimited where
  opening : Char
  closing : Char
  admits : Char → Bool
  closes : admits closing = false

/-- A part of a text is what was found between the delimiters, or a gap. -/
inductive Part
  | gap (content : List Char)
  | found (inside : List Char)
  deriving DecidableEq, Repr

namespace Delimited

variable {pattern : Delimited}

def wrap (pattern : Delimited) (inside : List Char) : List Char :=
  pattern.opening :: (inside ++ [pattern.closing])

/-- The pattern begins a text if admitted characters stand between its delimiters. -/
def Begins (pattern : Delimited) (text inside after : List Char) : Prop :=
  (∀ character ∈ inside, pattern.admits character = true) ∧ text = pattern.wrap inside ++ after

theorem admittedUpToClosing {inside : List Char} (after : List Char)
    (admitted : ∀ character ∈ inside, pattern.admits character = true) :
    (inside ++ pattern.closing :: after).takeWhile pattern.admits = inside := by
  rw [List.takeWhile_append_of_pos admitted, List.takeWhile_cons_of_neg (by simp [pattern.closes]),
    List.append_nil]

/-- What the pattern finds at the beginning of a text is determined. -/
theorem Begins.unique {text inside after otherInside otherAfter : List Char}
    (begins : pattern.Begins text inside after)
    (otherBegins : pattern.Begins text otherInside otherAfter) :
    inside = otherInside ∧ after = otherAfter := by
  obtain ⟨admitted, rfl⟩ := begins
  obtain ⟨otherAdmitted, same⟩ := otherBegins
  simp only [wrap, List.cons_append, List.append_assoc, List.nil_append, List.cons.injEq,
    true_and] at same
  have sameInside : inside = otherInside := by
    rw [← admittedUpToClosing after admitted, same, admittedUpToClosing otherAfter otherAdmitted]
  subst sameInside
  exact ⟨rfl, (List.cons.inj (List.append_cancel_left same)).2⟩

/-- The closing delimiter stands right after what the pattern admits. -/
theorem Begins.closingAfterAdmitted {inside atClosing otherInside after : List Char}
    (taken : (inside ++ atClosing).takeWhile pattern.admits = inside)
    (begins : pattern.Begins (pattern.opening :: (inside ++ atClosing)) otherInside after) :
    atClosing = pattern.closing :: after := by
  obtain ⟨admitted, same⟩ := begins
  simp only [wrap, List.cons_append, List.append_assoc, List.nil_append, List.cons.injEq,
    true_and] at same
  have sameInside : inside = otherInside := by
    rw [← taken, same, admittedUpToClosing after admitted]
  subst sameInside
  exact List.append_cancel_left same

theorem Begins.closingMem {text inside after : List Char}
    (begins : pattern.Begins text inside after) : pattern.closing ∈ text := by
  simp [begins.2, wrap]

theorem Begins.headOpening {character : Char} {text inside after : List Char}
    (begins : pattern.Begins (character :: text) inside after) : character = pattern.opening :=
  (List.cons.inj begins.2).1

end Delimited

def Part.source (pattern : Delimited) : Part → List Char
  | gap content => content
  | found inside => pattern.wrap inside

/-- At each character the pattern is found, or the character belongs to a gap. -/
inductive Searches (pattern : Delimited) : List Char → List Part → Prop
  | stop : Searches pattern [] [.gap []]
  | found {text inside after : List Char} {parts : List Part}
      (begins : pattern.Begins text inside after) (rest : Searches pattern after parts) :
      Searches pattern text (.gap [] :: .found inside :: parts)
  | skip {character : Char} {text content : List Char} {parts : List Part}
      (notFound : ∀ inside after, ¬ pattern.Begins (character :: text) inside after)
      (rest : Searches pattern text (.gap content :: parts)) :
      Searches pattern (character :: text) (.gap (character :: content) :: parts)

namespace Searches

variable {pattern : Delimited} {text : List Char} {parts : List Part}

theorem beginsWithGap (searches : Searches pattern text parts) :
    ∃ content rest, parts = .gap content :: rest := by
  cases searches <;> exact ⟨_, _, rfl⟩

/-- A search loses no character. -/
theorem source (searches : Searches pattern text parts) :
    parts.flatMap (Part.source pattern) = text := by
  induction searches with
  | stop => rfl
  | found begins _ inductionHypothesis =>
      simp [Part.source, inductionHypothesis, begins.2]
  | skip _ _ inductionHypothesis =>
      simpa [Part.source] using inductionHypothesis

/-- The parts of a text are determined. -/
theorem unique {otherParts : List Part} (searches : Searches pattern text parts)
    (otherSearches : Searches pattern text otherParts) : parts = otherParts := by
  induction searches generalizing otherParts with
  | stop =>
      cases otherSearches with
      | stop => rfl
      | found begins _ => exact absurd begins.2 (List.cons_ne_nil _ _).symm
  | found begins _ inductionHypothesis =>
      cases otherSearches with
      | stop => exact absurd begins.2 (List.cons_ne_nil _ _).symm
      | found otherBegins rest =>
          obtain ⟨rfl, rfl⟩ := begins.unique otherBegins
          rw [inductionHypothesis rest]
      | skip notFound _ => exact absurd begins (notFound _ _)
  | skip notFound _ inductionHypothesis =>
      cases otherSearches with
      | found begins _ => exact absurd begins (notFound _ _)
      | skip _ rest =>
          obtain ⟨sameGap, sameParts⟩ := List.cons.inj (inductionHypothesis rest)
          rw [Part.gap.inj sameGap, sameParts]

/-- Characters that do not open the pattern belong to the gap before what follows. -/
theorem skipFront {front content : List Char}
    (noOpening : ∀ character ∈ front, character ≠ pattern.opening)
    (searches : Searches pattern text (.gap content :: parts)) :
    Searches pattern (front ++ text) (.gap (front ++ content) :: parts) := by
  induction front with
  | nil => exact searches
  | cons character rest inductionHypothesis =>
      obtain ⟨notOpening, noOpeningRest⟩ := List.forall_mem_cons.1 noOpening
      exact .skip (fun _ _ begins => notOpening begins.headOpening)
        (inductionHypothesis noOpeningRest)

/-- Nothing is found where nothing closes. -/
theorem ofNoClosing (noClosing : pattern.closing ∉ text) :
    Searches pattern text [.gap text] := by
  induction text with
  | nil => exact .stop
  | cons character rest inductionHypothesis =>
      exact .skip (fun _ _ begins => noClosing begins.closingMem)
        (inductionHypothesis (fun closingInRest => noClosing (List.mem_cons_of_mem _ closingInRest)))

/-- The pattern is found after characters that do not open it. -/
theorem foundAfter {front inside after : List Char}
    (noOpening : ∀ character ∈ front, character ≠ pattern.opening)
    (begins : pattern.Begins text inside after) (rest : Searches pattern after parts) :
    Searches pattern (front ++ text) (.gap front :: .found inside :: parts) := by
  simpa using skipFront noOpening (.found begins rest)

end Searches

end Letterpress.Text
