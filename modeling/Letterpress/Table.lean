/-!
This file holds tables from names to entries. A table keeps the order in which its names first
came, and it holds each name once.
-/

namespace Letterpress

/-- The names of a table are distinct. -/
structure Table (Entry : Type) where
  entries : List (String × Entry)
  distinct : (entries.map Prod.fst).Nodup

namespace Table

variable {Entry : Type}

def empty : Table Entry := ⟨[], List.nodup_nil⟩

instance : Inhabited (Table Entry) := ⟨empty⟩

def names (table : Table Entry) : List String := table.entries.map Prod.fst

def get? (table : Table Entry) (name : String) : Option Entry := table.entries.lookup name

def contains (table : Table Entry) (name : String) : Bool := (table.get? name).isSome

/-- This replaces the entry of a name in place, or puts a new name last. -/
def insertInto (name : String) (entry : Entry) :
    List (String × Entry) → List (String × Entry)
  | [] => [(name, entry)]
  | first :: rest =>
      if first.1 = name then (name, entry) :: rest else first :: insertInto name entry rest

theorem memberInsertInto {name other : String} {entry : Entry} {entries : List (String × Entry)}
    (isMember : other ∈ (insertInto name entry entries).map Prod.fst) :
    other = name ∨ other ∈ entries.map Prod.fst := by
  induction entries with
  | nil => simpa [insertInto] using isMember
  | cons first rest inductionHypothesis =>
      by_cases same : first.1 = name
      · simp only [insertInto, same, if_true, List.map_cons, List.mem_cons] at isMember ⊢
        exact isMember.elim .inl fun inRest => .inr (.inr inRest)
      · simp only [insertInto, same, if_false, List.map_cons, List.mem_cons] at isMember ⊢
        rcases isMember with isFirst | inRest
        · exact .inr (.inl isFirst)
        · exact (inductionHypothesis inRest).elim .inl fun found => .inr (.inr found)

theorem nodupInsertInto {name : String} {entry : Entry} {entries : List (String × Entry)}
    (distinct : (entries.map Prod.fst).Nodup) :
    ((insertInto name entry entries).map Prod.fst).Nodup := by
  induction entries with
  | nil => simp [insertInto]
  | cons first rest inductionHypothesis =>
      rw [List.map_cons, List.nodup_cons] at distinct
      by_cases same : first.1 = name
      · simp only [insertInto, same, if_true, List.map_cons, List.nodup_cons]
        exact ⟨same ▸ distinct.1, distinct.2⟩
      · simp only [insertInto, same, if_false, List.map_cons, List.nodup_cons]
        refine ⟨fun isMember => ?_, inductionHypothesis distinct.2⟩
        exact (memberInsertInto isMember).elim same distinct.1

def insert (table : Table Entry) (name : String) (entry : Entry) : Table Entry :=
  ⟨insertInto name entry table.entries, nodupInsertInto table.distinct⟩

theorem lookupCons {Key : Type} [DecidableEq Key] (name : Key) (first : Key × Entry)
    (rest : List (Key × Entry)) :
    (first :: rest).lookup name = if name = first.1 then some first.2 else rest.lookup name := by
  obtain ⟨other, entry⟩ := first
  by_cases same : name = other
  · simp [same]
  · simp only [List.lookup_cons, beq_eq_false_iff_ne.mpr same, same, if_false]

theorem lookupInsertInto (name other : String) (entry : Entry) (entries : List (String × Entry)) :
    (insertInto name entry entries).lookup other =
      if other = name then some entry else entries.lookup other := by
  induction entries with
  | nil => rw [insertInto, lookupCons]
  | cons first rest inductionHypothesis =>
      by_cases isFirst : first.1 = name
      · simp only [insertInto, isFirst, if_true, lookupCons]
        split <;> rfl
      · simp only [insertInto, isFirst, if_false, lookupCons, inductionHypothesis]
        by_cases same : other = first.1
        · simp [same, isFirst]
        · simp [same]

@[simp] theorem getEmpty (name : String) : (empty : Table Entry).get? name = none := rfl

@[simp] theorem getInsert (table : Table Entry) (name other : String) (entry : Entry) :
    (table.insert name entry).get? other = if other = name then some entry else table.get? other :=
  lookupInsertInto name other entry table.entries

/-- This keeps the entries that satisfy a test. -/
def filter (table : Table Entry) (keeps : String → Entry → Bool) : Table Entry :=
  ⟨table.entries.filter fun entry => keeps entry.1 entry.2,
    table.distinct.sublist (List.filter_sublist.map Prod.fst)⟩

def erase (table : Table Entry) (name : String) : Table Entry :=
  table.filter fun other _ => other ≠ name

@[simp] theorem getErase (table : Table Entry) (name other : String) :
    (table.erase name).get? other = if other = name then none else table.get? other := by
  change (table.entries.filter fun entry => decide (entry.1 ≠ name)).lookup other =
    if other = name then none else table.entries.lookup other
  induction table.entries with
  | nil => simp
  | cons first rest inductionHypothesis =>
      by_cases removed : first.1 = name
      · rw [List.filter_cons_of_neg (by simpa using removed), inductionHypothesis, lookupCons,
          removed]
        split <;> rfl
      · rw [List.filter_cons_of_pos (by simpa using removed), lookupCons, lookupCons,
          inductionHypothesis]
        by_cases same : other = first.1
        · simp [same, removed]
        · simp [same]

/-- An entry that is found stands between entries of other names. -/
theorem splitOfGet {table : Table Entry} {name : String} {entry : Entry}
    (found : table.get? name = some entry) :
    ∃ before after, table.entries = before ++ (name, entry) :: after ∧
      ∀ other ∈ before ++ after, other.1 ≠ name := by
  obtain ⟨before, after, split, notBefore⟩ := List.lookup_eq_some_iff.mp found
  refine ⟨before, after, split, fun other isOther => ?_⟩
  have distinct := table.distinct
  rw [split, List.map_append, List.map_cons, List.nodup_append, List.nodup_cons] at distinct
  obtain ⟨-, ⟨notAfter, -⟩, -⟩ := distinct
  rcases List.mem_append.mp isOther with inBefore | inAfter
  · exact fun same => by simpa [same] using notBefore other inBefore
  · exact fun same => notAfter (List.mem_map.mpr ⟨other, inAfter, same⟩)

/-- A later entry of the same name replaces the earlier one. -/
def ofList (entries : List (String × Entry)) : Table Entry :=
  entries.foldl (fun table entry => table.insert entry.1 entry.2) empty

/-- The entries of the second table replace those of the first. -/
def overlay (table other : Table Entry) : Table Entry :=
  other.entries.foldl (fun result entry => result.insert entry.1 entry.2) table

/-- The last entry of a name counts, and before all entries that of the table. -/
theorem getFoldlInsert (entries : List (String × Entry)) (table : Table Entry) (name : String) :
    (entries.foldl (fun result entry => result.insert entry.1 entry.2) table).get? name =
      (entries.reverse.lookup name).or (table.get? name) := by
  induction entries generalizing table with
  | nil => rfl
  | cons first rest inductionHypothesis =>
      rw [List.foldl_cons, inductionHypothesis, getInsert, List.reverse_cons, List.lookup_append,
        lookupCons, List.lookup_nil, Option.or_assoc]
      split <;> rfl

@[simp] theorem getOfList (entries : List (String × Entry)) (name : String) :
    (ofList entries).get? name = entries.reverse.lookup name := by
  rw [ofList, getFoldlInsert, getEmpty, Option.or_none]

/-- A fold over the entries shows under one name what the entry of that name alone does, if no other
entry is seen there. -/
theorem viewFoldl {State View : Type} (table : Table Entry) (name : String)
    (step : State → String × Entry → State) (view : State → View)
    (change : Entry → View → View)
    (frame : ∀ state entry, entry.1 ≠ name → view (step state entry) = view state)
    (effect : ∀ state entry, view (step state (name, entry)) = change entry (view state))
    (state : State) :
    view (table.entries.foldl step state) =
      (table.get? name).elim (view state) fun entry => change entry (view state) := by
  have unseen : ∀ entries : List (String × Entry), (∀ entry ∈ entries, entry.1 ≠ name) →
      ∀ state, view (entries.foldl step state) = view state := by
    intro entries others
    induction entries with
    | nil => intro state; rfl
    | cons first rest inductionHypothesis =>
        intro state
        rw [List.foldl_cons, inductionHypothesis fun entry inRest =>
          others entry (List.mem_cons_of_mem first inRest)]
        exact frame state first (others first List.mem_cons_self)
  cases found : table.get? name with
  | none =>
      refine unseen table.entries (fun entry isEntry same => ?_) state
      simpa [same] using List.lookup_eq_none_iff.mp found entry isEntry
  | some entry =>
      obtain ⟨before, after, split, others⟩ := splitOfGet found
      rw [split, List.foldl_append, List.foldl_cons,
        unseen after fun other isOther => others other (List.mem_append_right before isOther),
        effect, unseen before fun other isOther => others other (List.mem_append_left after isOther),
        Option.elim_some]

end Table

end Letterpress
