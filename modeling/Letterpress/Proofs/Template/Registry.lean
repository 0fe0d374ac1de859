import Letterpress.Proofs.Archive.Normalization
import Letterpress.Proofs.Value.Document
import Letterpress.Template.Catalog

/-!
This file tells what a registry holds: of the templates that its document describes, the last one of
each key. It also tells which documents are refused.
-/

namespace Letterpress

namespace Template

/-- This is a field of an entry, unless it is missing or empty. -/
def filled? (entry : Json) (name : String) : Option Json :=
  (entry.field? name).filter fun value => !value.isEmpty

/-- The template that an entry describes. Without a key and a file it describes none. -/
def described? (entry : Json) : Option Template := do
  let key ← filled? entry "key"
  let file ← filled? entry "file"
  return ⟨key.shown, file.shown, ((filled? entry "label").map Json.shown).getD key.shown,
    ((filled? entry "category").map Json.shown).getD "general"⟩

/-- These are the entries of a document. Null, truth values and numbers cannot take their place, and
whatever else does has none. -/
def entriesIn? (document : Json) : Option (List Json) :=
  match document.field? "templates" with
  | none => some []
  | some (.array entries) => some entries
  | some (.text _) => some []
  | some (.object _) => some []
  | some _ => none

/-- A table has under each key the last template of that key, and its keys stand in the order in
which they first come. -/
structure IsRegistry (templates : List Template) (table : Table Template) : Prop where
  last : ∀ key template, table.get? key = some template ↔ ∃ before after,
    templates = before ++ template :: after ∧ template.key = key ∧
      ∀ other ∈ after, other.key ≠ key
  keys : table.names = (templates.map Template.key).eraseDups

variable {heap : Heap} {document entry : Json} {value : Value}

/-! ### Entries -/

/-- A field of a record is empty, or it is filled and stands for the field of the entry. -/
inductive IsField (heap : Heap) (entry : Json) (name : String) (found : Value) : Prop
  | empty (isEmpty : heap.isEmpty found = true) (isMissing : filled? entry name = none)
  | filled {content : Json} (isFilled : heap.isEmpty found = false)
      (isFound : filled? entry name = some content) (places : heap.Places content found)

theorem fieldOfRecord {fields : List (String × Json)} {record : Table Value} {name : String}
    (related : Option.Rel heap.Places (fields.lookup name) (record.get? name)) :
    IsField heap (.object fields) name ((record.get? name).getD .null) := by
  have isField : filled? (.object fields) name =
      (fields.lookup name).filter fun value => !value.isEmpty := rfl
  generalize fields.lookup name = content at related isField
  generalize record.get? name = found at related
  cases related with
  | none => exact .empty rfl isField
  | @some content found places =>
      have sameEmpty := places.sameEmpty
      cases isEmpty : content.isEmpty with
      | true => exact .empty (sameEmpty.trans isEmpty) (by simp [isField, isEmpty])
      | false => exact .filled (sameEmpty.trans isEmpty) (by simp [isField, isEmpty]) places

theorem IsField.shownOr {name : String} {found other : Value} {text : String}
    (isField : IsField heap entry name found) (isShown : heap.display other = .ok text) :
    Template.shownOr heap found other = .ok (((filled? entry name).map Json.shown).getD text) := by
  cases isField with
  | empty isEmpty isMissing => rw [Template.shownOr, isEmpty, isMissing, if_pos rfl, isShown]; rfl
  | filled isFilled isFound places =>
      rw [Template.shownOr, isFilled, isFound, if_neg Bool.false_ne_true, places.display]
      rfl

theorem entryIsRead (places : heap.Places entry value) :
    ofEntry heap value = .ok (described? entry) := by
  cases entry with
  | object fields =>
      obtain ⟨reference, rfl, related⟩ := places.fields
      have isField (name : String) := fieldOfRecord (related name)
      simp only [ofEntry, ofFields, described?]
      cases isField "key" with
      | empty isEmpty isMissing => rw [isEmpty, isMissing]; rfl
      | filled keyFilled isKey keyPlaced =>
          cases isField "file" with
          | empty isEmpty isMissing => rw [isEmpty, isMissing, keyFilled, isKey]; rfl
          | filled fileFilled isFile filePlaced =>
              have label := (isField "label").shownOr keyPlaced.display
              have isGeneral : heap.display (.text "general") = .ok "general" := rfl
              have category := (isField "category").shownOr isGeneral
              rw [keyFilled, isKey, fileFilled, isFile, keyPlaced.display, filePlaced.display, label,
                category]
              rfl
  | array items =>
      obtain ⟨reference, rfl, -⟩ := places.items
      rfl
  | _ =>
      obtain rfl := places.stands
      rfl

theorem entriesAreRead {entries : List Json} {values : List Value}
    (placed : List.Forall₂ heap.Places entries values) :
    ofEntries heap values = .ok (entries.filterMap described?) := by
  induction placed with
  | nil => rfl
  | @cons entry value _ _ places _ inductionHypothesis =>
      rw [ofEntries, entryIsRead places, inductionHypothesis, List.filterMap_cons]
      cases described? entry <;> rfl

/-- The document has a list of entries, or nothing that could have some. -/
theorem entriesAreFound (places : heap.Places document value) :
    match entriesIn? document with
    | some entries => ∃ values, entriesOf heap value = .ok values ∧
        List.Forall₂ heap.Places entries values
    | none => entriesOf heap value = .error .wrongType := by
  cases document with
  | object fields =>
      obtain ⟨reference, rfl, related⟩ := places.fields
      have isField := related "templates"
      rw [entriesIn?, Json.field?, entriesOf]
      generalize fields.lookup "templates" = content at isField
      generalize (heap.record reference).get? "templates" = found at isField
      cases isField with
      | none => exact ⟨[], rfl, .nil⟩
      | @some content found places =>
          cases content with
          | array entries =>
              obtain ⟨list, rfl, placed⟩ := places.items
              exact ⟨_, rfl, placed⟩
          | object others =>
              obtain ⟨other, rfl, -⟩ := places.fields
              exact ⟨[], rfl, .nil⟩
          | text content =>
              obtain rfl := places.stands
              exact ⟨[], rfl, .nil⟩
          | _ =>
              obtain rfl := places.stands
              rfl
  | array items =>
      obtain ⟨reference, rfl, -⟩ := places.items
      exact ⟨[], rfl, .nil⟩
  | _ =>
      obtain rfl := places.stands
      exact ⟨[], rfl, .nil⟩

theorem documentIsRead (isSound : document.IsSound) :
    ofDocument document =
      match entriesIn? document with
      | some entries => .ok (registry (entries.filterMap described?))
      | none => .error .wrongType := by
  have found := entriesAreFound (Heap.placesAdded .empty isSound)
  change (entriesOf (Heap.empty.addJson document).2 (Heap.empty.addJson document).1).bind
    (fun values => (ofEntries (Heap.empty.addJson document).2 values).bind
      fun templates => .ok (registry templates)) = _
  cases isFound : entriesIn? document with
  | none =>
      rw [isFound] at found
      rw [found]
      rfl
  | some entries =>
      rw [isFound] at found
      obtain ⟨values, areEntries, placed⟩ := found
      rw [areEntries]
      change (ofEntries _ values).bind _ = _
      rw [entriesAreRead placed]
      rfl

/-! ### Registries -/

theorem registryIsRegistry (templates : List Template) :
    IsRegistry templates (registry templates) where
  last key template := by
    rw [registry, Table.lastOfList]
    constructor
    · rintro ⟨before, after, split, notAfter⟩
      obtain ⟨earlier, others, rfl, -, isSplit⟩ := List.map_eq_append_iff.1 split
      obtain ⟨found, later, rfl, same, rfl⟩ := List.map_eq_cons_iff.1 isSplit
      obtain ⟨sameKey, rfl⟩ := Prod.mk.inj same
      exact ⟨earlier, later, rfl, sameKey, fun other isAfter =>
        notAfter (other.key, other) (List.mem_map_of_mem isAfter)⟩
    · rintro ⟨before, after, rfl, rfl, notAfter⟩
      exact ⟨_, _, List.map_append, List.forall_mem_map.2 notAfter⟩
  keys := by
    rw [registry, Table.namesOfList, List.map_map]
    rfl

end Template

namespace Catalog

open Template

variable {catalog : Catalog} {content : String}

/-! ### Catalogs -/

theorem readRegistryOfText (path content : String) :
    readRegistry path (some (.bytes content.toUTF8)) =
      match Json.read content with
      | .error .malformed => .error (.problem (.malformedRegistry path))
      | .error .tooDeep => .error (.fault .tooDeep)
      | .ok document =>
          match entriesIn? document with
          | some entries => .ok (registry (entries.filterMap described?))
          | none => .error (.fault .wrongType) := by
  have sameText : (String.fromUTF8? content.toUTF8).getD "" = content :=
    congrArg (Option.getD · "") (Archive.textOfString "" content)
  rw [readRegistry, sameText]
  cases isRead : Json.read content with
  | error flaw => cases flaw <;> rfl
  | ok document =>
      dsimp only
      rw [documentIsRead (Json.readIsSound isRead)]
      cases entriesIn? document <;> rfl

/-- A catalog keeps what it has read, and a failure leaves it as it was. -/
theorem templatesRead (notLoaded : catalog.loaded = none) :
    Catalog.templates.outcome catalog =
      match readRegistry catalog.registryPath (catalog.files.get? catalog.registryPath) with
      | .ok table => (.ok table, { catalog with loaded := some table })
      | .error failure => (.error failure, catalog) := by
  obtain ⟨path, folder, files, loaded⟩ := catalog
  obtain rfl : loaded = none := notLoaded
  change (do
    let found ← ExceptT.mk (pure (readRegistry path (files.get? path)))
    set (Catalog.mk path folder files (some found))
    return found : Cataloging (Table Template)).outcome ⟨path, folder, files, none⟩ = _
  cases readRegistry path (files.get? path) <;> rfl

theorem viewRead {Result : Type} {table : Table Template} {after : Catalog}
    (isRead : Catalog.templates.outcome catalog = (.ok table, after))
    (view : Table Template → Result) :
    (return view (← Catalog.templates) : Cataloging Result).outcome catalog =
      (.ok (view table), after) := by
  rw [Cataloging.outcome] at isRead ⊢
  rw [ExceptT.run_bind, StateT.run_bind, isRead]
  rfl

/-- A catalog has loaded the registry of some templates. It finds them by their keys and lists them in
the order of the registry, all of them or one category. -/
structure Loads (catalog : Catalog) (templates : List Template) (table : Table Template) : Prop where
  isRegistry : IsRegistry templates table
  reading : Catalog.templates.outcome catalog = (.ok table, { catalog with loaded := some table })
  finding : ∀ key, (Catalog.find? key).outcome catalog =
    (.ok (table.get? key), { catalog with loaded := some table })
  listing : ∀ category, (Catalog.list category).outcome catalog =
    (.ok ((table.entries.map Prod.snd).filter fun template =>
      category = "" ∨ template.category = category), { catalog with loaded := some table })

theorem loadsRegistry {templates : List Template}
    (isRead : Catalog.templates.outcome catalog = (.ok (registry templates),
      { catalog with loaded := some (registry templates) })) :
    catalog.Loads templates (registry templates) where
  isRegistry := registryIsRegistry templates
  reading := isRead
  finding key := viewRead isRead (Table.get? · key)
  listing category := by
    have sameTest : isIn category = fun template =>
        decide (category = "" ∨ template.category = category) := by
      funext template
      exact (Bool.decide_or ..).symm
    rw [← sameTest]
    exact viewRead isRead fun table => (table.entries.map Prod.snd).filter (isIn category)

/-- A registry that is no document is refused. The entries of a document make the registry. A document
in which a value that has no entries takes their place is a fault. No failure changes the catalog. -/
theorem registryIsReadOrRefused (notLoaded : catalog.loaded = none)
    (isFile : catalog.files.get? catalog.registryPath = some (.bytes content.toUTF8)) :
    (Json.read content = .error .malformed ∧ ∃ problem : Report.Problem,
        problem.kind = .template ∧
        (∀ wording, problem.message wording =
          "Template registry is not valid JSON: " ++ catalog.registryPath) ∧
        Catalog.templates.outcome catalog = (.error (.problem problem), catalog)) ∨
      (Json.read content = .error .tooDeep ∧
        Catalog.templates.outcome catalog = (.error (.fault .tooDeep), catalog)) ∨
      ∃ document, Json.read content = .ok document ∧
        ((entriesIn? document = none ∧
            Catalog.templates.outcome catalog = (.error (.fault .wrongType), catalog)) ∨
          ∃ entries table, entriesIn? document = some entries ∧
            catalog.Loads (entries.filterMap described?) table) := by
  have reading := templatesRead notLoaded
  rw [isFile, readRegistryOfText] at reading
  cases isRead : Json.read content with
  | error flaw =>
      rw [isRead] at reading
      cases flaw with
      | malformed =>
          exact .inl ⟨rfl, .malformedRegistry catalog.registryPath, rfl, fun _ => rfl, reading⟩
      | tooDeep => exact .inr (.inl ⟨rfl, reading⟩)
  | ok document =>
      rw [isRead] at reading
      dsimp only at reading
      refine .inr (.inr ⟨document, rfl, ?_⟩)
      cases areEntries : entriesIn? document with
      | none =>
          rw [areEntries] at reading
          exact .inl ⟨rfl, reading⟩
      | some entries =>
          rw [areEntries] at reading
          exact .inr ⟨entries, _, rfl, loadsRegistry reading⟩

/-- This is a catalog whose registry has not been read yet. -/
def ofText (content : String) : Catalog :=
  ⟨"registry.json", "templates",
    Table.empty.insert "registry.json" (.bytes content.toUTF8), none⟩

theorem fileOfText (content : String) :
    (ofText content).files.get? (ofText content).registryPath =
      some (.bytes content.toUTF8) :=
  rfl

/-- A key need not be a text, and another entry can have the text that it is shown as. -/
def repeatedKey : String :=
  "\x7b\"templates\":[\x7b\"key\":true,\"file\":\"a\"\x7d,null,\x7b\"key\":\"True\",\"file\":\"b\"\x7d]\x7d"

theorem repeatedKeyIsLoaded :
    (ofText repeatedKey).loaded = none ∧
      (ofText repeatedKey).files.get? (ofText repeatedKey).registryPath =
        some (.bytes repeatedKey.toUTF8) ∧
      ∃ table, (ofText repeatedKey).Loads
        [⟨"True", "a", "True", "general"⟩, ⟨"True", "b", "True", "general"⟩] table := by
  have isDocument : Json.read repeatedKey = .ok (.object [("templates", .array
      [.object [("key", .bool true), ("file", .text "a")], .null,
        .object [("key", .text "True"), ("file", .text "b")]])]) := by
    cbv
  have areDescribed : [Json.object [("key", .bool true), ("file", .text "a")], .null,
      .object [("key", .text "True"), ("file", .text "b")]].filterMap described? =
        [⟨"True", "a", "True", "general"⟩, ⟨"True", "b", "True", "general"⟩] := by
    decide
  refine ⟨rfl, fileOfText repeatedKey, ?_⟩
  obtain ⟨isMalformed, -⟩ | ⟨isTooDeep, -⟩ | ⟨document, isRead, outcome⟩ :=
    @registryIsReadOrRefused (ofText repeatedKey) repeatedKey rfl (fileOfText repeatedKey)
  case inl => cases isDocument.symm.trans isMalformed
  case inr.inl => cases isDocument.symm.trans isTooDeep
  case inr.inr =>
    cases isDocument.symm.trans isRead
    obtain ⟨noEntries, -⟩ | ⟨entries, table, areEntries, loads⟩ := outcome
    case inl => cases noEntries
    case inr =>
      cases areEntries
      exact ⟨table, areDescribed ▸ loads⟩

/-- Null has no entries. The registry is neither refused nor read. -/
theorem nullEntriesEscape : ¬ ∀ content,
    (∃ problem : Report.Problem, problem.kind = .template ∧
        (Catalog.templates.outcome (ofText content)).1 = .error (.problem problem)) ∨
      (∃ table, (Catalog.templates.outcome (ofText content)).1 = .ok table) ∨
      (Catalog.templates.outcome (ofText content)).1 = .error (.fault .tooDeep) := by
  intro allReadOrRefused
  have isDocument : Json.read "\x7b\"templates\": null\x7d" =
      .ok (.object [("templates", .null)]) := by
    cbv
  have reading := @templatesRead (ofText "\x7b\"templates\": null\x7d") rfl
  rw [fileOfText, readRegistryOfText, isDocument] at reading
  have isFault : (Catalog.templates.outcome (ofText "\x7b\"templates\": null\x7d")).1 =
      .error (.fault .wrongType) := congrArg Prod.fst reading
  obtain ⟨problem, -, isProblem⟩ | ⟨table, isTable⟩ | isTooDeep :=
    allReadOrRefused "\x7b\"templates\": null\x7d"
  case inl => cases isFault.symm.trans isProblem
  case inr.inl => cases isFault.symm.trans isTable
  case inr.inr => cases isFault.symm.trans isTooDeep

end Catalog

end Letterpress
