import Letterpress.Markup.Writing
import Letterpress.Proofs.Markup.Event
import Mathlib.Data.List.Nodup

/-!
This file fixes which headings are sound: those that can be written as a tag and read again with the
same declarations. The headings of a document are sound.
-/

namespace Letterpress.Markup

namespace Declarations

/-- Declarations agree if they resolve all qualifiers alike. -/
def Agree (first second : Declarations) : Prop :=
  ∀ qualifier, first.lookup qualifier = second.lookup qualifier

/-- The address of the notation goes with its qualifier, and with no other one. -/
def IsSound (declarations : Declarations) : Prop :=
  ∀ qualifier, declarations.lookup qualifier = some markupAddress ↔ qualifier = "xml".toList

/-- The name of the attribute that declares a qualifier. -/
def nameOf (qualifier : List Char) : QualifiedName :=
  if qualifier.isEmpty then ⟨[], "xmlns".toList⟩ else ⟨"xmlns".toList, qualifier⟩

end Declarations

def declarationAttribute (declaration : List Char × List Char) : Attribute :=
  ⟨Declarations.nameOf declaration.1, declaration.2⟩

/-- This is the tag that a heading is written as. -/
def Heading.tag (heading : Heading) : Tag :=
  ⟨heading.name, heading.declarations.map declarationAttribute ++ heading.attributes⟩

/-- These are the declarations inside of an element. -/
def Heading.inner (outer : Declarations) (heading : Heading) : Declarations :=
  heading.declarations ++ outer

/-- The names and values of an attribute can be written. -/
def Attribute.IsWritable (found : Attribute) : Prop := found.name.IsWritten ∧ AllLegal found.value

/-- A heading is sound if its tag can be written and read inside of the declarations. -/
structure Heading.IsSound (outer : Declarations) (heading : Heading) : Prop where
  name : heading.name.IsWritten
  attributes : ∀ found ∈ heading.tag.attributes, found.IsWritable
  plain : ∀ found ∈ heading.attributes, Declarations.declared? found.name = none
  resolved : ((heading.inner outer).resolve? heading.name.qualifier).isSome = true
  allowed : ∀ entry ∈ heading.declarations, Declarations.isAllowed entry.1 entry.2 = true
  keys : ∃ keys, heading.attributes.mapM
    (fun found => attributeKey? (heading.inner outer) found.name) = some keys ∧ keys.Nodup
  names : (heading.tag.attributes.map Attribute.name).Nodup

/-! ### Headings of tags -/

section

variable {outer inner : Declarations} {tag : Tag} {heading : Heading}

theorem ofTagIff : Heading.ofTag? outer tag = some (heading, inner) ↔
    let own := Declarations.ofAttributes tag.attributes
    let plain := tag.attributes.filter fun found => (Declarations.declared? found.name).isNone
    inner = own ++ outer ∧ ∃ address keys,
      inner.resolve? tag.name.qualifier = some address ∧
        plain.mapM (fun found => attributeKey? inner found.name) = some keys ∧
          own.all (fun entry => Declarations.isAllowed entry.1 entry.2) = true ∧
            allDistinct keys = true ∧
              allDistinct (tag.attributes.map fun found =>
                (found.name.qualifier, found.name.base)) = true ∧
                heading = ⟨tag.name, address, own.filter (!Declarations.standard.contains ·), plain⟩ := by
  simp only [Heading.ofTag?, Option.bind_eq_bind, Option.bind_eq_some_iff,
    Option.ite_none_right_eq_some, Option.some.injEq, Prod.mk.injEq, Bool.and_eq_true]
  constructor
  · rintro ⟨address, resolved, keys, areKeys, ⟨⟨allowed, distinct⟩, distinctNames⟩, rfl, rfl⟩
    exact ⟨rfl, address, keys, resolved, areKeys, allowed, distinct, distinctNames, rfl⟩
  · rintro ⟨rfl, address, keys, resolved, areKeys, allowed, distinct, distinctNames, rfl⟩
    exact ⟨address, resolved, keys, areKeys, ⟨⟨allowed, distinct⟩, distinctNames⟩, rfl, rfl⟩

theorem headingName (headed : Heading.ofTag? outer tag = some (heading, inner)) :
    heading.name = tag.name := by
  obtain ⟨-, _, _, -, -, -, -, -, rfl⟩ := ofTagIff.1 headed
  rfl

theorem allDistinctIff {keys : List (List Char × List Char)} :
    allDistinct keys = true ↔ keys.Nodup := by
  induction keys with
  | nil => simp [allDistinct]
  | cons key rest inductionHypothesis => simp [allDistinct, inductionHypothesis]

theorem distinctNames {attributes : List Attribute} :
    allDistinct (attributes.map fun found => (found.name.qualifier, found.name.base)) = true ↔
      (attributes.map Attribute.name).Nodup := by
  have injective : Function.Injective fun name : QualifiedName => (name.qualifier, name.base) := by
    rintro ⟨⟩ ⟨⟩ same
    simpa using same
  rw [allDistinctIff, ← List.nodup_map_iff injective (l := attributes.map Attribute.name), List.map_map]
  rfl

end

/-! ### Declarations -/

namespace Declarations

section

variable {first second own outer : Declarations} {qualifier : List Char}

theorem lookupCons (entry : List Char × List Char) (rest : Declarations) (qualifier : List Char) :
    List.lookup qualifier (entry :: rest) =
      if qualifier = entry.1 then some entry.2 else rest.lookup qualifier := by
  rw [List.lookup_cons]
  by_cases same : qualifier = entry.1
  · simp [same]
  · rw [if_neg same, beq_eq_false_iff_ne.2 same]

theorem standardSound : standard.IsSound := by
  intro qualifier
  rw [standard, lookupCons]
  by_cases same : qualifier = "xml".toList
  · simp [same]
  · rw [if_neg same]
    exact iff_of_false nofun same

theorem Agree.resolve (agree : first.Agree second) (qualifier : List Char) :
    first.resolve? qualifier = second.resolve? qualifier := by
  rw [resolve?, resolve?, agree]

theorem Agree.key (agree : first.Agree second) (name : QualifiedName) :
    attributeKey? first name = attributeKey? second name := by
  rw [attributeKey?, attributeKey?, agree.resolve]

theorem Agree.append (agree : first.Agree second) (own : Declarations) :
    Agree (own ++ first) (own ++ second) := by
  intro qualifier
  rw [List.lookup_append, List.lookup_append, agree]

theorem declaredNameOf (qualifier : List Char) : declared? (nameOf qualifier) = some qualifier := by
  unfold nameOf declared?
  cases qualifier <;> simp

theorem nameOfDeclared {name : QualifiedName} (isWritten : name.IsWritten)
    (declares : declared? name = some qualifier) : nameOf qualifier = name := by
  obtain ⟨prefixed, base⟩ := name
  unfold declared? at declares
  split at declares
  case isTrue isDeclaration =>
    obtain rfl := Option.some.inj declares
    obtain ⟨first, others, rfl, -⟩ := isWritten.base
    simp only at isDeclaration
    simp [nameOf, isDeclaration]
  case isFalse =>
    obtain ⟨⟨noQualifier, isBase⟩, same⟩ := Option.ite_none_right_eq_some.1 declares
    obtain rfl := Option.some.inj same
    simp only [List.isEmpty_iff] at noQualifier isBase
    simp [nameOf, noQualifier, isBase]

theorem allowedAddress {address : List Char} (allowed : isAllowed qualifier address = true) :
    qualifier = "xml".toList ↔ address = markupAddress := by
  simp only [isAllowed, Bool.and_eq_true, decide_eq_true_eq] at allowed
  exact allowed.2

/-- Allowed declarations keep the address of the notation to its qualifier. -/
theorem allowedSound (sound : outer.IsSound)
    (allowed : ∀ entry ∈ own, isAllowed entry.1 entry.2 = true) : IsSound (own ++ outer) := by
  induction own with
  | nil => exact sound
  | cons entry rest inductionHypothesis =>
      obtain ⟨allowedEntry, allowedRest⟩ := List.forall_mem_cons.1 allowed
      intro qualifier
      rw [List.cons_append, lookupCons]
      by_cases same : qualifier = entry.1
      · rw [if_pos same, same, allowedAddress allowedEntry, Option.some.injEq]
      · rw [if_neg same]
        exact inductionHypothesis allowedRest qualifier

/-- What every document declares need not be declared again. -/
theorem withoutStandard (sound : outer.IsSound)
    (allowed : ∀ entry ∈ own, isAllowed entry.1 entry.2 = true) :
    Agree (own ++ outer) (own.filter (!standard.contains ·) ++ outer) := by
  induction own with
  | nil => exact fun _ => rfl
  | cons entry rest inductionHypothesis =>
      obtain ⟨allowedEntry, allowedRest⟩ := List.forall_mem_cons.1 allowed
      have agree := inductionHypothesis allowedRest
      intro qualifier
      rw [List.cons_append, lookupCons]
      by_cases isStandard : standard.contains entry = true
      · obtain rfl : entry = ("xml".toList, markupAddress) := by
          simpa [standard] using isStandard
        rw [List.filter_cons_of_neg (by rw [isStandard]; decide), ← agree]
        by_cases same : qualifier = "xml".toList
        · rw [if_pos same]
          exact ((allowedSound sound allowedRest qualifier).2 same).symm
        · rw [if_neg same]
      · rw [List.filter_cons_of_pos (by simpa using isStandard), List.cons_append, lookupCons, agree]

end

end Declarations

/-! ### Attributes -/

section

variable {found : Attribute} {source : List Char}

theorem legalOfReferenced {name : List Char} {character : Char}
    (refers : referenced? name = some character) : isLegal character = true := by
  have ofNumber {code : Nat} (found : legalCharacter? code = some character) :
      isLegal character = true := by
    obtain ⟨⟨-, -, legal⟩, same⟩ := Option.ite_none_right_eq_some.1 found
    exact Option.some.inj same ▸ legal
  unfold referenced? at refers
  split at refers
  · exact ofNumber (Option.ite_none_right_eq_some.1 refers).2
  · exact ofNumber (Option.ite_none_right_eq_some.1 refers).2
  · unfold entity? at refers
    split_ifs at refers <;> exact Option.some.inj refers ▸ by decide

theorem Decodes.legal {raw decoded : List Char} (decodes : Decodes raw decoded)
    (legal : AllLegal raw) : AllLegal decoded := by
  induction decodes with
  | done => exact legal
  | plain _ _ inductionHypothesis =>
      obtain ⟨isLegal, legalRest⟩ := List.forall_mem_cons.1 legal
      exact List.forall_mem_cons.2 ⟨isLegal, inductionHypothesis legalRest⟩
  | reference refers _ inductionHypothesis =>
      refine List.forall_mem_cons.2 ⟨legalOfReferenced refers, inductionHypothesis ?_⟩
      exact fun character isInside => legal character (by simp [isInside])

theorem Attribute.IsSource.isWritable (isSource : found.IsSource source) : found.IsWritable := by
  obtain ⟨raw, _, -, isWritten, -, decoded⟩ := isSource
  obtain ⟨-, legal, decodes⟩ := decodeValueIff.1 decoded
  refine ⟨isWritten, decodes.legal (List.forall_mem_map.2 fun character isInside => ?_)⟩
  unfold blankToSpace
  split
  · decide
  · exact legal character isInside

theorem AttributesSource.areWritable {attributes : List Attribute} {isEmpty : Bool}
    (isSource : AttributesSource attributes isEmpty source) :
    ∀ found ∈ attributes, found.IsWritable := by
  induction isSource with
  | closing => simp
  | empty => simp
  | another _ _ isSource _ inductionHypothesis =>
      exact List.forall_mem_cons.2 ⟨isSource.isWritable, inductionHypothesis⟩

end

/-! ### Soundness -/

section

variable {outer other inner : Declarations} {tag : Tag} {heading : Heading}

theorem ownOfTag (plain : ∀ found ∈ heading.attributes, Declarations.declared? found.name = none) :
    Declarations.ofAttributes heading.tag.attributes = heading.declarations := by
  have noneOfPlain : heading.attributes.filterMap (fun found =>
      (Declarations.declared? found.name).map fun qualifier => (qualifier, found.value)) = [] :=
    List.filterMap_eq_nil_iff.2 fun found isInside => by rw [plain found isInside, Option.map_none]
  rw [Declarations.ofAttributes, Heading.tag, List.filterMap_append, noneOfPlain, List.append_nil,
    List.filterMap_map]
  simp [Function.comp_def, declarationAttribute, Declarations.declaredNameOf]

theorem plainOfTag (plain : ∀ found ∈ heading.attributes, Declarations.declared? found.name = none) :
    heading.tag.attributes.filter (fun found => (Declarations.declared? found.name).isNone) =
      heading.attributes := by
  have allPlain : heading.attributes.filter
      (fun found => (Declarations.declared? found.name).isNone) = heading.attributes :=
    List.filter_eq_self.2 fun found isInside => by rw [plain found isInside, Option.isNone_none]
  rw [Heading.tag, List.filter_append, allPlain, List.filter_map]
  simp [Function.comp_def, declarationAttribute, Declarations.declaredNameOf]

theorem attributesOfOwn {attributes : List Attribute}
    (writable : ∀ found ∈ attributes, found.IsWritable) :
    (Declarations.ofAttributes attributes).map declarationAttribute =
      attributes.filter fun found => (Declarations.declared? found.name).isSome := by
  induction attributes with
  | nil => rfl
  | cons found rest inductionHypothesis =>
      obtain ⟨⟨isWritten, -⟩, writableRest⟩ := List.forall_mem_cons.1 writable
      have hypothesis := inductionHypothesis writableRest
      unfold Declarations.ofAttributes at hypothesis ⊢
      cases declares : Declarations.declared? found.name with
      | none => simpa [declares] using hypothesis
      | some qualifier =>
          simp [declares, hypothesis, declarationAttribute,
            Declarations.nameOfDeclared isWritten declares]

/-- The attributes that are written are some of a tag, in another order. -/
theorem writtenFromTag {attributes : List Attribute}
    (writable : ∀ found ∈ attributes, found.IsWritable) (keeps : List Char × List Char → Bool) :
    ∃ whole, List.Sublist (((Declarations.ofAttributes attributes).filter keeps).map
        declarationAttribute ++
          attributes.filter fun found => (Declarations.declared? found.name).isNone) whole ∧
      whole.Perm attributes := by
  refine ⟨_, (List.filter_sublist.map declarationAttribute).append_right _, ?_⟩
  rw [attributesOfOwn writable]
  simp only [← Option.not_isSome]
  exact List.filter_append_perm _ attributes

namespace Heading.IsSound

theorem agree (sound : heading.IsSound outer) (agree : outer.Agree other) :
    heading.IsSound other := by
  have sameInner : (heading.inner outer).Agree (heading.inner other) := agree.append _
  obtain ⟨keys, areKeys, distinct⟩ := sound.keys
  refine { sound with resolved := sameInner.resolve _ ▸ sound.resolved, keys := ⟨keys, ?_, distinct⟩ }
  simpa only [sameInner.key] using areKeys

/-- A sound heading is read from its tag. -/
theorem headed (sound : heading.IsSound outer) :
    ∃ again, Heading.ofTag? outer heading.tag = some (again, heading.inner outer) := by
  obtain ⟨address, resolved⟩ := Option.isSome_iff_exists.1 sound.resolved
  obtain ⟨keys, areKeys, distinct⟩ := sound.keys
  have own := ownOfTag sound.plain
  refine ⟨_, ofTagIff.2 ⟨by rw [own]; rfl, address, keys, resolved, ?_, ?_,
    allDistinctIff.2 distinct, distinctNames.2 sound.names, rfl⟩⟩
  · rw [plainOfTag sound.plain]
    exact areKeys
  · rw [own]
    exact List.all_eq_true.2 sound.allowed

theorem innerSound (sound : heading.IsSound outer) (outerSound : outer.IsSound) :
    (heading.inner outer).IsSound := Declarations.allowedSound outerSound sound.allowed

/-- The headings of a document are sound. -/
theorem ofTag (name : tag.name.IsWritten) (writable : ∀ found ∈ tag.attributes, found.IsWritable)
    (headed : Heading.ofTag? outer tag = some (heading, inner)) (outerSound : outer.IsSound) :
    heading.IsSound outer ∧ inner.Agree (heading.inner outer) ∧ inner.IsSound := by
  obtain ⟨rfl, address, keys, resolved, areKeys, allAllowed, distinctKeys, distinct, rfl⟩ :=
    ofTagIff.1 headed
  have allowed := List.all_eq_true.1 allAllowed
  have agree := Declarations.withoutStandard outerSound allowed
  refine ⟨?_, agree, Declarations.allowedSound outerSound allowed⟩
  have sameKeys := congrArg (fun key => (tag.attributes.filter fun found =>
    (Declarations.declared? found.name).isNone).mapM key) (funext fun found => agree.key found.name)
  obtain ⟨whole, fromWhole, samePerm⟩ := writtenFromTag writable
    (!Declarations.standard.contains ·)
  exact {
    name := name
    attributes := fun found isInside => writable found (samePerm.subset (fromWhole.subset isInside))
    plain := fun found isInside => by simpa using (List.mem_filter.1 isInside).2
    resolved := Option.isSome_of_eq_some ((agree.resolve _).symm.trans resolved)
    allowed := fun entry isInside => allowed entry (List.mem_filter.1 isInside).1
    keys := ⟨keys, sameKeys ▸ areKeys, allDistinctIff.1 distinctKeys⟩
    names := ((samePerm.map _).nodup_iff.2 (distinctNames.1 distinct)).sublist (fromWhole.map _) }

end Heading.IsSound

end

end Letterpress.Markup
