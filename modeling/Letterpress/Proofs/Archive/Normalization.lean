import Letterpress.Archive.Normalization
import Letterpress.Proofs.Bracket.Idempotence

/-!
This file shows when a second normalization changes nothing.
-/

namespace Letterpress.Archive

open Letterpress.Bracket

/-- A member stays as it is if no token of it is replaced. -/
def IsNormal (rules : AliasRules) (archive : Archive) : Prop :=
  ∀ member ∈ archive, rewritten? rules member = none

theorem rewritesOfNormal {rules : AliasRules} {archive : Archive} (normal : archive.IsNormal rules) :
    archive.normalize? rules = none := by
  have noTexts : (archive.filterMap fun member =>
      (rewritten? rules member).map fun text => (member.name, text)) = [] := by
    apply List.filterMap_eq_nil_iff.2
    intro member isMember
    rw [normal member isMember]
    rfl
  rw [normalize?, rewrites, noTexts]
  rfl

/-- The new text of a name was made from the last member of that name that is rewritten. -/
theorem lastOfText {rules : AliasRules} {archive : Archive} {name text : String}
    (found : (archive.rewrites rules).get? name = some text) :
    ∃ before last after, archive = before ++ last :: after ∧ last.name = name ∧
      rewritten? rules last = some text ∧
      ∀ other ∈ after, other.name = name → rewritten? rules other = none := by
  rw [rewrites, Table.getOfList] at found
  obtain ⟨laterEntries, earlierEntries, split, others⟩ := List.lookup_eq_some_iff.1 found
  rw [List.reverse_eq_iff, List.reverse_append, List.reverse_cons, List.append_assoc,
    List.singleton_append, List.filterMap_eq_append_iff] at split
  obtain ⟨earlier, rest, rfl, -, split⟩ := split
  obtain ⟨between, last, after, rfl, -, isEntry, isAfter⟩ := List.filterMap_eq_cons_iff.1 split
  obtain ⟨own, isRewritten, same⟩ := Option.map_eq_some_iff.1 isEntry
  obtain ⟨rfl, rfl⟩ := Prod.mk.inj same
  refine ⟨earlier ++ between, last, after, by simp, rfl, isRewritten, fun other isOther sameName => ?_⟩
  cases otherText : rewritten? rules other with
  | none => rfl
  | some text =>
      have isEntry : (other.name, text) ∈ laterEntries.reverse :=
        isAfter ▸ List.mem_filterMap.2 ⟨other, isOther, by rw [otherText]; rfl⟩
      have differs := others _ (List.mem_reverse.1 isEntry)
      simp [sameName] at differs

/-- A member whose name has no new text is not rewritten. -/
theorem keptOfNoText {rules : AliasRules} {archive : Archive} {member : Member}
    (isMember : member ∈ archive) (noText : (archive.rewrites rules).get? member.name = none) :
    rewritten? rules member = none := by
  rw [rewrites, Table.getOfList, List.lookup_eq_none_iff] at noText
  cases rewritten : rewritten? rules member with
  | none => rfl
  | some text =>
      have isEntry : (member.name, text) ∈ archive.filterMap fun member =>
          (rewritten? rules member).map fun text => (member.name, text) :=
        List.mem_filterMap.2 ⟨member, isMember, by rw [rewritten]; rfl⟩
      have differs := noText _ (List.mem_reverse.2 isEntry)
      simp at differs

theorem textOfString (name text : String) : (Member.mk name text.toUTF8).text? = some text := by
  change String.fromUTF8? text.toUTF8 = some text
  unfold String.fromUTF8?
  split
  case isTrue => rfl
  case isFalse invalid => exact absurd text.isValidUTF8 (by simpa using invalid)

/-- A member that is rewritten is a part of markup with a text in which a token is replaced. -/
theorem sourceOfRewritten {rules : AliasRules} {member : Member} {text : String}
    (rewritten : rewritten? rules member = some text) :
    member.isMarkup = true ∧ ∃ original, member.text? = some original ∧
      text = (rewrite rules original).content := by
  unfold rewritten? at rewritten
  split at rewritten
  case isFalse => exact nomatch rewritten
  case isTrue isMarkup =>
    split at rewritten
    case h_2 => exact nomatch rewritten
    case h_1 original isText =>
      obtain ⟨-, same⟩ := Option.ite_none_right_eq_some.1 rewritten
      exact ⟨isMarkup, original, isText, (Option.some.inj same).symm⟩

/-- A normalized archive is normal if a second rewriting of each text changes nothing. -/
theorem normalOfTwice {rules : AliasRules} {archive : Archive}
    (settles : ∀ member ∈ archive, ∀ text, member.isMarkup = true → member.text? = some text →
      (rewrite rules (rewrite rules text).content).mutated = false) :
    (archive.normalize rules).normalize? rules = none := by
  apply rewritesOfNormal
  by_cases noTexts : (archive.rewrites rules).entries.isEmpty = true
  · have kept : archive.normalize rules = archive := by
      simp [normalize, normalize?, noTexts]
    rw [kept]
    intro member isMember
    apply keptOfNoText isMember
    rw [Table.get?, List.isEmpty_iff.1 noTexts]
    rfl
  · have replaced : archive.normalize rules = archive.replace (archive.rewrites rules) := by
      simp [normalize, normalize?, noTexts]
    rw [replaced]
    intro member isMember
    obtain ⟨source, isSource, rfl⟩ := List.mem_map.1 isMember
    unfold Member.replace
    cases found : (archive.rewrites rules).get? source.name with
    | none => exact keptOfNoText isSource found
    | some text =>
        obtain ⟨before, original, after, rfl, -, rewritten, -⟩ := lastOfText found
        obtain ⟨isMarkup, content, isText, rfl⟩ := sourceOfRewritten rewritten
        have isOriginal := List.mem_append_right before (List.mem_cons_self (a := original) (l := after))
        have settled := settles original isOriginal content isMarkup isText
        change rewritten? rules ⟨source.name, _⟩ = none
        unfold rewritten?
        simp only [textOfString, settled]
        split <;> rfl

/-- A second rewriting changes nothing exactly if no command of the first one exposes a bracket. The
command of a token without braces exposes none. A second normalization changes nothing if no command
in a part exposes a bracket. -/
theorem normalizationSettles (content : String) (archive : Archive) :
    (rewrite .standard (rewrite .standard content).content =
        ⟨(rewrite .standard content).content, false⟩ ↔ Unexposed (scriptOf .standard content)) ∧
      ((∀ token ∈ tokensOf content, IsBraceless token.body) →
        Unexposed (scriptOf .standard content)) ∧
      ((∀ member ∈ archive, ∀ text, member.isMarkup = true → member.text? = some text →
          Unexposed (scriptOf .standard text)) →
        (archive.normalize .standard).normalize? .standard = none) := by
  constructor
  · rw [rewriteSettledIff, rewrittenSettledIff standardFallbackIsName]
  constructor
  · intro braceless
    exact unexposedOfBraceless standardFallbackIsName (piecesAdmitted _) startAgrees braceless
  · intro unexposed
    apply normalOfTwice
    intro member isMember text isMarkup isText
    rw [notMutatedIff, rewrittenSettledIff standardFallbackIsName]
    exact unexposed member isMember text isMarkup isText

/-- A second rewriting does not change the row of a table, and a second normalization does not change
an archive with the row. -/
theorem tableRowSettles :
    (∀ token ∈ tokensOf "[#items][unit price][a.b c][/items]", IsBraceless token.body) ∧
      rewrite .standard (rewrite .standard "[#items][unit price][a.b c][/items]").content =
        ⟨(rewrite .standard "[#items][unit price][a.b c][/items]").content, false⟩ ∧
      (normalize .standard [⟨"word/document.xml", "[#items][unit price][a.b c][/items]".toUTF8⟩]).normalize?
        .standard = none := by
  have braceless :
      ∀ token ∈ tokensOf "[#items][unit price][a.b c][/items]", IsBraceless token.body := by
    decide +kernel
  obtain ⟨unchanged, unexposedOf, settles⟩ :=
    normalizationSettles "[#items][unit price][a.b c][/items]"
      [⟨"word/document.xml", "[#items][unit price][a.b c][/items]".toUTF8⟩]
  have unexposed := unexposedOf braceless
  refine ⟨braceless, unchanged.2 unexposed, settles fun member isMember text isMarkup isText => ?_⟩
  rw [List.mem_singleton.1 isMember, textOfString] at isText
  exact Option.some.inj isText ▸ unexposed

/-- A brace in a token ends the command around the brackets of its quotes, which a second rewriting
then takes for a token. -/
theorem openBraceUnsettled :
    rewrite .standard "[a\x7bb]" = ⟨"\x7bthis[\"a\x7bb\"]\x7d", true⟩ ∧
      rewrite .standard "\x7bthis[\"a\x7bb\"]\x7d" =
        ⟨"\x7bthis\x7bthis[\"\\\"a\x7bb\\\"\"]\x7d\x7d", true⟩ := by
  decide +kernel

end Letterpress.Archive
