import Letterpress.Proofs.Archive.Normalization

/-!
This file shows what the members of a normalized archive hold. All members of a name get the text of
the last one in which a token is replaced, so that members are rewritten one by one exactly if those
of one name agree.
-/

namespace Letterpress

open Letterpress.Bracket

/-! ### Members -/

namespace Member

/-- A member has tokens if it is a part of markup with a text in which a token is replaced. -/
def HasTokens (rules : AliasRules) (member : Member) : Prop :=
  member.isMarkup = true ∧ ∃ text, member.text? = some text ∧ (rewrite rules text).mutated = true

/-- A part of markup that has a text is rewritten on its own, and any other member is kept. -/
def rewritten (rules : AliasRules) (member : Member) : Member :=
  match member.isMarkup, member.text? with
  | true, some text => { member with content := (rewrite rules text).content.toUTF8 }
  | _, _ => member

section

variable {rules : AliasRules} {member : Member} {text : String}

theorem contentOfText (isText : member.text? = some text) : text.toUTF8 = member.content := by
  unfold text? String.fromUTF8? at isText
  split at isText
  case isTrue => exact Option.some.inj isText ▸ rfl
  case isFalse => cases isText

theorem hasTokensIff : member.HasTokens rules ↔ ∃ text, Archive.rewritten? rules member = some text := by
  unfold HasTokens Archive.rewritten?
  cases member.isMarkup with
  | false => simp
  | true =>
      cases member.text? with
      | none => simp
      | some text => simp

theorem noTokensIff : ¬ member.HasTokens rules ↔ Archive.rewritten? rules member = none := by
  rw [hasTokensIff, not_exists, Option.eq_none_iff_forall_ne_some]

theorem nameOfRewritten (rules : AliasRules) (member : Member) :
    (member.rewritten rules).name = member.name := by
  unfold rewritten
  split <;> rfl

theorem rewrittenOfTokens (isRewritten : Archive.rewritten? rules member = some text) :
    member.rewritten rules = { member with content := text.toUTF8 } := by
  obtain ⟨isMarkup, original, isText, rfl⟩ := Archive.sourceOfRewritten isRewritten
  simp only [rewritten, isMarkup, isText]

/-- A rewriting without tokens gives the same bytes. -/
theorem rewrittenOfNoTokens (noTokens : ¬ member.HasTokens rules) : member.rewritten rules = member := by
  unfold rewritten
  split
  case h_1 text isMarkup isText =>
    have settled : (rewrite rules text).mutated = false :=
      Bool.eq_false_iff.2 fun mutated => noTokens ⟨isMarkup, text, isText, mutated⟩
    rw [(rewriteSettledIff text).2 settled, contentOfText isText]
  case h_2 => rfl

end

end Member

namespace Archive

/-! ### Replaced members -/

/-- What becomes of a member: it is kept if no member of its name has tokens, or else it gets the
content of the last one that has. -/
inductive Becomes (rules : AliasRules) (archive : Archive) (member : Member) : Member → Prop
  | kept (noTokens : ∀ other ∈ archive, other.name = member.name → ¬ other.HasTokens rules) :
      Becomes rules archive member member
  | replaced {before after : Archive} {last : Member} (split : archive = before ++ last :: after)
      (sameName : last.name = member.name) (hasTokens : last.HasTokens rules)
      (isLast : ∀ other ∈ after, other.name = member.name → ¬ other.HasTokens rules) :
      Becomes rules archive member { member with content := (last.rewritten rules).content }

/-- Members of one name agree if they hold the same as soon as one of them has tokens. -/
def NamesakesAgree (rules : AliasRules) (archive : Archive) : Prop :=
  ∀ member ∈ archive, member.HasTokens rules → ∀ other ∈ archive, other.name = member.name →
    (other.rewritten rules).content = (member.rewritten rules).content

section

variable {rules : AliasRules} {archive : Archive}

theorem normalIff : archive.IsNormal rules ↔ ∀ member ∈ archive, ¬ member.HasTokens rules :=
  forall₂_congr fun _ _ => Member.noTokensIff.symm

theorem normalizeNoneIff :
    archive.normalize? rules = none ↔ ∀ member ∈ archive, ¬ member.HasTokens rules := by
  rw [← normalIff]
  refine ⟨fun isNone member isMember => ?_, rewritesOfNormal⟩
  have noTexts : (archive.rewrites rules).entries.isEmpty = true := by
    by_contra someTexts
    simp [normalize?, someTexts] at isNone
  apply keptOfNoText isMember
  rw [Table.get?, List.isEmpty_iff.1 noTexts]
  rfl

theorem normalizedOfSome {normalized : Archive}
    (isNormalized : archive.normalize? rules = some normalized) :
    normalized = archive.replace (archive.rewrites rules) := by
  simp only [normalize?, Option.ite_none_left_eq_some] at isNormalized
  exact (Option.some.inj isNormalized.2).symm

theorem replaceBecomes (member : Member) :
    Becomes rules archive member (member.replace (archive.rewrites rules)) := by
  unfold Member.replace
  cases found : (archive.rewrites rules).get? member.name with
  | none =>
      exact .kept fun other isOther sameName =>
        Member.noTokensIff.2 (keptOfNoText isOther (sameName ▸ found))
  | some text =>
      obtain ⟨before, last, after, split, sameName, isRewritten, others⟩ := lastOfText found
      have content : text.toUTF8 = (last.rewritten rules).content := by
        rw [Member.rewrittenOfTokens isRewritten]
      change Becomes rules archive member { member with content := text.toUTF8 }
      rw [content]
      exact .replaced split sameName (Member.hasTokensIff.2 ⟨text, isRewritten⟩)
        fun other isOther otherName => Member.noTokensIff.2 (others other isOther otherName)

theorem Becomes.sameName {member result : Member} (becomes : Becomes rules archive member result) :
    result.name = member.name := by
  cases becomes <;> rfl

/-- Members are rewritten one by one exactly if those of one name agree. -/
theorem replacedOneByOneIff :
    archive.replace (archive.rewrites rules) = archive.map (Member.rewritten rules) ↔
      archive.NamesakesAgree rules := by
  rw [replace, List.map_inj_left]
  constructor
  · intro same member isMember hasTokens other isOther sameName
    obtain ⟨own, isRewritten⟩ := Member.hasTokensIff.1 hasTokens
    cases found : (archive.rewrites rules).get? member.name with
    | none => exact nomatch isRewritten.symm.trans (keptOfNoText isMember found)
    | some text =>
        have content {one : Member} (isOne : one ∈ archive) (oneName : one.name = member.name) :
            (one.rewritten rules).content = text.toUTF8 := by
          rw [← same one isOne, Member.replace, oneName, found]
        rw [content isOther sameName, content isMember rfl]
  · intro agree member isMember
    have becomes : Becomes rules archive member (member.replace (archive.rewrites rules)) :=
      replaceBecomes member
    generalize member.replace (archive.rewrites rules) = result at becomes ⊢
    cases becomes with
    | kept noTokens => exact (Member.rewrittenOfNoTokens (noTokens member isMember rfl)).symm
    | @replaced before after last split sameName hasTokens _ =>
        have isLast : last ∈ archive := split ▸ List.mem_append_right before List.mem_cons_self
        have content := agree last isLast hasTokens member isMember sameName.symm
        rw [← content, ← Member.nameOfRewritten rules member]

theorem namesakesAgreeOfDistinct (distinct : (archive.map Member.name).Nodup) :
    archive.NamesakesAgree rules := by
  intro member isMember _ other isOther sameName
  rw [List.inj_on_of_nodup_map distinct isOther isMember sameName]

end

/-- An archive stays as it is exactly if no member has tokens. Otherwise the members keep their names
and their order, and all members of a name get the new text of the last one that has tokens. So each
member is rewritten on its own exactly if members of one name agree. -/
theorem namesakesShareText (rules : AliasRules) (archive : Archive) :
    (archive.normalize? rules = none ↔ ∀ member ∈ archive, ¬ member.HasTokens rules) ∧
      ∀ normalized, archive.normalize? rules = some normalized →
        normalized.map Member.name = archive.map Member.name ∧
          List.Forall₂ (Becomes rules archive) archive normalized ∧
          (normalized = archive.map (Member.rewritten rules) ↔ archive.NamesakesAgree rules) := by
  refine ⟨normalizeNoneIff, fun normalized isNormalized => ?_⟩
  obtain rfl := normalizedOfSome isNormalized
  refine ⟨?_, ?_, replacedOneByOneIff⟩
  · rw [replace, List.map_map]
    exact List.map_congr_left fun member _ => (replaceBecomes member).sameName
  · exact List.forall₂_map_right_iff.2 (List.forall₂_same.2 fun member _ => replaceBecomes member)

/-- The text of a document is rewritten, and a picture with the same bytes is kept. -/
theorem pictureIsKept :
    ∃ normalized,
      normalize? .standard
          [⟨"word/document.xml", "[x]".toUTF8⟩, ⟨"word/media/image.png", "[x]".toUTF8⟩] =
        some normalized ∧
      normalized =
        [⟨"word/document.xml", "\x7bx\x7d".toUTF8⟩, ⟨"word/media/image.png", "[x]".toUTF8⟩] := by
  have someTokens : (normalize? .standard [⟨"word/document.xml", "[x]".toUTF8⟩,
      ⟨"word/media/image.png", "[x]".toUTF8⟩]).isSome = true := by decide +kernel
  obtain ⟨normalized, isNormalized⟩ := Option.isSome_iff_exists.1 someTokens
  have oneByOne := ((namesakesShareText _ _).2 normalized isNormalized).2.2.2
    (namesakesAgreeOfDistinct (by decide))
  have content : (rewrite .standard "[x]").content = "\x7bx\x7d" := by decide +kernel
  have isMarkup : (Member.mk "word/document.xml" "[x]".toUTF8).isMarkup = true := by decide +kernel
  have isPicture : (Member.mk "word/media/image.png" "[x]".toUTF8).isMarkup = false := by
    decide +kernel
  refine ⟨normalized, isNormalized, oneByOne.trans ?_⟩
  simp only [List.map_cons, List.map_nil, Member.rewritten, isMarkup, isPicture, textOfString, content]

/-- A member without a token is not kept if another one of its name has tokens. -/
theorem namesakeIsOverwritten :
    ((normalize? .standard [⟨"a.xml", "[x]".toUTF8⟩, ⟨"a.xml", "y".toUTF8⟩]).map fun normalized =>
        normalized.map Member.text?) = some [some "\x7bx\x7d", some "\x7bx\x7d"] ∧
      ([⟨"a.xml", "[x]".toUTF8⟩, ⟨"a.xml", "y".toUTF8⟩].map fun member : Member =>
        (member.rewritten .standard).text?) = [some "\x7bx\x7d", some "y"] := by
  decide +kernel

end Archive

end Letterpress
