import Letterpress.Number.Digits
import Letterpress.Text.CodeRanges
import Letterpress.Text.Letter

/-!
This file names the items of loops. The name is made from that of the loop, in the singular, and
differs from the names of the loops around it.
-/

namespace Letterpress.Bracket

/-- A suffix rule replaces the end of a word. -/
structure SuffixRule where
  suffix : String
  replacement : String
  deriving DecidableEq, Repr

structure AliasRules where
  suffixRules : List SuffixRule
  fallback : String
  deriving DecidableEq, Repr

/-- The standard rules undo the plurals in `ies`, `ses` and `s`. -/
def AliasRules.standard : AliasRules :=
  ⟨[⟨"ies", "y"⟩, ⟨"ses", "s"⟩, ⟨"s", ""⟩], "item"⟩

def SuffixRule.appliesTo (rule : SuffixRule) (word : List Char) : Bool :=
  rule.suffix.toList.isSuffixOf word && rule.suffix.toList.length < word.length

/-- An empty suffix replaces the whole word. -/
def SuffixRule.apply (rule : SuffixRule) (word : List Char) : List Char :=
  let kept := if rule.suffix = "" then 0 else word.length - rule.suffix.toList.length
  word.take kept ++ rule.replacement.toList

/-- The first rule that applies is used. -/
def AliasRules.singularize (rules : AliasRules) (word : List Char) : List Char :=
  match rules.suffixRules.find? fun rule => rule.appliesTo word with
  | some rule => rule.apply word
  | none => word

/-- This is the part after the last point, or the whole when nothing follows it. -/
def lastSegment (name : List Char) : List Char :=
  let segment := (Text.splitWhere (· = '.') name).getLastD name
  if segment.isEmpty then name else segment

def startsName : List Char → Bool
  | first :: _ => first.isAlpha || first = '_'
  | [] => false

/-- The base of an alias holds only ASCII letters, digits and underscores. -/
def baseAlias (rules : AliasRules) (loopName : String) : String :=
  let word := rules.singularize (lastSegment loopName.toList)
  let cleaned := word.filter Text.isAsciiWord
  if startsName cleaned then String.ofList cleaned else rules.fallback

/-- The first candidate is the base, and the others are numbered from two. -/
def candidate (base : String) : Nat → String
  | 0 => base
  | count + 1 => base ++ decimalText (count + 2)

/-- One of the first candidates is not active, for there are more of them than active aliases. -/
def freshAlias (base : String) (active : List String) : String :=
  (((List.range (active.length + 1)).map (candidate base)).find? fun itemName =>
    !active.contains itemName).getD base

def deriveAlias (rules : AliasRules) (loopName : String) (active : List String) : String :=
  freshAlias (baseAlias rules loopName) active

end Letterpress.Bracket
