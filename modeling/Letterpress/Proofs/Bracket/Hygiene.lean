import Letterpress.Bracket.Rewriting
import Letterpress.Proofs.Bracket.Alias
import Mathlib.Data.List.Induction

/-!
This file follows the open loops through a rewriting. At every point their aliases are the active
ones and differ from one another, and a loop is opened under the first alias that is free.
-/

namespace Letterpress.Bracket

/-! ### Free aliases -/

/-- A base that is free is the alias itself. Another one is numbered, with the least number from two
on that gives a free alias. -/
def IsFirstFree (base : String) (active : List String) (itemName : String) : Prop :=
  itemName ∉ active ∧
    (itemName = base ∨
      base ∈ active ∧ ∃ number ≥ 2, itemName = base ++ decimalText number ∧
        ∀ smaller ≥ 2, smaller < number → base ++ decimalText smaller ∈ active)

theorem deriveAliasIsFirstFree (rules : AliasRules) (loopName : String) (active : List String) :
    IsFirstFree (baseAlias rules loopName) active (deriveAlias rules loopName active) := by
  obtain ⟨count, same, isFree, others⟩ := freshAliasFirst (baseAlias rules loopName) active
  rw [deriveAlias, same]
  refine ⟨isFree, ?_⟩
  cases count with
  | zero => exact .inl rfl
  | succ count =>
      refine .inr ⟨others 0 (Nat.zero_lt_succ _), count + 2, Nat.le_add_left 2 count, rfl, ?_⟩
      intro smaller fromTwo isSmaller
      obtain ⟨before, rfl⟩ := Nat.exists_eq_add_of_le' fromTwo
      exact others (before + 1) (by omega)

/-! ### Points of a rewriting -/

/-- These are the loops that are open after some pieces. -/
def progressAfter (rules : AliasRules) (earlier : List Piece) : Progress :=
  earlier.foldl (fun progress piece => (rewritePiece rules progress piece).2) .start

theorem progressAfterSnoc (rules : AliasRules) (earlier : List Piece) (piece : Piece) :
    progressAfter rules (earlier ++ [piece]) =
      (rewritePiece rules (progressAfter rules earlier) piece).2 := by
  rw [progressAfter, List.foldl_append]
  rfl

theorem rewritePiecesAppend (rules : AliasRules) (progress : Progress) (earlier later : List Piece) :
    rewritePieces rules progress (earlier ++ later) =
      rewritePieces rules progress earlier ++
        rewritePieces rules
          (earlier.foldl (fun progress piece => (rewritePiece rules progress piece).2) progress)
          later := by
  induction earlier generalizing progress with
  | nil => rfl
  | cons piece rest inductionHypothesis =>
      exact congrArg _ (inductionHypothesis (rewritePiece rules progress piece).2)

/-- The active aliases are those of the open loops, and they differ from one another. -/
structure Progress.IsHygienic (progress : Progress) : Prop where
  active : progress.active = progress.loops.map Loop.itemName
  distinct : progress.active.Nodup

theorem Progress.startIsHygienic : Progress.start.IsHygienic := ⟨rfl, .nil⟩

/-- What is written for a piece depends on the open loops alone, and so do the loops that are open
after it. -/
inductive Moves (rules : AliasRules) (loops : List Loop) : Piece → List Char → List Loop → Prop
  | opens {body : List Char} {itemName : String}
      (isReplaced : (Piece.token .opening body).isReplaced = true)
      (isFree : IsFirstFree (baseAlias rules (trimmedBody body)) (loops.map Loop.itemName) itemName) :
      Moves rules loops (.token .opening body)
        (braced ("FOR " ++ itemName ++ " IN " ++ trimmedBody body))
        (⟨trimmedBody body, itemName⟩ :: loops)
  | closes {body : List Char} {loop : Loop} {outer : List Loop}
      (isReplaced : (Piece.token .closing body).isReplaced = true)
      (innermost : loops = loop :: outer) :
      Moves rules loops (.token .closing body) (braced ("END-FOR " ++ loop.itemName)) outer
  | closesNone {body : List Char} (isReplaced : (Piece.token .closing body).isReplaced = true)
      (isNone : loops = []) :
      Moves rules loops (.token .closing body) (braced ("END-FOR " ++ trimmedBody body)) []
  | inserts {mark : Mark} {body : List Char} (isReplaced : (Piece.token mark body).isReplaced = true)
      (isValue : mark = .value ∨ mark = .both) :
      Moves rules loops (.token mark body)
        (valueCommand ⟨loops, loops.map Loop.itemName⟩ (trimmedBody body)) loops
  | keeps {piece : Piece} (isKept : piece.isReplaced = false) :
      Moves rules loops piece piece.source loops

section

variable {rules : AliasRules} {progress : Progress}

/-- The alias of a loop that is closed is free again. -/
theorem Progress.IsHygienic.outer (hygienic : progress.IsHygienic) {loop : Loop} {outer : List Loop}
    (innermost : progress.loops = loop :: outer) :
    Progress.IsHygienic ⟨outer, progress.active.filter (· ≠ loop.itemName)⟩ := by
  obtain ⟨same, distinct⟩ := hygienic
  rw [innermost, List.map_cons] at same
  rw [same] at distinct ⊢
  obtain ⟨notOuter, distinctOuter⟩ := List.nodup_cons.1 distinct
  have outerKept (itemName : String) (isOuter : itemName ∈ outer.map Loop.itemName) :
      decide (itemName ≠ loop.itemName) = true :=
    decide_eq_true fun same => notOuter (same ▸ isOuter)
  have filtered : (loop.itemName :: outer.map Loop.itemName).filter (· ≠ loop.itemName) =
      outer.map Loop.itemName := by
    rw [List.filter_cons_of_neg (by simp), List.filter_eq_self.2 outerKept]
  exact ⟨filtered, filtered.symm ▸ distinctOuter⟩

theorem Progress.IsHygienic.token (hygienic : progress.IsHygienic) (mark : Mark) (body : String) :
    (rewriteToken rules progress mark body).2.IsHygienic := by
  cases mark with
  | opening =>
      have notActive := deriveAliasNotActive rules body progress.active
      exact ⟨congrArg _ hygienic.active, List.nodup_cons.2 ⟨notActive, hygienic.distinct⟩⟩
  | closing =>
      simp only [rewriteToken, closeLoop]
      split
      case h_1 innermost => exact hygienic.outer innermost
      case h_2 => exact hygienic
  | value => exact hygienic
  | both => exact hygienic

theorem Progress.IsHygienic.piece (hygienic : progress.IsHygienic) (piece : Piece) :
    (rewritePiece rules progress piece).2.IsHygienic := by
  unfold rewritePiece
  split
  · split
    · exact hygienic.token _ _
    · exact hygienic
  · exact hygienic

theorem progressAfterIsHygienic (rules : AliasRules) (earlier : List Piece) :
    (progressAfter rules earlier).IsHygienic := by
  induction earlier using List.reverseRecOn with
  | nil => exact Progress.startIsHygienic
  | append_singleton earlier piece inductionHypothesis =>
      rw [progressAfterSnoc]
      exact inductionHypothesis.piece piece

/-- One piece moves the scan on. -/
theorem Progress.IsHygienic.moves (hygienic : progress.IsHygienic) (piece : Piece) :
    Moves rules progress.loops piece (rewritePiece rules progress piece).1
      (rewritePiece rules progress piece).2.loops := by
  obtain ⟨loops, active⟩ := progress
  obtain rfl : active = loops.map Loop.itemName := hygienic.active
  cases isReplaced : piece.isReplaced with
  | false =>
      have kept : rewritePiece rules ⟨loops, loops.map Loop.itemName⟩ piece =
          (piece.source, ⟨loops, loops.map Loop.itemName⟩) := by
        cases piece with
        | token mark body => exact if_neg (by simp [isReplaced])
        | plain text => rfl
        | command inside => rfl
      rw [kept]
      exact .keeps isReplaced
  | true =>
      cases piece with
      | plain text => exact absurd isReplaced Bool.false_ne_true
      | command inside => exact absurd isReplaced Bool.false_ne_true
      | token mark body =>
          rw [rewritePiece, if_pos isReplaced]
          cases mark with
          | opening => exact .opens isReplaced (deriveAliasIsFirstFree rules _ _)
          | closing =>
              cases loops with
              | nil => exact .closesNone isReplaced rfl
              | cons loop outer => exact .closes isReplaced rfl
          | value => exact .inserts isReplaced (.inl rfl)
          | both => exact .inserts isReplaced (.inr rfl)

end

/-- At every point of a rewriting the active aliases are those of the open loops, and they differ
from one another. The next piece moves the scan on: a loop is opened under the first alias that no
loop around it has, and a closing token closes the innermost loop by its alias. -/
theorem aliasesAreHygienic (rules : AliasRules) (content : String) (earlier later : List Piece)
    (cut : pieces content.toList = earlier ++ later) :
    let reached := progressAfter rules earlier
    (rewrite rules content).content.toList =
        (rewritePieces rules .start earlier).flatten ++ (rewritePieces rules reached later).flatten ∧
      reached.active = reached.loops.map Loop.itemName ∧
      (reached.loops.map Loop.itemName).Nodup ∧
      ∀ piece rest, later = piece :: rest →
        let next := progressAfter rules (earlier ++ [piece])
        ∃ text, Moves rules reached.loops piece text next.loops ∧
          rewritePieces rules reached later = text :: rewritePieces rules next rest := by
  intro reached
  have hygienic : reached.IsHygienic := progressAfterIsHygienic rules earlier
  refine ⟨?_, hygienic.active, hygienic.active ▸ hygienic.distinct, ?_⟩
  · rw [rewrite, String.toList_ofList, cut, rewritePiecesAppend, List.flatten_append]
    rfl
  · rintro piece rest rfl next
    have moved : next = (rewritePiece rules reached piece).2 := progressAfterSnoc rules earlier piece
    rw [moved]
    exact ⟨_, hygienic.moves piece, rfl⟩

/-- The third loop gets the third alias, for the second one is the base of the loop around it. -/
theorem thirdAliasIsFree :
    let opened : List Piece := [.token .opening "items".toList, .token .opening "item2s".toList]
    pieces "[#items][#item2s][#items]".toList = opened ++ [.token .opening "items".toList] ∧
      ∃ text, Moves .standard [⟨"item2s", "item2"⟩, ⟨"items", "item"⟩]
          (.token .opening "items".toList) text
          [⟨"items", "item3"⟩, ⟨"item2s", "item2"⟩, ⟨"items", "item"⟩] ∧
        rewritePieces .standard (progressAfter .standard opened) [.token .opening "items".toList] =
          [text] := by
  intro opened
  have cut : pieces "[#items][#item2s][#items]".toList =
      opened ++ [.token .opening "items".toList] := by decide +kernel
  have reached : (progressAfter .standard opened).loops =
      [⟨"item2s", "item2"⟩, ⟨"items", "item"⟩] := by decide +kernel
  have next : (progressAfter .standard (opened ++ [.token .opening "items".toList])).loops =
      [⟨"items", "item3"⟩, ⟨"item2s", "item2"⟩, ⟨"items", "item"⟩] := by decide +kernel
  obtain ⟨text, moved, written⟩ := (aliasesAreHygienic .standard _ _ _ cut).2.2.2 _ _ rfl
  rw [reached, next] at moved
  exact ⟨cut, text, moved, written⟩

end Letterpress.Bracket
