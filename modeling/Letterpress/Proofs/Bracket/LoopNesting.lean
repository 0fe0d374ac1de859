import Letterpress.Proofs.Bracket.Token
import Mathlib.Data.List.Induction
import Mathlib.Data.List.Infix

/-!
This file shows that bracket loops are rewritten to matching blocks. The report has one loop for each
bracket loop and one insertion for each value token, and it is refused if a loop is left open.
-/

namespace Letterpress.Bracket

open Report (Shape Parses LeavesOpen itemsOf shapesOf Lexeme)

/-- These tokens nest inside of loops with the given aliases, the innermost one first. A loop gets
the alias that is derived for it, and it is closed by any closing token. -/
inductive Nested (rules : AliasRules) : List String → List Token → List Shape → Prop
  | empty {aliases : List String} : Nested rules aliases [] []
  | value {aliases : List String} {tokens : List Token} {shapes : List Shape}
      (nested : Nested rules aliases tokens shapes) (body : String) :
      Nested rules aliases (tokens ++ [.value body])
        (shapes ++ [.insert (Token.valueCode aliases body)])
  | loop {aliases : List String} {tokens inside : List Token} {shapes shapesInside : List Shape}
      {body : String} (nested : Nested rules aliases tokens shapes)
      (nestedInside : Nested rules (deriveAlias rules body aliases :: aliases) inside shapesInside)
      (closingBody : String) :
      Nested rules aliases (tokens ++ .opening body :: (inside ++ [.closing closingBody]))
        (shapes ++ [.loop (deriveAlias rules body aliases) body shapesInside])

/-- These tokens leave loops with the given aliases open. -/
inductive Unclosed (rules : AliasRules) : List String → List Token → Prop
  | outside {tokens : List Token} {shapes : List Shape} (nested : Nested rules [] tokens shapes) :
      Unclosed rules [] tokens
  | inside {aliases : List String} {tokens inside : List Token} {shapes : List Shape}
      {body : String} (unclosed : Unclosed rules aliases tokens)
      (nested : Nested rules (deriveAlias rules body aliases :: aliases) inside shapes) :
      Unclosed rules (deriveAlias rules body aliases :: aliases)
        (tokens ++ .opening body :: inside)

def Token.opens : Token → Bool
  | opening _ => true
  | _ => false

def Token.closes : Token → Bool
  | closing _ => true
  | _ => false

/-- At every point at least as many tokens have opened a loop as have closed one. -/
def NoneUnmatched (tokens : List Token) : Prop :=
  ∀ before ∈ tokens.inits, before.countP Token.closes ≤ before.countP Token.opens

instance (tokens : List Token) : Decidable (NoneUnmatched tokens) :=
  inferInstanceAs (Decidable (∀ before ∈ tokens.inits, _))

section

variable {rules : AliasRules} {aliases : List String} {tokens : List Token} {shapes : List Shape}

theorem Nested.balanced (nested : Nested rules aliases tokens shapes) :
    tokens.countP Token.opens = tokens.countP Token.closes := by
  induction nested with
  | empty => rfl
  | value _ body inductionHypothesis =>
      simpa [List.countP_append, Token.opens, Token.closes] using inductionHypothesis
  | loop _ _ closingBody hypothesis hypothesisInside =>
      simp only [List.countP_append, List.countP_cons, List.countP_nil, hypothesis,
        hypothesisInside, Token.opens, Token.closes]
      simp

theorem Unclosed.count (unclosed : Unclosed rules aliases tokens) :
    tokens.countP Token.opens = aliases.length + tokens.countP Token.closes := by
  induction unclosed with
  | outside nested => simpa using nested.balanced
  | inside _ nested inductionHypothesis =>
      simp only [List.countP_append, List.countP_cons, inductionHypothesis, nested.balanced,
        Token.opens, Token.closes, List.length_cons]
      simp
      omega

/-- What is added to all nested tokens is added inside of the innermost loop. -/
theorem Unclosed.grow {more : List Token} (unclosed : Unclosed rules aliases tokens)
    (grows : ∀ {before : List Token} {shapes : List Shape}, Nested rules aliases before shapes →
      ∃ shapesMore, Nested rules aliases (before ++ more) shapesMore) :
    Unclosed rules aliases (tokens ++ more) := by
  cases unclosed with
  | outside nested =>
      obtain ⟨shapesMore, nestedMore⟩ := grows nested
      exact .outside nestedMore
  | inside unclosed nested =>
      obtain ⟨shapesMore, nestedMore⟩ := grows nested
      simpa using Unclosed.inside unclosed nestedMore

/-- One more token changes the loops that are open. -/
theorem Unclosed.step (unclosed : Unclosed rules aliases tokens) (token : Token)
    (matched : token.closes = true → aliases ≠ []) :
    Unclosed rules (token.aliasesAfter rules aliases) (tokens ++ [token]) := by
  cases token with
  | opening body => exact .inside unclosed .empty
  | value body => exact unclosed.grow fun nested => ⟨_, nested.value body⟩
  | closing body =>
      cases unclosed with
      | outside _ => exact absurd rfl (matched rfl)
      | inside unclosed nestedInside =>
          rw [List.append_assoc]
          exact unclosed.grow fun nested => ⟨_, nested.loop nestedInside body⟩

/-- Tokens without an unmatched closing one leave some loops open, or none. -/
theorem NoneUnmatched.unclosed (rules : AliasRules) (matched : NoneUnmatched tokens) :
    ∃ aliases, Unclosed rules aliases tokens := by
  induction tokens using List.reverseRecOn with
  | nil => exact ⟨[], .outside .empty⟩
  | append_singleton before token inductionHypothesis =>
      have matchedBefore : NoneUnmatched before := fun first isPrefix =>
        matched first ((List.mem_inits _ _).2
          (((List.mem_inits _ _).1 isPrefix).trans (List.prefix_append _ _)))
      obtain ⟨aliases, unclosed⟩ := inductionHypothesis matchedBefore
      refine ⟨_, unclosed.step token fun closes isEmpty => ?_⟩
      subst isEmpty
      have counted := matched _ ((List.mem_inits _ _).2 List.prefix_rfl)
      have opensNone : token.opens = false := by cases token <;> first | rfl | exact nomatch closes
      have balanced := unclosed.count
      simp [List.countP_append, closes, opensNone] at counted balanced
      omega

/-! ### Commands of nested tokens -/

/-- These are the aliases of the loops that tokens leave open. -/
def aliasesThrough (rules : AliasRules) (aliases : List String) (tokens : List Token) :
    List String :=
  tokens.foldl (fun open? token => token.aliasesAfter rules open?) aliases

theorem commandsOfTokensAppend (aliases : List String) (tokens more : List Token) :
    commandsOfTokens rules aliases (tokens ++ more) =
      commandsOfTokens rules aliases tokens ++
        commandsOfTokens rules (aliasesThrough rules aliases tokens) more := by
  induction tokens generalizing aliases with
  | nil => rfl
  | cons token rest inductionHypothesis =>
      exact congrArg _ (inductionHypothesis (token.aliasesAfter rules aliases))

/-- Nested tokens close every loop that they open. -/
theorem Nested.aliasesThrough (nested : Nested rules aliases tokens shapes) :
    aliasesThrough rules aliases tokens = aliases := by
  unfold Bracket.aliasesThrough
  induction nested with
  | empty => rfl
  | value _ body inductionHypothesis => rw [List.foldl_append, inductionHypothesis]; rfl
  | loop _ _ closingBody hypothesis hypothesisInside =>
      rw [List.foldl_append, hypothesis, List.foldl_cons, List.foldl_append]
      exact congrArg List.tail hypothesisInside

/-- Nested tokens are rewritten to well nested commands. -/
theorem Nested.parses (fallback : IsName rules.fallback)
    (nested : Nested rules aliases tokens shapes)
    (areNames : ∀ itemName ∈ aliases, IsName itemName)
    (embeddable : ∀ token ∈ tokens, Report.Embeddable token.body) :
    Parses ((commandsOfTokens rules aliases tokens).map .ok) shapes := by
  induction nested with
  | empty => exact .empty
  | @value aliases _ _ nested body inductionHypothesis =>
      obtain ⟨embeddableBefore, embeddableValue⟩ := List.forall_mem_append.1 embeddable
      have isAccess := valueIsAccess areNames (embeddableValue _ (List.mem_singleton_self _))
      rw [commandsOfTokensAppend, nested.aliasesThrough, List.map_append]
      exact (inductionHypothesis areNames embeddableBefore).insert isAccess.kind
  | @loop aliases _ _ _ _ body nested nestedInside closingBody hypothesis hypothesisInside =>
      obtain ⟨embeddableBefore, embeddableLoop⟩ := List.forall_mem_append.1 embeddable
      obtain ⟨embeddableOpening, embeddableRest⟩ := List.forall_mem_cons.1 embeddableLoop
      obtain ⟨embeddableInside, -⟩ := List.forall_mem_append.1 embeddableRest
      have isName := deriveAliasIsName fallback body aliases
      have parsesInside := hypothesisInside (List.forall_mem_cons.2 ⟨isName, areNames⟩) embeddableInside
      have parsesLoop := (hypothesis areNames embeddableBefore).loop
        (openingKind isName embeddableOpening) parsesInside (closingKind isName) (.inr rfl)
      rw [commandsOfTokensAppend, nested.aliasesThrough, commandsOfTokens, Token.aliasesAfter,
        commandsOfTokensAppend, nestedInside.aliasesThrough]
      simpa [commandsOfTokens, Token.command, Token.body] using parsesLoop

theorem Unclosed.aliasesThrough (unclosed : Unclosed rules aliases tokens) :
    aliasesThrough rules [] tokens = aliases := by
  induction unclosed with
  | outside nested => exact nested.aliasesThrough
  | inside _ nested inductionHypothesis =>
      unfold Bracket.aliasesThrough at inductionHypothesis ⊢
      rw [List.foldl_append, inductionHypothesis]
      exact nested.aliasesThrough

theorem Unclosed.areNames (fallback : IsName rules.fallback)
    (unclosed : Unclosed rules aliases tokens) : ∀ itemName ∈ aliases, IsName itemName := by
  induction unclosed with
  | outside _ => exact nofun
  | @inside aliases _ _ _ body _ _ inductionHypothesis =>
      exact List.forall_mem_cons.2 ⟨deriveAliasIsName fallback body aliases, inductionHypothesis⟩

/-- Loops that are left open are rewritten to blocks that are left open. -/
theorem Unclosed.leavesOpen (fallback : IsName rules.fallback)
    (unclosed : Unclosed rules aliases tokens)
    (embeddable : ∀ token ∈ tokens, Report.Embeddable token.body) :
    LeavesOpen ((commandsOfTokens rules [] tokens).map .ok) (aliases.map .loop) := by
  induction unclosed with
  | outside nested => exact .outside (nested.parses fallback nofun embeddable)
  | @inside aliases _ _ _ body unclosed nested inductionHypothesis =>
      obtain ⟨embeddableBefore, embeddableLoop⟩ := List.forall_mem_append.1 embeddable
      obtain ⟨embeddableOpening, embeddableInside⟩ := List.forall_mem_cons.1 embeddableLoop
      have isName := deriveAliasIsName fallback body aliases
      have areNames := List.forall_mem_cons.2 ⟨isName, unclosed.areNames fallback⟩
      rw [commandsOfTokensAppend, unclosed.aliasesThrough, List.map_append]
      exact .inside (inductionHypothesis embeddableBefore) (openingKind isName embeddableOpening)
        (nested.parses fallback areNames embeddableInside)

end

/-- A tagged text without unmatched closing tokens is compiled to a report that is accepted if as many
tokens open a loop as close one. Then the shapes of its items are the nested tokens. Otherwise the
report is refused with the innermost loop that is left open. -/
theorem bracketLoopsCompile (content : String) (tagged : isTagged false content.toList = true)
    (matched : NoneUnmatched (tokensOf content)) :
    let tokens := tokensOf content
    let compiled := itemsOf (rewrite .standard content).content.toList
    ((∃ items, compiled = .ok items) ↔ tokens.countP Token.opens = tokens.countP Token.closes) ∧
      (∀ items, compiled = .ok items → Nested .standard [] tokens (shapesOf items)) ∧
      (tokens.countP Token.opens ≠ tokens.countP Token.closes →
        ∃ itemName outer, Unclosed .standard (itemName :: outer) tokens ∧
          compiled = .error (.problem (.unterminated (.loop itemName)))) := by
  intro tokens compiled
  obtain ⟨commands, embeddable⟩ := commandsOfRewritten standardFallbackIsName tagged
  obtain ⟨aliases, unclosed⟩ := matched.unclosed .standard
  have counted : tokens.countP Token.opens = aliases.length + tokens.countP Token.closes :=
    unclosed.count
  cases aliases with
  | nil =>
      have balanced : tokens.countP Token.opens = tokens.countP Token.closes := by
        simpa using counted
      cases unclosed with
      | outside nested =>
          have parses := nested.parses standardFallbackIsName nofun embeddable
          rw [← commands] at parses
          obtain ⟨items, derives, rfl⟩ := parses.derives _ rfl
          have accepted : compiled = .ok items := (Report.itemsOfIff _ items).2 derives
          refine ⟨⟨fun _ => balanced, fun _ => ⟨items, accepted⟩⟩, ?_, fun unequal => ?_⟩
          · intro other otherAccepted
            obtain rfl := Except.ok.inj (otherAccepted.symm.trans accepted)
            exact nested
          · exact absurd balanced unequal
  | cons itemName outer =>
      have unbalanced : tokens.countP Token.opens ≠ tokens.countP Token.closes := by
        rw [List.length_cons] at counted
        omega
      have leavesOpen := unclosed.leavesOpen standardFallbackIsName embeddable
      rw [← commands, List.map_cons] at leavesOpen
      have refused : compiled = .error (.problem (.unterminated (.loop itemName))) :=
        leavesOpen.unterminated
      refine ⟨⟨fun ⟨items, accepted⟩ => ?_, fun balanced => absurd balanced unbalanced⟩,
        fun items accepted => ?_, fun _ => ⟨itemName, outer, unclosed, refused⟩⟩
      · exact nomatch refused.symm.trans accepted
      · exact nomatch refused.symm.trans accepted

/-- A loop with a value in it and a value after it is compiled. -/
theorem itemLoopCompiles :
    isTagged false "<w:t>[#items][name][/items] [total]</w:t>".toList = true ∧
      NoneUnmatched (tokensOf "<w:t>[#items][name][/items] [total]</w:t>") ∧
      ∃ items, itemsOf
        (rewrite .standard "<w:t>[#items][name][/items] [total]</w:t>").content.toList =
          .ok items :=
  ⟨by decide +kernel, by decide +kernel,
    (bracketLoopsCompile "<w:t>[#items][name][/items] [total]</w:t>" (by decide +kernel)
      (by decide +kernel)).1.2 (by decide +kernel)⟩

end Letterpress.Bracket
