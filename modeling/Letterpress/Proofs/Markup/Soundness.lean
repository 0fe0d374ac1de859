import Letterpress.Proofs.Markup.Document
import Letterpress.Proofs.Markup.Heading

/-!
This file shows that a document that was read is sound: its headings can be written and read again, and
so can its texts, comments and instructions.
-/

namespace Letterpress.Markup

/-- A node is sound inside of declarations if it can be written and read there. -/
inductive Node.IsSound : Declarations → Node → Prop
  | element {outer : Declarations} {heading : Heading} {children : List Node}
      (isHeading : heading.IsSound outer)
      (areChildren : ∀ child ∈ children, IsSound (heading.inner outer) child) :
      IsSound outer (.element heading children)
  | text {outer : Declarations} {content : List Char} (legal : AllLegal content) :
      IsSound outer (.text content)
  | comment {outer : Declarations} {content : List Char} (ends : EndsBefore ['-', '-'] content)
      (legal : AllLegal content) (noReturn : '\r' ∉ content) : IsSound outer (.comment content)
  | instruction {outer : Declarations} {target content : List Char} (isPart : IsPart target)
      (notReserved : Event.isReserved target = false) (stops : Text.StopsAt isSpace content)
      (ends : EndsBefore ['?', '>'] content) (legal : AllLegal content)
      (noReturn : '\r' ∉ content) : IsSound outer (.instruction target content)

theorem Node.IsSound.agree {outer other : Declarations} {node : Node} (sound : node.IsSound outer)
    (agree : outer.Agree other) : node.IsSound other := by
  induction sound generalizing other with
  | element isHeading _ inductionHypothesis =>
      exact .element (isHeading.agree agree) fun child isChild =>
        inductionHypothesis child isChild (agree.append _)
  | text legal => exact .text legal
  | comment ends legal noReturn => exact .comment ends legal noReturn
  | instruction isPart notReserved stops ends legal noReturn =>
      exact .instruction isPart notReserved stops ends legal noReturn

/-! ### Events -/

/-- A tag is sound if it can be written, and other events if they become sound nodes. -/
inductive Event.IsSound : Event → Prop
  | opening {tag : Tag} (name : tag.name.IsWritten)
      (writable : ∀ found ∈ tag.attributes, found.IsWritable) : IsSound (.opening tag)
  | empty {tag : Tag} (name : tag.name.IsWritten)
      (writable : ∀ found ∈ tag.attributes, found.IsWritable) : IsSound (.empty tag)
  | closing (name : QualifiedName) : IsSound (.closing name)
  | data (raw : List Char) : IsSound (.data raw)
  | verbatim {content : List Char} (legal : AllLegal content) : IsSound (.verbatim content)
  | comment {content : List Char} (sound : ∀ outer, (Node.comment content).IsSound outer) :
      IsSound (.comment content)
  | instruction {target content : List Char}
      (sound : ∀ outer, (Node.instruction target content).IsSound outer) :
      IsSound (.instruction target content)

section

variable {event : Event} {source content : List Char}

theorem EndsBefore.afterFront {pattern front : List Char}
    (ends : EndsBefore pattern (front ++ content)) : EndsBefore pattern content := by
  intro isInfix
  refine ends (isInfix.trans ?_)
  rw [List.append_assoc]
  exact List.suffix_append _ _ |>.isInfix

theorem soundOfSource (isSource : event.IsSource source) (noReturn : '\r' ∉ source) :
    event.IsSound := by
  cases isSource with
  | opening isSource =>
      obtain ⟨_, -, name, attributes⟩ := isSource
      exact .opening name attributes.areWritable
  | empty isSource =>
      obtain ⟨_, -, name, attributes⟩ := isSource
      exact .empty name attributes.areWritable
  | closing => exact .closing _
  | comment ends legal =>
      exact .comment fun _ => .comment ends legal fun isInside => noReturn (by simp [isInside])
  | verbatim ends legal => exact .verbatim legal
  | instruction isPart notReserved allSpaces stops separated ends legal =>
      exact .instruction fun _ => .instruction isPart notReserved stops ends.afterFront
        (fun character isInside => legal character (List.mem_append_right _ isInside))
        fun isInside => noReturn (by simp [isInside])

/-- The events of a content are sound. -/
theorem soundEvents {events : List Event} (areEvents : Event.ofContent? content = some events)
    (noReturn : '\r' ∉ content) : ∀ event ∈ events, event.IsSound := by
  -- An event may take many characters, so the induction is on the length.
  generalize bounded : content.length = bound
  induction bound using Nat.strongRecOn generalizing content events with
  | _ bound inductionHypothesis =>
      cases content with
      | nil =>
          obtain rfl := Option.some.inj areEvents
          simp
      | cons first others =>
          cases found : Event.read? (first :: others) with
          | none =>
              rw [Event.ofContent?, List.length_cons, Event.readAll?, found] at areEvents
              · contradiction
              · simp
          | some result =>
              obtain ⟨event, rest⟩ := result
              have shorter := restShorter found
              rw [ofContentCons found] at areEvents
              obtain ⟨more, areMore, rfl⟩ := Option.map_eq_some_iff.1 areEvents
              obtain ⟨raw, rfl⟩ | ⟨source, same, isSource⟩ := sourceOfEvent found
              · obtain ⟨same, -⟩ := readDataIff.1 found
                rw [same] at noReturn
                refine List.forall_mem_cons.2 ⟨.data raw, ?_⟩
                exact inductionHypothesis rest.length (by omega) areMore
                  (fun isInside => noReturn (List.mem_append_right _ isInside)) rfl
              · rw [same] at noReturn
                refine List.forall_mem_cons.2 ⟨soundOfSource isSource fun isInside =>
                  noReturn (by simp [isInside]), ?_⟩
                exact inductionHypothesis rest.length (by omega) areMore
                  (fun isInside => noReturn (by simp [isInside])) rfl

theorem noReturnNormalized (text : List Char) : '\r' ∉ normalizeLines text := by
  induction text with
  | nil => exact List.not_mem_nil
  | cons character rest inductionHypothesis =>
      rw [normalizeLinesCons, List.mem_append, not_or]
      refine ⟨?_, inductionHypothesis⟩
      unfold normalizeLine
      split
      · split <;> simp
      case isFalse notReturn => simpa using Ne.symm notReturn

end

/-! ### Building -/

def Node.IsElement (node : Node) : Prop := ∃ heading children, node = .element heading children

/-- An open element is sound inside of the declarations around it. -/
structure Pending.IsSound (outer : Declarations) (pending : Pending) : Prop where
  heading : pending.heading.IsSound outer
  agree : pending.declarations.Agree (pending.heading.inner outer)
  declarations : pending.declarations.IsSound
  children : ∀ child ∈ pending.children, child.IsSound pending.declarations

def declarationsOf : List Pending → Declarations
  | innermost :: _ => innermost.declarations
  | [] => Declarations.standard

def PendingSound : List Pending → Prop
  | [] => True
  | innermost :: outer => innermost.IsSound (declarationsOf outer) ∧ PendingSound outer

structure Building.IsSound (building : Building) : Prop where
  pending : PendingSound building.pending
  root : ∀ root, building.root = some root → root.IsElement ∧ root.IsSound .standard

section

variable {building next : Building}

theorem addChildSound {outer : Declarations} {node : Node} {children : List Node}
    (nodeSound : node.IsSound outer) (childrenSound : ∀ child ∈ children, child.IsSound outer) :
    ∀ child ∈ addChild node children, child.IsSound outer := by
  unfold addChild
  split
  case h_1 second first rest =>
    obtain ⟨firstSound, restSound⟩ := List.forall_mem_cons.1 childrenSound
    cases nodeSound with
    | text legalSecond =>
        cases firstSound with
        | text legalFirst =>
            exact List.forall_mem_cons.2
              ⟨.text (List.forall_mem_append.2 ⟨legalFirst, legalSecond⟩), restSound⟩
  case h_2 => exact List.forall_mem_cons.2 ⟨nodeSound, childrenSound⟩

namespace Building.IsSound

theorem declarations (sound : building.IsSound) : (declarationsOf building.pending).IsSound := by
  obtain ⟨pending, root⟩ := building
  cases pending with
  | nil => exact Declarations.standardSound
  | cons innermost outer => exact sound.pending.1.declarations

theorem add {node : Node} (sound : building.IsSound)
    (nodeSound : node.IsSound (declarationsOf building.pending))
    (added : building.add? node = some next) : next.IsSound := by
  obtain ⟨pending, root⟩ := building
  cases pending with
  | cons innermost outer =>
      obtain rfl := Option.some.inj added
      obtain ⟨innermostSound, outerSound⟩ := sound.pending
      exact ⟨⟨{ innermostSound with
        children := addChildSound nodeSound innermostSound.children }, outerSound⟩, sound.root⟩
  | nil =>
      cases node with
      | element heading children =>
          cases root with
          | some _ => exact nomatch added
          | none =>
              obtain rfl := Option.some.inj added
              exact ⟨trivial, fun root isRoot => Option.some.inj isRoot ▸ ⟨⟨_, _, rfl⟩, nodeSound⟩⟩
      | text content =>
          obtain ⟨-, same⟩ := Option.ite_none_right_eq_some.1 added
          exact Option.some.inj same ▸ sound
      | comment content => exact Option.some.inj added ▸ sound
      | instruction target content => exact Option.some.inj added ▸ sound

theorem addOpened {tag : Tag} (sound : building.IsSound) (name : tag.name.IsWritten)
    (writable : ∀ found ∈ tag.attributes, found.IsWritable)
    (opened : building.open? tag = some next) : next.IsSound := by
  unfold Building.open? at opened
  split at opened
  case h_2 => exact nomatch opened
  case h_1 heading inner headed =>
    obtain ⟨-, same⟩ := Option.ite_none_left_eq_some.1 opened
    obtain rfl := Option.some.inj same
    have sameDeclarations : building.declarations = declarationsOf building.pending := by
      obtain ⟨pending, root⟩ := building
      cases pending <;> rfl
    rw [sameDeclarations] at headed
    obtain ⟨isHeading, agree, innerSound⟩ :=
      Heading.IsSound.ofTag name writable headed sound.declarations
    exact ⟨⟨⟨isHeading, agree, innerSound, by simp⟩, sound.pending⟩, sound.root⟩

theorem addClosed {name : QualifiedName} (sound : building.IsSound)
    (closed : building.close? name = some next) : next.IsSound := by
  obtain ⟨pending, root⟩ := building
  cases pending with
  | nil => exact nomatch closed
  | cons innermost outer =>
      obtain ⟨-, added⟩ := Option.ite_none_right_eq_some.1 closed
      obtain ⟨innermostSound, outerSound⟩ := sound.pending
      have outside : Building.IsSound ⟨outer, root⟩ := ⟨outerSound, sound.root⟩
      refine outside.add (.element innermostSound.heading fun child isChild => ?_) added
      exact (innermostSound.children child (List.mem_reverse.1 isChild)).agree innermostSound.agree

theorem addData {raw : List Char} (sound : building.IsSound)
    (added : building.addData? raw = some next) : next.IsSound := by
  unfold Building.addData? at added
  split at added
  case isTrue outside =>
    obtain ⟨pending, root⟩ := building
    obtain rfl := List.isEmpty_iff.1 outside
    obtain ⟨-, same⟩ := Option.ite_none_right_eq_some.1 added
    exact Option.some.inj same ▸ sound
  case isFalse =>
    obtain ⟨content, decoded, addedText⟩ := Option.bind_eq_some_iff.1 added
    obtain ⟨-, legal, -⟩ := decodeDataIff.1 (Option.isSome_of_eq_some decoded)
    refine sound.add (.text ?_) addedText
    unfold Event.decodeData? at decoded
    split at decoded
    case isTrue => exact nomatch decoded
    case isFalse => exact (decodeReferencesIff.1 decoded).legal legal

theorem step {event : Event} (sound : building.IsSound) (eventSound : event.IsSound)
    (stepped : building.step? event = some next) : next.IsSound := by
  cases eventSound with
  | opening name writable => exact sound.addOpened name writable stepped
  | empty name writable =>
      obtain ⟨opened, isOpened, closed⟩ := Option.bind_eq_some_iff.1 stepped
      exact (sound.addOpened name writable isOpened).addClosed closed
  | closing name => exact sound.addClosed stepped
  | data raw => exact sound.addData stepped
  | verbatim legal =>
      obtain ⟨-, added⟩ := Option.ite_none_left_eq_some.1 stepped
      exact sound.add (.text legal) added
  | comment nodeSound => exact sound.add (nodeSound _) stepped
  | instruction nodeSound => exact sound.add (nodeSound _) stepped

theorem steps {events : List Event} (sound : building.IsSound)
    (eventsSound : ∀ event ∈ events, event.IsSound) (stepped : building.steps? events = some next) :
    next.IsSound := by
  induction events generalizing building with
  | nil => exact Option.some.inj stepped ▸ sound
  | cons event rest inductionHypothesis =>
      obtain ⟨eventSound, restSound⟩ := List.forall_mem_cons.1 eventsSound
      rw [Building.steps?] at stepped
      split at stepped
      case h_2 => exact nomatch stepped
      case h_1 middle steppedOnce =>
        exact inductionHypothesis (sound.step eventSound steppedOnce) restSound stepped

end Building.IsSound

end

/-- The root of a document is an element, and it is sound. -/
theorem documentSound {text : String} {root : Node} (read : readDocument? text = some root) :
    root.IsElement ∧ root.IsSound .standard := by
  obtain ⟨events, areEvents, built⟩ := readDocumentIff.1 read
  obtain ⟨body, -, areEvents⟩ := Option.bind_eq_some_iff.1 areEvents
  have eventsSound := soundEvents areEvents (noReturnNormalized body)
  unfold Node.ofEvents? at built
  split at built
  case h_2 => exact nomatch built
  case h_1 complete stepped =>
    have startSound : Building.start.IsSound := ⟨trivial, nofun⟩
    exact Option.some.inj built ▸ (startSound.steps eventsSound stepped).root complete rfl

end Letterpress.Markup
