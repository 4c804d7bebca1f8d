import Packrat.Proofs.Combinator.Adequacy
import Packrat.Proofs.Combinator.Bounds
import Packrat.Proofs.Combinator.Kind

/-!
# Nodes that behave the same

What a node does shows in what it matches and in which nodes it calls.  A plan calls only
the children it was made for.  A node of the caller's may be shared with the library's own
if it does what the library's node of its name does, which is what setting its
`cacheable` flag promises; `Blueprint.Honest` is that promise.
-/

namespace Packrat

variable {κ ω ρ : Type}

/-- The step calls no other nodes than these, whatever requests are answered with. -/
inductive Step.Within (allowed : NodeId → Prop) : Step ω ρ → Prop where
  | done (result : Match (Value ω)) : Within allowed (.done result)
  | call {node : NodeId} (position : Nat) (memory : Memory ω) :
      allowed node → Within allowed (.call node position memory)
  | ask (request : ρ) {next : Answer ω → Step ω ρ} :
      (∀ answer, Within allowed (next answer)) → Within allowed (.ask request next)

theorem Act.within_toStep {α : Type} {allowed : NodeId → Prop} (act : Act ω ρ α)
    {next : α → Step ω ρ} (within : ∀ value, (next value).Within allowed) :
    (act.toStep next).Within allowed := by
  induction act with
  | result value => exact within value
  | ask request wait induction => exact .ask request induction

namespace Matcher

/-- No step of the matcher calls any other nodes than these. -/
structure Within (allowed : NodeId → Prop) (matcher : Matcher ω ρ) : Prop where
  start : ∀ input position, (matcher.start input position).Within allowed
  resume : ∀ input position memory answer,
    (matcher.resume input position memory answer).Within allowed

theorem within_ofAnswer {allowed : NodeId → Prop} {node : NodeId}
    {next : Nat → Match (Value ω) → Step ω ρ} (isAllowed : allowed node)
    (within : ∀ position answer, (next position answer).Within allowed) :
    (ofAnswer node next).Within allowed :=
  ⟨fun _ _ => .call _ _ isAllowed, fun _ position _ answer => within position answer⟩

theorem within_tryFrom {allowed : NodeId → Prop} {alternatives : List NodeId}
    (isAllowed : ∀ node ∈ alternatives, allowed node) (position : Nat) (memory : Memory ω) :
    (tryFrom alternatives position memory : Step ω ρ).Within allowed := by
  unfold tryFrom
  split
  next there => exact .call _ _ (isAllowed _ (List.mem_of_getElem? there))
  next => exact .done _

theorem within_nextPart {allowed : NodeId → Prop} {parts : List NodeId}
    (isAllowed : ∀ node ∈ parts, allowed node) (memory : Memory ω) :
    (nextPart parts memory : Step ω ρ).Within allowed := by
  unfold nextPart
  split
  next there => exact .call _ _ (isAllowed _ (List.mem_of_getElem? there))
  next => exact .done _

theorem within_nextRound {allowed : NodeId → Prop} (bounds : Bounds) {child : Child}
    (isAllowed : allowed child.id) (memory : Memory ω) :
    (nextRound bounds child memory : Step ω ρ).Within allowed := by
  unfold nextRound
  split
  next => exact .done _
  next => exact .call _ _ isAllowed

theorem within_nextSeparator {allowed : NodeId → Prop} (bounds : Bounds) (item : Child)
    {separator : Child} (isAllowed : allowed separator.id) (memory : Memory ω) :
    (nextSeparator bounds item separator memory : Step ω ρ).Within allowed := by
  simp only [nextSeparator]
  split
  next => exact .done _
  next => exact .call _ _ isAllowed

theorem within_separated {allowed : NodeId → Prop} (bounds : Bounds) {item separator : Child}
    (itemAllowed : allowed item.id) (separatorAllowed : allowed separator.id) :
    (separated bounds item separator : Matcher ω ρ).Within allowed := by
  constructor
  · intro input position
    simp only [separated]
    split
    next => exact .done _
    next => exact .call _ _ itemAllowed
  · intro input position memory answer
    simp only [separated]
    split
    next =>
      cases answer with
      | success between value => exact .call _ _ itemAllowed
      | failure message failed => exact .done _
    next =>
      cases answer with
      | failure message failed => cases memory.aside <;> exact .done _
      | success next value =>
          cases memory.aside with
          | none => exact within_nextSeparator bounds item separatorAllowed _
          | some between =>
              simp only
              split
              next => exact .done _
              next => exact within_nextSeparator bounds item separatorAllowed _

end Matcher

/-- A plan calls only the children that it is given. -/
theorem Plan.within_matcher {allowed : NodeId → Prop} {child : κ → Child}
    (isAllowed : ∀ each, allowed (child each).id) (plan : Plan κ ω ρ) :
    (plan.map child).matcher.Within allowed := by
  have members : ∀ list : List κ, ∀ node ∈ (list.map child).map Child.id, allowed node := by
    intro list node member
    rw [List.map_map] at member
    obtain ⟨each, _, rfl⟩ := List.mem_map.mp member
    exact isAllowed each
  cases plan with
  | leaf attempt => exact ⟨fun _ _ => .done _, fun _ _ _ _ => .done _⟩
  | choice alternatives =>
      refine ⟨fun _ _ => Matcher.within_tryFrom (members _) _ _, fun _ _ memory answer => ?_⟩
      simp only [Plan.map, Plan.matcher, Matcher.choice]
      split
      next => exact .done _
      next => exact Matcher.within_tryFrom (members _) _ _
  | optional body wrap default =>
      refine Matcher.within_ofAnswer (isAllowed _) fun _ answer => ?_
      cases answer <;> exact .done _
  | ahead body => exact Matcher.within_ofAnswer (isAllowed _) fun _ _ => .done _
  | notAhead body =>
      refine Matcher.within_ofAnswer (isAllowed _) fun _ answer => ?_
      split <;> exact .done _
  | repeated bounds body =>
      refine ⟨fun _ _ => Matcher.within_nextRound _ (isAllowed _) _, fun _ _ memory answer => ?_⟩
      simp only [Plan.map, Plan.matcher, Matcher.repeated]
      cases answer with
      | failure message failed => exact .done _
      | success next value =>
          simp only
          split
          next => exact .done _
          next => exact Matcher.within_nextRound _ (isAllowed _) _
  | separated bounds item separator =>
      exact Matcher.within_separated bounds (isAllowed item) (isAllowed separator)
  | pair first second combine =>
      refine ⟨fun _ _ => .call _ _ (isAllowed _), fun _ _ memory answer => ?_⟩
      simp only [Plan.map, Plan.matcher, Matcher.pair]
      cases memory.values <;> cases answer
      · exact .call _ _ (isAllowed _)
      · exact .done _
      · refine Act.within_toStep _ fun verdict => ?_
        cases verdict <;> exact .done _
      · exact .done _
  | sequence parts =>
      refine ⟨fun _ _ => Matcher.within_nextPart (members _) _, fun _ _ memory answer => ?_⟩
      cases answer with
      | success span value => exact Matcher.within_nextPart (members _) _
      | failure message span => exact .done _
  | transform body message f =>
      refine Matcher.within_ofAnswer (isAllowed _) fun _ answer => ?_
      cases answer with
      | success span value =>
          refine Act.within_toStep _ fun verdict => ?_
          cases verdict <;> exact .done _
      | failure message span => exact .done _
  | onFail body message =>
      refine Matcher.within_ofAnswer (isAllowed _) fun _ answer => ?_
      cases answer <;> exact .done _

/-! ## Behaving the same -/

namespace Matcher

/-- From a step on, some answers make the matcher call a node. -/
inductive Calls (matcher : Matcher ω ρ) (input : Input ω) (position : Nat) (node : NodeId) :
    Step ω ρ → Prop where
  | now (place : Nat) (memory : Memory ω) :
      Calls matcher input position node (.call node place memory)
  | later {called : NodeId} {place : Nat} {memory : Memory ω} (answer : Match (Value ω)) :
      Calls matcher input position node (matcher.resume input position memory answer) →
      Calls matcher input position node (.call called place memory)
  | asked {request : ρ} {next : Answer ω → Step ω ρ} (answer : Answer ω) :
      Calls matcher input position node (next answer) →
      Calls matcher input position node (.ask request next)

theorem Within.calls {allowed : NodeId → Prop} {matcher : Matcher ω ρ}
    (within : matcher.Within allowed) {input : Input ω} {position : Nat} {node : NodeId}
    {step : Step ω ρ} (isWithin : step.Within allowed)
    (calls : matcher.Calls input position node step) : allowed node := by
  induction calls with
  | now place memory =>
      cases isWithin with
      | call _ _ isAllowed => exact isAllowed
  | later answer _ induction => exact induction (within.resume input position _ answer)
  | asked answer _ induction =>
      cases isWithin with
      | ask _ each => exact induction (each answer)

/-- Two matchers that match the same and call the same nodes. -/
structure Alike (first second : Matcher ω ρ) : Prop where
  yields : ∀ input reply position answers result,
    first.Yields input reply position answers ((first.start input position).move reply)
        result ↔
      second.Yields input reply position answers ((second.start input position).move reply)
        result
  calls : ∀ input position node,
    first.Calls input position node (first.start input position) ↔
      second.Calls input position node (second.start input position)

theorem Alike.refl (matcher : Matcher ω ρ) : matcher.Alike matcher :=
  ⟨fun _ _ _ _ _ => Iff.rfl, fun _ _ _ => Iff.rfl⟩

end Matcher

namespace Blueprint

/-- How a leaf of the kind is described. -/
def leafText (b : Blueprint ω ρ) : String :=
  match b.describe with
  | .label label => label
  | _ => b.name

/-- In a grammar for a kind of input, a kind of node that may be shared does what every node
of the library does that may be shared there and has the same name, as many children and,
for a leaf, the same description. -/
def Honest (input : InputKind) (b : Blueprint ω ρ) : Prop :=
  b.cacheable = true → ∀ kind : Kind ω ρ, kind.Native input → kind.cacheable = true →
    b.name = kind.name →
    ∀ same : b.arity = kind.arity, (kind.arity = 0 → b.leafText = kind.blueprint.leafText) →
    ∀ children : Fin kind.arity → Child,
      (b.generate fun index => children (index.cast same)).Alike
        (kind.blueprint.generate children)

/-- In a grammar for a kind of input, a kind of node that may be shared and goes by what one
of the library's that may be shared there goes by matches as that one does, to the letter. -/
def Genuine (input : InputKind) (b : Blueprint ω ρ) : Prop :=
  b.cacheable = true → ∀ kind : Kind ω ρ, kind.Native input → kind.cacheable = true →
    b.name = kind.name →
    ∀ same : b.arity = kind.arity, (kind.arity = 0 → b.leafText = kind.blueprint.leafText) →
    ∀ children : Fin kind.arity → Child,
      (b.generate fun index => children (index.cast same)) = kind.blueprint.generate children

theorem Genuine.honest {input : InputKind} {b : Blueprint ω ρ} (genuine : b.Genuine input) :
    b.Honest input := by
  intro cacheable kind native mayShare name same text children
  rw [genuine cacheable kind native mayShare name same text children]
  exact .refl _

end Blueprint

namespace Kind

/-- The first letters of a kind's name, which tell the kinds that may be shared apart. -/
def initials : Kind ω ρ → List Char
  | any => ['a', 'n', 'y']
  | endOfInput => ['e', 'n', 'd']
  | identifier => ['i', 'd', 'e']
  | literal _ (.text _) => ['l', 'i', 't']
  | literal _ (.pattern _) => ['p', 'a', 't']
  | choice _ => ['a', 'l', 't']
  | optional => ['o', 'p', 't']
  | ahead => ['c', 'h', 'e']
  | notAhead => ['n', 'o', 't']
  | repeated _ => ['r', 'e', 'p']
  | separated _ => ['s', 'e', 'p']
  | keepSecond => ['t', 'h', 'e']
  | keepFirst => ['s', 'k', 'i']
  | consume => ['c', 'o', 'n']
  | sequence _ => ['s', 'e', 'q']
  | discard => ['d', 'i', 's']
  | leaf .. | optionalOr _ | tryChain _ | transform .. | onFail _ => []

theorem take_name {kind : Kind ω ρ} (cacheable : kind.cacheable = true) :
    kind.name.toList.take 3 = kind.initials := by
  cases kind with
  | literal _ data => cases data <;> simp [name, initials]
  | leaf => cases cacheable
  | optionalOr => cases cacheable
  | tryChain => cases cacheable
  | transform => cases cacheable
  | onFail => cases cacheable
  | _ => simp [name, initials]

theorem literal_eq_of_name {input otherInput : InputKind} {data other : Literal}
    (name : (literal input data : Kind ω ρ).name = (literal otherInput other : Kind ω ρ).name)
    (text : data.display = other.display) : data = other := by
  cases data with
  | text content =>
      cases other with
      | text otherContent => rw [quote_inj text]
      | pattern => simp [Kind.name] at name
  | pattern expression =>
      cases other with
      | text => simp [Kind.name] at name
      | pattern otherExpression =>
          have lists := congrArg String.toList text
          simp only [Literal.display, String.toList_append, List.append_assoc] at lists
          have inner := List.append_cancel_right (List.append_cancel_left lists)
          rw [String.toList_inj.mp inner]

/-- The library's nodes of one name that may be shared in a grammar are of one kind. -/
theorem eq_of_name {input : InputKind} {first second : Kind ω ρ} (native : first.Native input)
    (otherNative : second.Native input) (cacheable : first.cacheable = true)
    (otherCacheable : second.cacheable = true) (name : first.name = second.name)
    (arity : first.arity = second.arity)
    (text : second.arity = 0 → first.blueprint.leafText = second.blueprint.leafText) :
    first = second := by
  have initials : first.initials = second.initials := by
    rw [← take_name cacheable, ← take_name otherCacheable, name]
  cases first <;> cases second <;>
    first
    | exact absurd cacheable Bool.false_ne_true
    | exact absurd otherCacheable Bool.false_ne_true
    | rfl
    | (simp [Kind.initials] at initials; done)
    | (cases ‹Literal› <;> simp [Kind.initials] at initials; done)
    | skip
  case literal.literal data otherInput other =>
    rw [show otherInput = _ from otherNative, literal_eq_of_name name (text rfl)]
    rw [show _ = input from native]
  case choice.choice count other => rw [show count = other from arity]
  case sequence.sequence count other => rw [show count = other from arity]
  case repeated.repeated bounds other =>
    rw [Bounds.suffix_inj ((String.append_right_inj _).mp name)]
  case separated.separated bounds other =>
    rw [Bounds.suffix_inj ((String.append_right_inj _).mp name)]

theorem blueprint_genuine (kind : Kind ω ρ) {input : InputKind} (native : kind.Native input) :
    kind.blueprint.Genuine input := by
  intro cacheable other otherNative otherCacheable name arity text children
  cases eq_of_name native otherNative cacheable otherCacheable name arity text
  rfl

theorem blueprint_honest (kind : Kind ω ρ) {input : InputKind} (native : kind.Native input) :
    kind.blueprint.Honest input :=
  (kind.blueprint_genuine native).honest

end Kind

end Packrat
