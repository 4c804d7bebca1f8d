import Packrat.Proofs.Reference
import Mathlib.Order.Filter.AtTopBot.Basic

/-!
# What references mean

The meaning of a parser as it is written: each node is read as its plan says, with its
children meaning what they mean, and a rule or a parser is opened where it is come to.
There are no slots, nothing is shared, and no matcher is run.  `Means` is the least
relation of this kind; `MeansWithin` cuts it off at a depth of nested nodes.
-/

namespace Packrat

variable {ω ρ : Type}

/-! ## Answers that come in time -/

section

variable {κ ι : Type} {late : Filter ι} {answers : κ → Nat → Match (Value ω) → Prop}
  {others : ι → κ → Nat → Match (Value ω) → Prop}
  (related : ∀ child position answer, answers child position answer →
    ∀ᶠ depth in late, others depth child position answer)

include related

theorem Chooses.eventually {position : Nat} {best : Option (Match (Value ω))}
    {alternatives : List κ} {result : Match (Value ω)}
    (chooses : Chooses answers position best alternatives result) :
    ∀ᶠ depth in late, Chooses (others depth) position best alternatives result := by
  induction chooses with
  | exhausted best => exact .of_forall fun _ => .exhausted best
  | taken answered succeeded =>
      exact (related _ _ _ answered).mono fun _ there => .taken there succeeded
  | passed answered failed _ induction =>
      filter_upwards [related _ _ _ answered, induction] with depth there rest
      exact .passed there failed rest

theorem Follows.eventually {span : Span} {values : List (Value ω)} {parts : List κ}
    {result : Match (Value ω)} (follows : Follows answers span values parts result) :
    ∀ᶠ depth in late, Follows (others depth) span values parts result := by
  induction follows with
  | finished span values => exact .of_forall fun _ => .finished span values
  | failed answered => exact (related _ _ _ answered).mono fun _ => .failed
  | next answered _ induction =>
      filter_upwards [related _ _ _ answered, induction] with depth there rest
      exact .next there rest

theorem Repeats.eventually {bounds : Bounds} {description : String} {child : κ} {count : Nat}
    {values : List (Value ω)} {span : Span} {result : Match (Value ω)}
    (repeats : Repeats answers bounds description child count values span result) :
    ∀ᶠ depth in late,
      Repeats (others depth) bounds description child count values span result := by
  induction repeats with
  | full isFull => exact .of_forall fun _ => .full isFull
  | failed room answered => exact (related _ _ _ answered).mono fun _ => .failed room
  | empty room answered isEmpty =>
      exact (related _ _ _ answered).mono fun _ there => .empty room there isEmpty
  | again room answered isFull _ induction =>
      filter_upwards [related _ _ _ answered, induction] with depth there rest
      exact .again room there isFull rest

theorem Separates.eventually {bounds : Bounds} {description : String} {item separator : κ}
    {count : Nat} {values : List (Value ω)} {span : Span} {result : Match (Value ω)}
    (separates : Separates answers bounds description item separator count values span result) :
    ∀ᶠ depth in late,
      Separates (others depth) bounds description item separator count values span result := by
  induction separates with
  | full isFull => exact .of_forall fun _ => .full isFull
  | noSeparator room answered => exact (related _ _ _ answered).mono fun _ => .noSeparator room
  | noItem room between answered =>
      filter_upwards [related _ _ _ between, related _ _ _ answered] with depth there next
      exact .noItem room there next
  | empty room between answered isEmpty =>
      filter_upwards [related _ _ _ between, related _ _ _ answered] with depth there next
      exact .empty room there next isEmpty
  | again room between answered isFull _ induction =>
      filter_upwards [related _ _ _ between, related _ _ _ answered, induction]
        with depth there next rest
      exact .again room there next isFull rest

/-- What a plan gives uses finitely many answers of its children. -/
theorem Plan.Gives.eventually {plan : Plan κ ω ρ} {input : Input ω} {reply : ρ → Answer ω}
    {describe : κ → String} {position : Nat} {result : Match (Value ω)}
    (gives : plan.Gives input reply describe answers position result) :
    ∀ᶠ depth in late, plan.Gives input reply describe (others depth) position result := by
  cases gives with
  | leaf attempt => exact .of_forall fun _ => .leaf attempt
  | choice chooses => exact (chooses.eventually related).mono fun _ => .choice
  | present answered => exact (related _ _ _ answered).mono fun _ => .present
  | absent answered => exact (related _ _ _ answered).mono fun _ => .absent
  | ahead answered => exact (related _ _ _ answered).mono fun _ => .ahead
  | unexpected answered succeeded =>
      exact (related _ _ _ answered).mono fun _ there => .unexpected there succeeded
  | notAhead answered failed =>
      exact (related _ _ _ answered).mono fun _ there => .notAhead there failed
  | repeated repeats => exact (repeats.eventually related).mono fun _ => .repeated
  | noItems isFull => exact .of_forall fun _ => .noItems isFull
  | noFirstItem room answered =>
      exact (related _ _ _ answered).mono fun _ => .noFirstItem room
  | separated room answered separates =>
      filter_upwards [related _ _ _ answered, separates.eventually related] with depth there rest
      exact .separated room there rest
  | noFirst answered => exact (related _ _ _ answered).mono fun _ => .noFirst
  | noSecond answered failed =>
      filter_upwards [related _ _ _ answered, related _ _ _ failed] with depth there next
      exact .noSecond there next
  | pair answered otherAnswered =>
      filter_upwards [related _ _ _ answered, related _ _ _ otherAnswered] with depth there next
      exact .pair there next
  | sequence follows => exact (follows.eventually related).mono fun _ => .sequence
  | transform answered => exact (related _ _ _ answered).mono fun _ => .transform
  | nothing answered => exact (related _ _ _ answered).mono fun _ => .nothing
  | matched answered => exact (related _ _ _ answered).mono fun _ => .matched
  | onFail answered => exact (related _ _ _ answered).mono fun _ => .onFail

end

/-- A plan gives what it gave when its children have more answers. -/
theorem Plan.Gives.mono {κ : Type} {plan : Plan κ ω ρ} {input : Input ω} {reply : ρ → Answer ω}
    {describe : κ → String} {answers others : κ → Nat → Match (Value ω) → Prop}
    {position : Nat} {result : Match (Value ω)}
    (gives : plan.Gives input reply describe answers position result)
    (more : ∀ child place answer, answers child place answer → others child place answer) :
    plan.Gives input reply describe others position result := by
  have related : ∀ child place answer, answers child place answer →
      ∀ᶠ _ in (pure () : Filter Unit), others child place answer := by
    intro child place answer answered
    exact .of_forall fun _ => more child place answer answered
  exact Filter.eventually_pure.mp (gives.eventually related)

namespace Reference

/-- What a reference means in grammars for some kind of inputs, with nodes nested less than
`depth` deep. -/
def MeansWithin (inputs : InputKind) (rules : Rules ω ρ) (describe : Reference ω ρ → String)
    (input : Input ω) (reply : ρ → Answer ω) : Nat → Reference ω ρ → Nat → Match (Value ω) → Prop
  | 0, _, _, _ => False
  | depth + 1, reference, position, result =>
    ∃ (kind : Kind ω ρ) (children : Fin kind.arity → Reference ω ρ),
      Reads inputs rules reference kind children ∧
      kind.plan.Gives input reply (fun index => describe (children index))
        (fun index => MeansWithin inputs rules describe input reply depth (children index))
        position result

/-- What a reference means at a position in grammars for some kind of inputs, when `reply`
says what the functions of the caller give and `describe` how references are described in
messages. -/
def Means (inputs : InputKind) (rules : Rules ω ρ) (describe : Reference ω ρ → String)
    (input : Input ω) (reply : ρ → Answer ω) (reference : Reference ω ρ) (position : Nat)
    (result : Match (Value ω)) : Prop :=
  ∃ depth, MeansWithin inputs rules describe input reply depth reference position result

section

variable {inputs : InputKind} {rules : Rules ω ρ} {describe : Reference ω ρ → String}
  {input : Input ω} {reply : ρ → Answer ω}

theorem MeansWithin.succ {depth : Nat} {reference : Reference ω ρ} {position : Nat}
    {result : Match (Value ω)}
    (means : MeansWithin inputs rules describe input reply depth reference position result) :
    MeansWithin inputs rules describe input reply (depth + 1) reference position result := by
  induction depth generalizing reference position result with
  | zero => cases means
  | succ depth induction =>
      obtain ⟨kind, children, reads, gives⟩ := means
      exact ⟨kind, children, reads, gives.mono fun _ _ _ => induction⟩

theorem MeansWithin.mono {depth more : Nat} (enough : depth ≤ more)
    {reference : Reference ω ρ} {position : Nat} {result : Match (Value ω)}
    (means : MeansWithin inputs rules describe input reply depth reference position result) :
    MeansWithin inputs rules describe input reply more reference position result := by
  induction enough with
  | refl => exact means
  | step _ induction => exact induction.succ

/-- A reference means what the node that it is read as makes of what its children mean. -/
theorem means_iff {reference : Reference ω ρ} {position : Nat} {result : Match (Value ω)} :
    reference.Means inputs rules describe input reply position result ↔
      ∃ (kind : Kind ω ρ) (children : Fin kind.arity → Reference ω ρ),
        Reads inputs rules reference kind children ∧
        kind.plan.Gives input reply (fun index => describe (children index))
          (fun index => (children index).Means inputs rules describe input reply) position
          result := by
  constructor
  · intro means
    obtain ⟨depth, within⟩ := means
    cases depth with
    | zero => cases within
    | succ depth =>
        obtain ⟨kind, children, reads, gives⟩ := within
        exact ⟨kind, children, reads, gives.mono fun _ _ _ deeper => ⟨depth, deeper⟩⟩
  · intro means
    obtain ⟨kind, children, reads, gives⟩ := means
    have eventually : ∀ᶠ depth in Filter.atTop,
        kind.plan.Gives input reply (fun index => describe (children index))
          (fun index => MeansWithin inputs rules describe input reply depth (children index))
          position result := by
      apply gives.eventually
      intro index place answer deeper
      obtain ⟨depth, within⟩ := deeper
      filter_upwards [Filter.eventually_ge_atTop depth] with more enough
      exact within.mono enough
    obtain ⟨depth, within⟩ := eventually.exists
    exact ⟨depth + 1, kind, children, reads, within⟩

end

namespace Own

variable {inputs : InputKind} {rules : Rules ω ρ} {named : String → Prop}
  {held : Nat → NodeId → Prop} {reference body : Reference ω ρ}

theorem of_node {blueprint : Blueprint ω ρ} {children : Fin blueprint.arity → Reference ω ρ}
    (own : (Reference.node blueprint children).Own named held) :
    (∃ kind : Kind ω ρ, blueprint = kind.blueprint ∧ ∀ inputs, kind.Native inputs) ∧
      ∀ index, (children index).Own named held := by
  cases own with
  | node kind native each => exact ⟨⟨kind, rfl, native⟩, each⟩

theorem of_opens (closed : ∀ name, named name → (rules name).Own named held)
    (own : reference.Own named held) (opens : Opens rules reference body) :
    body.Own named held := by
  cases opens with
  | rule name =>
      cases own with
      | rule isNamed => exact closed name isNamed
  | delayed label =>
      cases own with
      | delayed _ inner => exact inner
  | parser identity =>
      cases own with
      | parser _ inner => exact inner

/-- The children of the library's own nodes are the library's own. -/
theorem of_reads (closed : ∀ name, named name → (rules name).Own named held)
    (own : reference.Own named held) {kind : Kind ω ρ}
    {children : Fin kind.arity → Reference ω ρ}
    (reads : Reads inputs rules reference kind children) (index : Fin kind.arity) :
    (children index).Own named held := by
  induction reads with
  | node kind children _ => exact own.of_node.2 index
  | literal data => exact index.elim0
  | sequence count parts =>
      cases own with
      | sequence each => exact each index
  | opened opens _ induction => exact induction (own.of_opens closed opens) index

/-- What is resolved to one of the library's own nodes is read as one. -/
theorem exists_reads {input : InputKind} {blueprint : Blueprint ω ρ}
    {children : Fin blueprint.arity → Reference ω ρ} (own : reference.Own named held)
    (builds : Builds input reference blueprint children) :
    ∃ (kind : Kind ω ρ) (parts : Fin kind.arity → Reference ω ρ),
      Reads inputs rules reference kind parts := by
  cases builds with
  | node blueprint children =>
      obtain ⟨⟨kind, rfl, native⟩, _⟩ := own.of_node
      exact ⟨kind, children, .node kind children (native inputs)⟩
  | literal => exact ⟨_, _, .literal _⟩
  | sequence count parts => exact ⟨_, _, .sequence count parts⟩

end Own

end Reference

end Packrat
