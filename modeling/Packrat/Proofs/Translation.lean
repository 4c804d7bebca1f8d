import Mathlib
import Packrat.Proofs.Engine
import Packrat.Proofs.Scheduler.Translation
import Packrat.Proofs.Stability
import Packrat.Proofs.Text.Suffix
import Packrat.Proofs.Transparency

/-!
# Matching is the same anywhere

To match a parser from some position on is to match it on the rest of the text: the same
match, further on, after as many tasks.  This is so for the library's own parsers, as long
as the functions of the caller do not look at where something was matched.
-/

namespace Packrat

variable {ω ρ τ ι : Type}

/-- A kind of node that the library makes, with no function of the caller's that looks at
spans. -/
def Kind.SpanBlind [BEq ω] [Printable ω] (kind : Kind ω ρ) : Prop :=
  kind.Stock ∧ kind.plan.Blind

namespace Grammar

variable [BEq ω] [Printable ω]

/-- Parsers and rules that are made of the library's kinds of nodes, with no function that
looks at spans. -/
def BlindOnly (rules : Rules ω ρ) (reference : Reference ω ρ) : Prop :=
  ∃ named : String → Prop,
    (∀ name, named name → (rules name).MadeOf Kind.SpanBlind named fun _ _ => True) ∧
    reference.MadeOf Kind.SpanBlind named fun _ _ => True

theorem Grown.blind {g : Grammar ω ρ} (grown : Grown BlindOnly g) :
    g.EachNode fun node => ∃ kind children, kind.SpanBlind ∧ node.IsOf kind children := by
  induction grown with
  | empty number kind => exact .empty number kind
  | resolve place admitted earlier induction =>
      obtain ⟨named, closed, made⟩ := admitted
      exact induction.resolve earlier.tidy.1 closed made
        (fun kind blind g given => ⟨kind, _, blind, isOf_assembled kind g given⟩) place

/-- All matchers of such a grammar do on the rest of a text what they do further on in the
whole. -/
theorem Grown.travels {g : Grammar ω ρ} (grown : Grown BlindOnly g) {t : Text} {k : Nat}
    (inside : k ≤ t.length) (spot : Spot) :
    (g.matcherAt spot).Travels k (.text (t.drop k)) (.text t) := by
  cases isNode : g.node? spot.node with
  | none =>
      rw [matcherAt, matcher?, isNode]
      exact ⟨fun _ => rfl, fun _ _ _ => rfl⟩
  | some node =>
      obtain ⟨kind, children, ⟨stock, blind⟩, isOf⟩ := grown.blind _ _ (slot?_of_node? isNode)
      rw [matcherAt, matcher?, isNode]
      show node.matcher.Travels k _ _
      rw [isOf.matcher]
      exact Plan.travels_matcher children blind (stock.travels inside)

end Grammar

namespace Engine

/-- A parser that has been resolved is executed again with the same outcome. -/
theorem Steady.execute_again {rules : Rules ω ρ} {engine later : Engine ω ρ} {parser : Parser ω ρ}
    {root : NodeId} (steady : engine.Steady)
    (resolved : engine.resolve rules parser = (.ok root, later)) (host : Host ω ρ τ) (fuel : Nat)
    (input : Input ω) (options : Options) (world : τ) :
    later.execute rules host fuel parser input options world =
      engine.execute rules host fuel parser input options world := by
  have knows := steady.tidy.knows_of_resolve (congrArg Prod.fst resolved)
  have again : (engine.resolve rules parser).2.resolve rules parser =
      (.ok root, (engine.resolve rules parser).2) := resolveAt_of_knows knows rules
  rw [resolved] at again
  simp only [execute, resolved, again]

end Engine

open Grammar in
/-- A parser of the library's own matches from a position of a text on what it matches on
the rest of the text from there: a success with the same value or a failure with the same
message, that many positions further on, after the same number of tasks.  This holds of
left recursion, with results kept or not, with any limit of tasks, and whether the second
call is made first, or on the engine that the first has left. -/
theorem matching_is_translation_invariant [BEq ω] [Printable ω] {rules : Rules ω ρ}
    {engine : Engine ω ρ} {parser : Parser ω ρ} {t : Text} {k : Nat} {host : Host ω ρ τ}
    {guest : Host ω ρ ι} {reply : ρ → Answer ω} (grown : Grown BlindOnly engine.grammar)
    (blind : BlindOnly rules parser.body) (inside : k ≤ t.length) (answers : host.Answers reply)
    (guestAnswers : guest.Answers reply) (memoize : Bool) (limit : Option Nat) (fuel : Nat)
    (world : τ) (elsewhere : ι) :
    (engine.execute rules guest fuel parser (.text t) ⟨memoize, k, limit⟩ elsewhere).1 =
        (engine.execute rules host fuel parser (.text (t.drop k)) ⟨memoize, 0, limit⟩
          world).1.map (Except.map (Job.Outcome.shift k)) ∧
      ∀ root later, engine.resolve rules parser = (.ok root, later) →
        (later.execute rules guest fuel parser (.text t) ⟨memoize, k, limit⟩ elsewhere).1 =
          (engine.execute rules host fuel parser (.text (t.drop k)) ⟨memoize, 0, limit⟩
            world).1.map (Except.map (Job.Outcome.shift k)) := by
  suffices same : (engine.execute rules guest fuel parser (.text t) ⟨memoize, k, limit⟩
      elsewhere).1 = (engine.execute rules host fuel parser (.text (t.drop k)) ⟨memoize, 0, limit⟩
        world).1.map (Except.map (Job.Outcome.shift k)) by
    refine ⟨same, fun root later resolved => ?_⟩
    have steady : engine.Steady := ⟨grown.tidy.1, grown.tidy.2⟩
    rw [steady.execute_again resolved]
    exact same
  cases resolved : engine.resolve rules parser with
  | mk found later =>
      cases found with
      | error error => simp [Engine.execute, resolved, Except.map]
      | ok root =>
          have grownThen : Grown BlindOnly later.grammar := by
            obtain ⟨_, rfl⟩ := Prod.mk.inj resolved
            exact .resolve _ blind grown
          have travels : Job.Travels k ⟨later.grammar, .text (t.drop k), memoize, limit⟩
              ⟨later.grammar, .text t, memoize, limit⟩ :=
            ⟨rfl, rfl, rfl, grownThen.travels inside⟩
          have sameRun := travels.run answers guestAnswers fuel root 0 world elsewhere
          rw [Nat.zero_add] at sameRun
          rw [Engine.execute_of_resolve resolved inside, sameRun,
            Engine.execute_of_resolve resolved (Nat.zero_le _), Option.map_map, Option.map_map]
          rfl

/-- Two rules that start with each other are matched behind another character as where the
text begins with what they match. -/
theorem knot_is_matched_behind_another :
    ((Engine.new 0 .text .standard).execute knot ⟨Empty.elim, fun _ _ => ()⟩ 20
      ⟨0, .choice [.rule "first", .rule "second"]⟩ (.text ⟨#['é', '\n']⟩) ⟨false, 1, none⟩ ()).1 =
        some (.ok ⟨.success (.between 1 2) (.text "\n"), 15⟩) := by
  obtain ⟨isRoot, seen⟩ := knot_resolves
  have atStart : ((Engine.new 0 .text .standard).execute knot ⟨Empty.elim, fun _ _ => ()⟩ 20
      ⟨0, .choice [.rule "first", .rule "second"]⟩ (.text ⟨#['\n']⟩) ⟨false, 0, none⟩ ()).1 = _ :=
    (Engine.execute_of_resolve (Engine.resolve_of_toOption isRoot) (Nat.zero_le _)).trans
      (congrArg (Option.map Except.ok) (knot_runs (Grammar.slots_eq_of_sketches
        (knot_alternates _) (knot_root_alternates _) (by decide) seen)).2)
  have blind : Grammar.BlindOnly knot (.choice [.rule "first", .rule "second"]) := by
    have spanBlind (kind : Kind Empty Empty) (isKind : kind.Alternates) : kind.SpanBlind := by
      cases isKind <;> exact ⟨trivial, trivial⟩
    exact ⟨fun _ => True, fun name _ => (knot_alternates _ name).mono spanBlind,
      (knot_root_alternates _).mono spanBlind⟩
  have grown : Grammar.Grown Grammar.BlindOnly
      (Engine.new 0 .text .standard : Engine Empty Empty).grammar := .empty 0 .text
  have answers : (⟨Empty.elim, fun _ _ => ()⟩ : Host Empty Empty Unit).Answers Empty.elim :=
    fun request => request.elim
  have moved : ((Engine.new 0 .text .standard).execute knot ⟨Empty.elim, fun _ _ => ()⟩ 20
      ⟨0, .choice [.rule "first", .rule "second"]⟩ (.text ⟨#['é', '\n']⟩) ⟨false, 1, none⟩
      ()).1 = _ :=
    (matching_is_translation_invariant grown blind (by decide) answers answers false none 20 ()
      ()).1
  exact moved.trans (congrArg (Option.map (Except.map (Job.Outcome.shift 1))) atStart)

end Packrat
