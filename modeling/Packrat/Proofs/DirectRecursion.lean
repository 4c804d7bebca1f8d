import Mathlib
import Packrat.Proofs.Combinator.OrderedChoice
import Packrat.Proofs.Demand
import Packrat.Proofs.Grammar.Linking
import Packrat.Proofs.Scheduler.Recursion
import Packrat.Proofs.Transparency
import Packrat.Proofs.WholeInput

/-!
# Alternatives that start with their own rule

A rule may be an ordered choice in which some alternatives start with the rule itself.
Where such a rule is matched, these alternatives fail with "left recursion", whatever they
go on with, and the choice is made among the others as if they were written alone.
-/

namespace Packrat

variable {ω ρ τ ι : Type}

/-- What a node for a choice comes to is what is chosen among its children. -/
theorem yields_choice_iff {matcher : Matcher ω ρ} {count : Nat} {children : Fin count → Child}
    (isChoice : matcher.Alike ((Kind.choice count).plan.map children).matcher) {input : Input ω}
    {reply : ρ → Answer ω} {position : Nat} {answers : NodeId → Nat → Match (Value ω) → Prop}
    {result : Match (Value ω)} :
    matcher.Yields input reply position answers ((matcher.start input position).move reply)
        result ↔
      Chooses (fun index => answers (children index).id) position none (List.ofFn id) result := by
  refine (isChoice.yields ..).trans (Plan.yields_iff.trans ⟨fun gives => ?_, .choice⟩)
  cases gives with
  | choice chooses => exact chooses

namespace Job

variable {job : Job ω ρ} {host : Host ω ρ τ} {reply : ρ → Answer ω} {root : NodeId}
  {position : Nat} {start : τ}

/-- A rule that is matched as a root comes to what it settles to: recursive evaluation
comes to it without trying what starts with the rule, or comes to nothing, and then whatever
starts with the rule is failed. -/
theorem Finds.picks {history : List (Deed ω)} {result : Match (Value ω)} {finish : τ}
    (finds : job.Finds host root position start history result finish)
    (answers : host.Answers reply) (unlimited : job.limit = none)
    (room : ∀ history machine world, job.Visits host root position start history machine world →
      machine.frames.size < capacity)
    {count : Nat} {children : Fin count → Child} {answer : Fin count → Match (Value ω)}
    (isChoice : (job.grammar.matcherAt (job.grammar.spot root position)).Alike
      ((Kind.choice count).plan.map children).matcher)
    (each : ∀ index,
      (job.grammar.spot (children index).id position ≠ job.grammar.spot root position ∧
        job.grammar.StartsWith job.input reply (job.grammar.spot (children index).id position)
          (job.grammar.spot root position) ∧ answer index = leftRecursion position) ∨
      job.Comes reply (job.grammar.spot (children index).id position) (answer index)) :
    ∃ calls, Picks position (List.ofFn fun index => ((children index).id, answer index)) calls
      result := by
  obtain ⟨calls, final, picks⟩ :=
    exists_picks position (List.ofFn fun index => ((children index).id, answer index))
  have chooses : Chooses (fun index place found => place = position ∧ found = answer index)
      position none (List.ofFn id) final := by
    rw [← Function.comp_id fun index => ((children index).id, answer index),
      ← List.map_ofFn] at picks
    exact picks.chooses
  suffices same : result = final from same ▸ ⟨calls, picks⟩
  by_cases comes : ∃ other, job.Comes reply (job.grammar.spot root position) other
  · obtain ⟨other, comes⟩ := comes
    obtain ⟨_, _, _, others⟩ := exists_finds_of_comes answers unlimited room comes
    rw [others.unique finds]
    have apart := (yields_choice_iff isChoice).mp comes.yields_apart
    refine (apart.mono_at fun index _ found there => ?_).unique chooses ?_
    · obtain ⟨notFirst, found⟩ := there
      rcases each index with ⟨_, starts, _⟩ | known
      · exact absurd starts notFirst
      · exact ⟨rfl, found.unique known⟩
    · rintro index place first second ⟨_, rfl⟩ ⟨_, rfl⟩
      rfl
  · have never : ∀ other, ¬job.Comes reply (job.grammar.spot root position) other :=
      fun other there => comes ⟨other, there⟩
    have aim : job.grammar.SettlesTo job.input reply (job.grammar.spot root position)
        (job.grammar.opening job.input reply (job.grammar.spot root position)) final := by
      refine (yields_choice_iff isChoice).mpr (chooses.mono_at fun index _ found there => ?_)
      obtain ⟨_, rfl⟩ := there
      rcases each index with ⟨other, starts, isFailed⟩ | known
      · exact ⟨other, .inl ⟨starts, isFailed⟩⟩
      · exact .of_comes never known
    obtain ⟨frame, first, last, begun, leads, _, finished⟩ := finds
    rcases leads.undecided answers never aim begun with undecided | decided
    · obtain ⟨waiters, there⟩ := undecided.open_
      rw [Machine.result?_eq there] at finished
      cases finished
    · exact Option.some.inj (finished.symm.trans decided)

end Job

/-! ## One parser in two grammars -/

namespace Grammar

open Reference

variable {book : Book ω ρ} {ledger others : Ledger ω ρ} {g g' : Grammar ω ρ} {input : Input ω}
  {reply : ρ → Answer ω}

/-- A parser evaluates to the same in every grammar for the same kind of input, but for
descriptions in messages. -/
theorem Sound.comesWithin_agrees {named : String → Prop} (sound : Sound book ledger g)
    (soundThere : Sound book others g') (sameKind : g'.kind = g.kind)
    (closed : ∀ name, named name → (book.rules name).Own named NoHandle) {depth : Nat}
    {id there : NodeId} {reference : Reference ω ρ} (own : reference.Own named NoHandle)
    (stands : Stands book.rules ledger g id reference)
    (standsThere : Stands book.rules others g' there reference) {position : Nat}
    {result : Match (Value ω)}
    (comes : g.ComesWithin input reply depth (g.spot id position) result) :
    ∃ other, g'.ComesWithin input reply depth (g'.spot there position) other ∧
      result.Agrees other := by
  induction depth generalizing id there reference position result with
  | zero => cases comes
  | succ depth induction =>
      obtain ⟨kind, children, reads⟩ := sound.exists_reads closed own stands
      obtain ⟨ids, _, alike, each⟩ := sound.exists_plan stands reads
      obtain ⟨idsThere, descriptions, alikeThere, eachThere⟩ :=
        soundThere.exists_plan standsThere (sameKind ▸ reads)
      have gives := (comesWithin_succ_iff (alike position)).mp comes
      have related : ∀ index place answer,
          g.ComesWithin input reply depth (g.spot (ids index) place) answer →
          ∃ other, g'.ComesWithin input reply depth (g'.spot (idsThere index) place) other ∧
            answer.Agrees other := by
        intro index place answer
        exact induction (own.of_reads closed reads index) (each index) (eachThere index)
      obtain ⟨other, givesThere, agrees⟩ := gives.agrees related descriptions
      exact ⟨other, (comesWithin_succ_iff (alikeThere position)).mpr givesThere, agrees⟩

end Grammar

/-! ## Rules with alternatives -/

/-- The slot that is the child of a node at an index. -/
def Grammar.child? (g : Grammar ω ρ) (root : NodeId) (index : Nat) : Option NodeId :=
  (g.node? root).bind fun node => node.children[index]?

/-- An alternative of a rule: one that starts with the rule itself, or any other parser. -/
inductive Alternative (ω ρ : Type) where
  | growing (combine : Combine ω ρ) (rest : Reference ω ρ)
  | plain (parser : Reference ω ρ)

namespace Alternative

/-- The alternative as it is written in the body of its rule. -/
def written (rule : String) : Alternative ω ρ → Reference ω ρ
  | growing combine rest => .tryChain combine (.rule rule) rest
  | plain parser => parser

/-- The alternative, but a failure if it starts with its rule. -/
def failing : Alternative ω ρ → Reference ω ρ
  | growing .. => .fail "left recursion"
  | plain parser => parser

/-- What an alternative that is resolved to a node counts for where its rule is matched. -/
def Counts (g : Grammar ω ρ) (input : Input ω) (reply : ρ → Answer ω) (node : NodeId)
    (position : Nat) : Alternative ω ρ → Match (Value ω) → Prop
  | growing .., answer => answer = Job.leftRecursion position
  | plain _, answer => g.Evaluates input reply node position answer

/-- What an ordered choice picks among alternatives that are resolved to the children of a
node. -/
def Picked (g : Grammar ω ρ) (input : Input ω) (reply : ρ → Answer ω) (root : NodeId)
    (position : Nat) (alternatives : List (Alternative ω ρ)) (result : Match (Value ω)) : Prop :=
  ∃ (child : Fin alternatives.length → NodeId)
    (answer : Fin alternatives.length → Match (Value ω)) (calls : List (NodeId × Nat)),
    (∀ index : Fin alternatives.length, g.child? root index = some (child index) ∧
      (alternatives.get index).Counts g input reply (child index) position (answer index)) ∧
    Picks position (List.ofFn fun index => (child index, answer index)) calls result

end Alternative

/-- All that is written in a program is made of the library's kinds of nodes, and of no nodes
that are resolved already. -/
def Book.Stock [BEq ω] [Printable ω] (book : Book ω ρ) : Prop :=
  (∀ name, (book.rules name).MadeOf Kind.Stock (fun _ => True) Reference.NoHandle) ∧
    ∀ identity, (book.parsers identity).MadeOf Kind.Stock (fun _ => True) Reference.NoHandle

namespace Reference

theorem MadeOf.own {kinds : Kind ω ρ → Prop} {named : String → Prop} {held : Nat → NodeId → Prop}
    {reference : Reference ω ρ} (made : reference.MadeOf kinds named held) :
    reference.Own named held := by
  induction made with
  | node native _ _ induction => exact .node _ native induction
  | literal => exact .literal _
  | sequence _ _ induction => exact .sequence induction
  | rule isNamed => exact .rule isNamed
  | delayed label _ induction => exact .delayed label induction
  | handle isHeld => exact .handle isHeld
  | parser identity _ induction => exact .parser identity induction

theorem MadeOf.anyHandle {kinds : Kind ω ρ → Prop} {named : String → Prop}
    {held : Nat → NodeId → Prop} {reference : Reference ω ρ}
    (made : reference.MadeOf kinds named held) :
    reference.MadeOf kinds named fun _ _ => True := by
  induction made with
  | node native isKind _ induction => exact .node native isKind induction
  | literal isKind => exact .literal isKind
  | sequence isKind _ induction => exact .sequence isKind induction
  | rule isNamed => exact .rule isNamed
  | delayed label _ induction => exact .delayed label induction
  | handle => exact .handle trivial
  | parser identity _ induction => exact .parser identity induction

theorem choice_map {α : Type} (items : List α) (f : α → Reference ω ρ) :
    choice (items.map f) =
      .node (Kind.choice items.length).blueprint fun index => f (items.get index) := by
  rw [Own.choice_eq]
  have whole : ∀ (parts : List (Reference ω ρ)) (count : Nat) (same : parts.length = count),
      (.node (Kind.choice parts.length).blueprint parts.get : Reference ω ρ) =
        .node (Kind.choice count).blueprint fun index : Fin count =>
          parts.get (index.cast same.symm) := by
    rintro parts _ rfl
    rfl
  rw [whole _ items.length (List.length_map f)]
  congr 1
  funext index
  simp

theorem reads_choice_map {α : Type} (inputs : InputKind) (rules : Rules ω ρ) (items : List α)
    (f : α → Reference ω ρ) :
    Reads inputs rules (choice (items.map f)) (.choice items.length)
      fun index => f (items.get index) := by
  rw [choice_map]
  exact .node _ _ trivial

end Reference

theorem Book.Stock.stockOnly [BEq ω] [Printable ω] {book : Book ω ρ} (stock : book.Stock)
    (identity : Nat) : Grammar.StockOnly book.rules (book.parsers identity) :=
  ⟨fun _ => True, fun name _ => (stock.1 name).anyHandle, (stock.2 identity).anyHandle⟩

namespace Grammar

variable {book : Book ω ρ} {ledger others : Ledger ω ρ} {g g' : Grammar ω ρ}

theorem Continues.stocked [BEq ω] [Printable ω] {number : Nat} {kind : InputKind}
    (stock : book.Stock) (history : Continues book (.empty number kind) g) :
    Grown StockOnly g ∧ LinkedUp book.rules g := by
  induction history with
  | here => exact ⟨.empty number kind, .empty book.rules number kind⟩
  | parser identity _ induction =>
      obtain ⟨_, closed, made⟩ := stock.stockOnly identity
      refine ⟨.resolve _ (stock.stockOnly identity) induction.1, induction.2.resolve closed made ?_⟩
      rintro _ ⟨⟩
  | @consumer g' root _ _ induction =>
      have handle : StockOnly book.rules (g'.handle root) :=
        ⟨fun _ => True, fun name _ => (stock.1 name).anyHandle, .handle trivial⟩
      obtain ⟨named, closedThere, made⟩ := handle.consume
      refine ⟨.resolve _ handle.consume induction.1, induction.2.resolve closedThere made ?_⟩
      rintro _ ⟨⟩

theorem child?_of_ready {id : NodeId} {node : Resolved ω ρ} {count : Nat}
    {ids : Fin count → NodeId} (ready : g.slot? (g.follow id) = some (.ready node))
    (isChildren : node.children = List.ofFn ids) (index : Fin count) :
    g.child? id index = some (ids index) := by
  rw [child?, node?_of_ready ready, Option.bind_some, isChildren]
  simp

/-- A slot does what the node does that is written for it, and the children stand for what
is written for them. -/
theorem Sound.exists_children (sound : Sound book ledger g) {id : NodeId}
    {reference : Reference ω ρ} (stands : Stands book.rules ledger g id reference)
    {kind : Kind ω ρ} {parts : Fin kind.arity → Reference ω ρ}
    (reads : Reference.Reads g.kind book.rules reference kind parts) :
    ∃ children : Fin kind.arity → Child,
      (∀ position, (g.matcherAt (g.spot id position)).Alike (kind.plan.map children).matcher) ∧
      ∀ index : Fin kind.arity, g.child? id index = some (children index).id ∧
        Stands book.rules ledger g (children index).id (parts index) := by
  obtain ⟨node, ready, serves⟩ := sound.exists_serving stands reads
  obtain ⟨_, ids, descriptions, isChildren, alike, each⟩ := serves kind parts reads
  refine ⟨fun index => ⟨ids index, descriptions index⟩, fun position => ?_, fun index => ?_⟩
  · rw [matcherAt_spot sound.tidy.acyclic ready]
    exact alike
  · exact ⟨child?_of_ready ready isChildren index, each index⟩

/-- A rule is resolved to a node for its alternatives, and those that start with the rule to
nodes that start with that node. -/
theorem LinkedUp.exists_alternatives (linkedUp : LinkedUp book.rules g) (complete : g.Complete)
    {name : String} {alternatives : List (Alternative ω ρ)}
    (isRule : book.rules name = .choice (alternatives.map (Alternative.written name)))
    {place : Place} {root : NodeId} (knows : g.Knows (.rule name) place root) :
    ∃ children : Fin alternatives.length → Child,
      g.Has root (.choice alternatives.length) children ∧
      ∀ index combine rest, alternatives.get index = .growing combine rest →
        ∀ (input : Input ω) (reply : ρ → Answer ω) (position : Nat),
          g.spot (children index).id position ≠ g.spot root position ∧
          g.StartsWith input reply (g.spot (children index).id position)
            (g.spot root position) := by
  have acyclic := linkedUp.1.acyclic
  rw [Reference.choice_map] at isRule
  obtain ⟨there, noted, rfl⟩ := knows
  have stays := acyclic.follow_follow there
  have native : ∀ input, (Kind.choice alternatives.length : Kind ω ρ).Native input :=
    fun _ => trivial
  obtain ⟨children, ⟨node, ready, isOf⟩, below⟩ := linkedUp.exists_body complete noted native isRule
  refine ⟨children, ⟨node, stays.symm ▸ ready, isOf⟩, fun index combine rest isGrowing => ?_⟩
  obtain ⟨grandchildren, ⟨chain, chainReady, isChain⟩, again⟩ := below index (.tryChain combine)
    (fun turn : Fin 2 => if turn = 0 then .rule name else rest) (fun _ => trivial)
    (by simp only [isGrowing]; rfl)
  intro input reply position
  constructor
  · intro same
    obtain ⟨sameNode, -⟩ := Spot.mk.inj same
    rw [sameNode, stays, ready] at chainReady
    cases chainReady
    exact absurd (isOf.name.symm.trans isChain.name) (by simp [Kind.name])
  · refine ⟨(grandchildren ⟨0, Nat.two_pos⟩).id, position, .start position, ?_, ?_⟩
    · rw [opening, matcherAt_spot acyclic chainReady, isChain.matcher]
      rfl
    · have leads := again ⟨0, Nat.two_pos⟩ rfl
      rw [spot, spot, leads, stays]

theorem Sound.comes_fail (sound : Sound book ledger g) {id : NodeId} {message : String}
    (stands : Stands book.rules ledger g id (.fail message)) (input : Input ω)
    (reply : ρ → Answer ω) (position : Nat) :
    g.Comes input reply (g.spot id position) (.failure message (.point position)) := by
  obtain ⟨_, reads⟩ : ∃ parts, Reference.Reads g.kind book.rules (.fail message)
      (.leaf "fail" ("fail " ++ quote message) fun _ position =>
        .failure message (.point position)) parts := ⟨_, .node (.leaf ..) _ trivial⟩
  obtain ⟨_, _, alike, _⟩ := sound.exists_plan stands reads
  exact (comes_iff_gives (alike position)).mpr (.leaf _)

/-- What an alternative counts for is what it comes to where it is written as a failure if
it starts with its rule, but for descriptions in messages. -/
theorem Sound.comes_of_counts {named : String → Prop} (sound : Sound book ledger g)
    (soundThere : Sound book others g') (sameKind : g'.kind = g.kind)
    (closed : ∀ name, named name → (book.rules name).Own named Reference.NoHandle)
    {alternative : Alternative ω ρ} {rule : String}
    (own : (alternative.written rule).Own named Reference.NoHandle) {id there : NodeId}
    (stands : Stands book.rules ledger g id (alternative.written rule))
    (standsThere : Stands book.rules others g' there alternative.failing) {input : Input ω}
    {reply : ρ → Answer ω} {position : Nat} {answer : Match (Value ω)}
    (counts : alternative.Counts g input reply id position answer) :
    ∃ other, g'.Comes input reply (g'.spot there position) other ∧ answer.Agrees other := by
  cases alternative with
  | growing combine rest =>
      cases counts
      exact ⟨_, soundThere.comes_fail standsThere input reply position, .refl _⟩
  | plain parser =>
      obtain ⟨depth, within⟩ := comes_iff_exists_depth.mp counts
      obtain ⟨other, comes, agrees⟩ :=
        sound.comesWithin_agrees soundThere sameKind closed own stands standsThere within
      exact ⟨other, comes_iff_exists_depth.mpr ⟨depth, comes⟩, agrees⟩

/-- What is picked among alternatives is what their choice comes to where it is written with
failures for some of them, but for descriptions in messages. -/
theorem Sound.comes_of_picked {named : String → Prop} (sound : Sound book ledger g)
    (soundThere : Sound book others g') (sameKind : g'.kind = g.kind)
    (closed : ∀ name, named name → (book.rules name).Own named Reference.NoHandle)
    {name : String} (isNamed : named name) {alternatives : List (Alternative ω ρ)}
    (isRule : book.rules name = .choice (alternatives.map (Alternative.written name)))
    {root there : NodeId} (stands : Stands book.rules ledger g root (.rule name))
    (standsThere : Stands book.rules others g' there
      (.choice (alternatives.map Alternative.failing)))
    {input : Input ω} {reply : ρ → Answer ω} {position : Nat} {result : Match (Value ω)}
    (picked : Alternative.Picked g input reply root position alternatives result) :
    ∃ other, g'.Comes input reply (g'.spot there position) other ∧ result.Agrees other := by
  obtain ⟨child, answer, calls, counts, picks⟩ := picked
  have ownBody := closed name isNamed
  rw [isRule] at ownBody
  have readsBody :=
    Reference.reads_choice_map g.kind book.rules alternatives (Alternative.written name)
  have reads := Reference.Reads.opened (.rule name) (isRule ▸ readsBody)
  have readsThere :=
    Reference.reads_choice_map g'.kind book.rules alternatives Alternative.failing
  obtain ⟨children, _, each⟩ := sound.exists_children stands reads
  obtain ⟨twins, alike, eachThere⟩ := soundThere.exists_children standsThere readsThere
  have related : ∀ index place found, place = position ∧ found = answer index →
      ∃ other, g'.Comes input reply (g'.spot (twins index).id place) other ∧
        found.Agrees other := by
    rintro index _ _ ⟨rfl, rfl⟩
    obtain ⟨isChild, count⟩ := counts index
    obtain ⟨isChildToo, standsChild⟩ := each index
    rw [Option.some.inj (isChildToo.symm.trans isChild)] at standsChild
    exact sound.comes_of_counts soundThere sameKind closed (ownBody.of_reads closed readsBody index)
      standsChild (eachThere index).2 count
  have chooses : Chooses (fun index place found => place = position ∧ found = answer index)
      position none (List.ofFn id) result := Picks.chooses (by rw [List.map_ofFn]; exact picks)
  obtain ⟨other, choosesThere, agrees⟩ := chooses.agrees related .none
  exact ⟨other, (comes_iff_gives (alike position)).mpr (.choice choosesThere), agrees⟩

section

variable [BEq ω] [Printable ω] (grown : Grown StockOnly g)

include grown

theorem Grown.child_lt {root child : NodeId} (small : root.number < g.size) {index : Nat}
    (isChild : g.child? root index = some child) : child.number < g.size := by
  obtain ⟨node, _, _, ready, _, _, each⟩ := grown.stocked root small
  rw [child?, node?_of_ready ready, Option.bind_some] at isChild
  exact each child (List.mem_of_getElem? isChild)

/-- An alternative counts for something, unless it goes round in a circle by itself. -/
theorem Grown.exists_counts {child : NodeId} (small : child.number < g.size) {input : Input ω}
    {position : Nat} (inside : position ≤ input.length) {reply : ρ → Answer ω}
    {alternative : Alternative ω ρ}
    (apart : ∀ parser, alternative = .plain parser →
      ¬g.LeftRecursive input reply (g.spot child position)) :
    ∃ answer, alternative.Counts g input reply child position answer := by
  cases alternative with
  | growing combine rest => exact ⟨_, rfl⟩
  | plain parser =>
      exact (grown.stocked.exists_evaluates_iff grown.tidy.1.acyclic small inside).mpr
        (apart parser rfl)

/-- A rule comes to what is picked among its alternatives, if those go round in no circles
that do not start with the rule. -/
theorem Grown.picked_of_finds (linkedUp : LinkedUp book.rules g) {name : String}
    {alternatives : List (Alternative ω ρ)}
    (isRule : book.rules name = .choice (alternatives.map (Alternative.written name)))
    {place : Place} {root : NodeId} (knows : g.Knows (.rule name) place root)
    (small : root.number < g.size) {input : Input ω} {position : Nat}
    (inside : position ≤ input.length) {host : Host ω ρ τ} {reply : ρ → Answer ω}
    (answers : host.Answers reply)
    (apart : ∀ index parser child, alternatives[index]? = some (.plain parser) →
      g.child? root index = some child → ¬g.LeftRecursive input reply (g.spot child position))
    {memoize : Bool} {start : τ}
    (room : ¬Job.Exhausts ⟨g, input, memoize, none⟩ host root position start)
    {history : List (Deed ω)} {result : Match (Value ω)} {finish : τ}
    (finds : Job.Finds ⟨g, input, memoize, none⟩ host root position start history result finish) :
    Alternative.Picked g input reply root position alternatives result := by
  obtain ⟨children, ⟨node, ready, isOf⟩, starts⟩ :=
    linkedUp.exists_alternatives grown.tidy.2 isRule knows
  have isChild : ∀ index : Fin alternatives.length,
      g.child? root index = some (children index).id := child?_of_ready ready isOf.children
  have counted : ∀ index, ∃ answer,
      (alternatives.get index).Counts g input reply (children index).id position answer := by
    intro index
    refine grown.exists_counts (grown.child_lt small (isChild index)) inside ?_
    intro parser isPlain
    refine apart index parser _ ?_ (isChild index)
    rw [← isPlain]
    exact List.getElem?_eq_getElem index.2
  choose answer counts using counted
  have isChoice : (g.matcherAt (g.spot root position)).Alike
      ((Kind.choice alternatives.length).plan.map children).matcher := by
    rw [matcherAt_spot linkedUp.1.acyclic ready, isOf.matcher]
    exact .refl _
  obtain ⟨calls, picks⟩ := finds.picks answers rfl (fun _ _ _ => Job.size_lt_of_not_exhausts room)
    isChoice fun index => by
      have count := counts index
      cases isAlternative : alternatives.get index with
      | growing combine rest =>
          rw [isAlternative] at count
          obtain ⟨notRoot, first⟩ := starts index combine rest isAlternative input reply position
          exact .inl ⟨notRoot, first, count⟩
      | plain parser =>
          rw [isAlternative] at count
          exact .inr count
  exact ⟨_, answer, calls, fun index => ⟨isChild index, counts index⟩, picks⟩

end

end Grammar

namespace Engine

open Grammar

/-- An engine that has resolved a parser executes it to what the match of its node finds,
unless all indices for frames are used up. -/
theorem exists_comesTo_of_resolve [BEq ω] [Printable ω] {rules : Rules ω ρ}
    {engine later : Engine ω ρ} {parser : Parser ω ρ} {root : NodeId}
    (resolved : engine.resolve rules parser = (.ok root, later))
    (grown : Grown StockOnly later.grammar) (small : root.number < later.grammar.size)
    {host : Host ω ρ τ} {input : Input ω} {options : Options} {world : τ}
    (room : ¬Exhausts (.ok root, later) host input options world)
    (unlimited : options.stepLimit = none) (inside : options.start ≤ input.length) :
    ∃ history result finish steps,
      Job.Finds ⟨later.grammar, input, options.memoize, none⟩ host root options.start world
        history result finish ∧
      ComesTo (fun fuel => (engine.execute rules host fuel parser input options world).1)
        (.ok ⟨result, steps⟩) := by
  obtain ⟨found, rfl⟩ := Prod.mk.inj resolved
  have acyclic := grown.tidy.1.acyclic
  rcases exhausts_or_finds host acyclic (grown.inStock small) unlimited inside world with
    full | ⟨history, result, finish, finds⟩
  · exact absurd full room
  · obtain ⟨steps, comes⟩ := comesTo_of_finds inside finds
    rw [unlimited] at finds
    exact ⟨history, result, finish, steps, finds, comesTo_execute found comes⟩

/-- A rule that is an ordered choice is matched as if the alternatives failed that start
with the rule itself.  The result is what is picked among these failures and what the
other alternatives evaluate to.  Where the choice is written with failures for those
alternatives, it comes to the same, but for the descriptions of parsers that a message
quotes. -/
theorem growing_alternatives_fail [BEq ω] [Printable ω] {book : Book ω ρ} (stock : book.Stock)
    {name : String} {alternatives : List (Alternative ω ρ)} {self other : Parser ω ρ}
    (isRule : book.rules name = .choice (alternatives.map (Alternative.written name)))
    (isSelf : self.body = .rule name)
    (isOther : other.body = .choice (alternatives.map Alternative.failing))
    (written : book.parsers self.identity = self.body)
    (otherWritten : book.parsers other.identity = other.body)
    {number otherNumber : Nat} {kind : InputKind}
    {engine later twin twinLater : Engine ω ρ}
    (history : Continues book (.empty number kind) engine.grammar)
    (otherHistory : Continues book (.empty otherNumber kind) twin.grammar)
    {root otherRoot : NodeId} (resolved : engine.resolve book.rules self = (.ok root, later))
    (otherResolved : twin.resolve book.rules other = (.ok otherRoot, twinLater))
    {host : Host ω ρ τ} {guest : Host ω ρ ι} {reply : ρ → Answer ω}
    (answers : host.Answers reply) (guestAnswers : guest.Answers reply) (input : Input ω)
    {options : Options} (unlimited : options.stepLimit = none) (memoize : Bool)
    (apart : ∀ index parser child, alternatives[index]? = some (.plain parser) →
      later.grammar.child? root index = some child →
      ¬later.grammar.LeftRecursive input reply (later.grammar.spot child options.start))
    (world : τ) (elsewhere : ι) :
    Exhausts (.ok root, later) host input options world ∨
    Exhausts (.ok otherRoot, twinLater) guest input { options with memoize } elsewhere ∨
    ∃ outcome otherOutcome,
      ComesTo (fun fuel => (engine.execute book.rules host fuel self input options world).1)
        (.ok outcome) ∧
      ComesTo (fun fuel => (twin.execute book.rules guest fuel other input
        { options with memoize } elsewhere).1) (.ok otherOutcome) ∧
      outcome.result.Agrees otherOutcome.result ∧
      (options.start ≤ input.length → Alternative.Picked later.grammar input reply root
        options.start alternatives outcome.result) := by
  have closed (name : String) (_ : True) := (stock.1 name).own
  obtain ⟨historyThen, knows, isKind, ledger, sound, small, stands⟩ :=
    continues_of_resolve history written resolved
  obtain ⟨otherThen, _, isKindToo, others, soundThere, otherSmall, standsThere⟩ :=
    continues_of_resolve otherHistory otherWritten otherResolved
  obtain ⟨grown, linkedUp⟩ := historyThen.stocked stock
  obtain ⟨otherGrown, _⟩ := otherThen.stocked stock
  rcases Nat.lt_or_ge input.length options.start with past | inside
  · obtain ⟨found, rfl⟩ := Prod.mk.inj resolved
    obtain ⟨otherFound, rfl⟩ := Prod.mk.inj otherResolved
    exact .inr (.inr ⟨_, _, comesTo_execute found (comesTo_of_past past world),
      comesTo_execute otherFound (@comesTo_of_past _ _ _ _ _ _ { options with memoize } _ past _),
      .refl _, fun inside => by omega⟩)
  by_cases room : Exhausts (.ok root, later) host input options world
  · exact .inl room
  by_cases otherRoom : Exhausts (.ok otherRoot, twinLater) guest input { options with memoize }
    elsewhere
  · exact .inr (.inl otherRoom)
  obtain ⟨_, result, _, _, finds, comes⟩ :=
    exists_comesTo_of_resolve resolved grown small room unlimited inside
  obtain ⟨_, otherResult, _, _, otherFinds, otherComes⟩ :=
    exists_comesTo_of_resolve otherResolved otherGrown otherSmall otherRoom unlimited inside
  rw [isSelf] at knows stands
  rw [isOther] at standsThere
  have free : ¬Job.Exhausts ⟨later.grammar, input, options.memoize, none⟩ host root options.start
      world := fun full => room ⟨root, rfl, unlimited.symm ▸ full⟩
  have otherFree : ¬Job.Exhausts ⟨twinLater.grammar, input, memoize, none⟩ guest otherRoot
      options.start elsewhere := fun full => otherRoom ⟨otherRoot, rfl, unlimited.symm ▸ full⟩
  have picked := grown.picked_of_finds linkedUp isRule knows small inside answers apart free finds
  obtain ⟨second, comesThere, agrees⟩ := sound.comes_of_picked soundThere
    (isKindToo.trans isKind.symm) closed trivial isRule stands standsThere picked
  obtain ⟨_, _, _, othersFinds⟩ := Job.exists_finds_of_comes guestAnswers rfl
    (fun _ _ _ => Job.size_lt_of_not_exhausts otherFree) comesThere
  obtain rfl := otherFinds.unique othersFinds
  exact .inr (.inr ⟨_, _, comes, otherComes, agrees, fun _ => picked⟩)

end Engine

/-! ## A list that grows to the left -/

namespace Reference

/-- A parser that is made of the library's kinds of nodes and keeps what it promises. -/
structure Ordinary [BEq ω] [Printable ω] (parsers : Nat → Reference ω ρ)
    (reference : Reference ω ρ) : Prop where
  made : reference.MadeOf Kind.Stock (fun _ => True) NoHandle
  faithful : reference.Faithful parsers

namespace Ordinary

variable [BEq ω] [Printable ω] {parsers : Nat → Reference ω ρ}

theorem node (kind : Kind ω ρ) (native : ∀ input, kind.Native input) (stock : kind.Stock)
    {children : Fin kind.arity → Reference ω ρ}
    (each : ∀ index, (children index).Ordinary parsers) :
    (Reference.node kind.blueprint children).Ordinary parsers :=
  ⟨.node native stock fun index => (each index).made,
    .own kind native fun index => (each index).faithful⟩

theorem rule (name : String) : (Reference.rule name : Reference ω ρ).Ordinary parsers :=
  ⟨.rule trivial, .rule name⟩

theorem choice_map {α : Type} {items : List α} {f : α → Reference ω ρ}
    (each : ∀ item ∈ items, (f item).Ordinary parsers) :
    (choice (items.map f)).Ordinary parsers := by
  rw [Reference.choice_map]
  exact node (.choice _) (fun _ => trivial) trivial fun index => each _ (List.get_mem items index)

end Ordinary

end Reference

/-- What a lookahead fails with where there is what it should not find. -/
def Matcher.refusal? (matcher : Matcher ω ρ) : Option String :=
  match matcher.start (.text ⟨#[]⟩) 0 with
  | .call _ _ memory =>
    match matcher.resume (.text ⟨#[]⟩) 0 memory (.success (.point 0) .unit) with
    | .done (.failure message _) => some message
    | _ => none
  | _ => none

theorem Matcher.Alike.refusal_eq {matcher : Matcher ω ρ} {child : Child}
    (alike : matcher.Alike (.notAhead child)) (reply : ρ → Answer ω) {message : String}
    (refuses : matcher.refusal? = some message) : message = "unexpected " ++ child.description := by
  unfold refusal? at refuses
  split at refuses
  next node position memory calls =>
      split at refuses
      next span finishes =>
          cases refuses
          have yields : matcher.Yields (.text ⟨#[]⟩) reply 0
              (fun _ _ answer => answer = .success (.point 0) .unit)
              ((matcher.start (.text ⟨#[]⟩) 0).move reply) (.failure message span) := by
            rw [calls]
            refine .call rfl ?_
            rw [finishes]
            exact .done _
          cases (alike.yields ..).mp yields with
          | call answered rest =>
              cases answered
              cases rest
              rfl
      next => cases refuses
  next => cases refuses

namespace Listing

open Reference Grammar

/-- A list is a longer list and what may follow an item, or a last item. -/
def alternatives : List (Alternative Empty Empty) :=
  [.growing (fun list _ => .result (some list)) (.rule "more"), .plain (.rule "final")]

def rules : Rules Empty Empty := fun name =>
  if name = "more" then .optionalOr (.text "") (.rule "final")
  else if name = "final" then .chain (fun item _ => item) .any (.notAhead (.rule "more"))
  else .choice (alternatives.map (Alternative.written name))

/-- The list, and the list without the alternative that starts with it. -/
def parsers (identity : Nat) : Reference Empty Empty :=
  if identity = 0 then .rule "list" else .choice (alternatives.map Alternative.failing)

theorem ordinary_rules (name : String) : (rules name).Ordinary parsers := by
  unfold rules
  split
  next => exact .node (.optionalOr _) (fun _ => trivial) trivial fun _ => .rule _
  next =>
    split
    next =>
      refine .node (.tryChain _) (fun _ => trivial) trivial fun index => ?_
      split
      next => exact .node .any (fun _ => trivial) trivial nofun
      next => exact .node .notAhead (fun _ => trivial) trivial fun _ => .rule _
    next =>
      refine .choice_map fun alternative member => ?_
      rcases List.mem_pair.mp member with rfl | rfl
      · refine .node (.tryChain _) (fun _ => trivial) trivial fun index => ?_
        split
        next => exact .rule _
        next => exact .rule _
      · exact .rule _

theorem ordinary_parsers (identity : Nat) : (parsers identity).Ordinary parsers := by
  unfold parsers
  split
  next => exact .rule _
  next =>
    refine .choice_map fun alternative member => ?_
    rcases List.mem_pair.mp member with rfl | rfl
    · exact .node (.leaf _ _ _) (fun _ => trivial) (.inr (.inr (.inr ⟨_, rfl⟩))) nofun
    · exact .rule _

def book : Book Empty Empty where
  rules := rules
  parsers := parsers
  rule_faithful name := (ordinary_rules name).faithful
  parser_faithful identity := (ordinary_parsers identity).faithful

theorem book_stock : book.Stock :=
  ⟨fun name => (ordinary_rules name).made, fun identity => (ordinary_parsers identity).made⟩

theorem book_list : book.rules "list" = .choice (alternatives.map (Alternative.written "list")) :=
  rfl

section

variable {g : Grammar Empty Empty} {ledger : Ledger Empty Empty} (sound : Sound book ledger g)
  {id : NodeId}

include sound

theorem comes_any (stands : Stands rules ledger g id .any) :
    g.Comes (.text ⟨#['y']⟩) Empty.elim (g.spot id 0) (.success (.between 0 1) (.char 'y')) ∧
      g.Comes (.text ⟨#['y']⟩) Empty.elim (g.spot id 1)
        (.failure "unexpected end of input" (.point 1)) := by
  obtain ⟨_, _, alike, _⟩ := sound.exists_plan stands (.node .any _ trivial)
  exact ⟨(comes_iff_gives (alike 0)).mpr (.leaf _), (comes_iff_gives (alike 1)).mpr (.leaf _)⟩

/-- Behind the last item no item is found, and so nothing may follow the item. -/
theorem comes_more (stands : Stands rules ledger g id (.rule "more")) :
    g.Comes (.text ⟨#['y']⟩) Empty.elim (g.spot id 1) (.success (.point 1) (.text "")) := by
  obtain ⟨final, _, alike, isFinal⟩ := sound.exists_plan stands
    (.opened (.rule _) (.node (.optionalOr _) _ trivial))
  obtain ⟨parts, _, alikeFinal, isPart⟩ := sound.exists_plan (isFinal (0 : Fin 1))
    (.opened (.rule _) (.node (.tryChain _) _ trivial))
  have fails :=
    (comes_iff_gives (alikeFinal 1)).mpr (.noFirst (comes_any sound (isPart (0 : Fin 2))).2)
  exact (comes_iff_gives (alike 1)).mpr (.absent fails)

/-- The last item is not accepted, as nothing follows it; the message quotes how that is
described. -/
theorem comes_final (stands : Stands rules ledger g id (.rule "final")) {message : String}
    (refuses : ((g.child? id 1).bind fun lookahead =>
      (g.matcherAt (g.spot lookahead 1)).refusal?) = some message) :
    g.Comes (.text ⟨#['y']⟩) Empty.elim (g.spot id 0) (.failure message (.point 1)) := by
  obtain ⟨parts, alike, isPart⟩ := sound.exists_children stands
    (.opened (.rule _) (.node (.tryChain _) _ trivial))
  have isChild : g.child? id 1 = some _ := (isPart (1 : Fin 2)).1
  obtain ⟨more, alikeAhead, isMore⟩ := sound.exists_children
    (isPart (1 : Fin 2)).2 (.node .notAhead _ trivial)
  rw [isChild, Option.bind_some] at refuses
  obtain rfl := (alikeAhead 1).refusal_eq Empty.elim refuses
  refine (comes_iff_gives (alike 0)).mpr (.noSecond (comes_any sound (isPart (0 : Fin 2)).2).1 ?_)
  have comes := comes_more sound (isMore (0 : Fin 1)).2
  exact (comes_iff_gives (alikeAhead 1)).mpr (.unexpected comes rfl)

end

/-- What the second part of the second alternative fails with where it matches. -/
def refusal? (g : Grammar Empty Empty) (root : NodeId) : Option String :=
  (g.child? root 1).bind fun final => (g.child? final 1).bind fun lookahead =>
    (g.matcherAt (g.spot lookahead 1)).refusal?

section

variable {g : Grammar Empty Empty} {ledger : Ledger Empty Empty} (sound : Sound book ledger g)
  {root : NodeId} {message : String} (refuses : refusal? g root = some message)

include sound refuses

theorem comes_last {reference : Reference Empty Empty}
    (stands : Stands rules ledger g root reference)
    {parts : Fin 2 → Reference Empty Empty}
    (reads : Reads g.kind rules reference (.choice 2) parts) (isFinal : parts 1 = .rule "final") :
    ∃ final, g.child? root 1 = some final ∧
      g.Comes (.text ⟨#['y']⟩) Empty.elim (g.spot final 0) (.failure message (.point 1)) := by
  obtain ⟨children, _, each⟩ := sound.exists_children stands reads
  obtain ⟨isChild, standsFinal⟩ : g.child? root 1 = some _ ∧ _ := each (1 : Fin 2)
  rw [refusal?, isChild, Option.bind_some] at refuses
  exact ⟨_, isChild, comes_final sound (isFinal ▸ standsFinal) refuses⟩

theorem comes_listed (stands : Stands rules ledger g root (.rule "list")) :
    ∃ final, g.child? root 1 = some final ∧
      g.Comes (.text ⟨#['y']⟩) Empty.elim (g.spot final 0) (.failure message (.point 1)) :=
  comes_last sound refuses stands
    (.opened (.rule _) (reads_choice_map _ rules alternatives (Alternative.written "list"))) rfl

/-- The last item goes round in no circle. -/
theorem apart (stands : Stands rules ledger g root (.rule "list")) (index : Nat)
    (parser : Reference Empty Empty) (child : NodeId)
    (isPlain : alternatives[index]? = some (.plain parser))
    (isChild : g.child? root index = some child) :
    ¬g.LeftRecursive (.text ⟨#['y']⟩) Empty.elim (g.spot child 0) := by
  match index with
  | 0 => cases isPlain
  | 1 =>
      obtain ⟨final, isFinal, comes⟩ := comes_listed sound refuses stands
      obtain rfl := Option.some.inj (isFinal.symm.trans isChild)
      exact comes.not_leftRecursive
  | _ + 2 => cases isPlain

/-- The list fails with what the last item fails with, as that got further. -/
theorem eq_of_picked (stands : Stands rules ledger g root (.rule "list"))
    {result : Match (Value Empty)}
    (picked : Alternative.Picked g (.text ⟨#['y']⟩) Empty.elim root 0 alternatives result) :
    result = .failure message (.point 1) := by
  obtain ⟨child, answer, calls, counts, picks⟩ := picked
  obtain ⟨final, isFinal, comes⟩ := comes_listed sound refuses stands
  have first : answer (0 : Fin 2) = Job.leftRecursion 0 := (counts (0 : Fin 2)).2
  have second : answer (1 : Fin 2) = .failure message (.point 1) := by
    obtain ⟨isChild, evaluates⟩ := counts (1 : Fin 2)
    obtain rfl := Option.some.inj (isFinal.symm.trans isChild)
    exact Comes.unique evaluates comes
  have chooses : Chooses (fun index place found => place = 0 ∧ found = answer index) 0 none
      (List.ofFn id) result := Picks.chooses (by rw [List.map_ofFn]; exact picks)
  have failsFirst : Chooses (fun index place found => place = 0 ∧ found = answer index) 0 none
      (List.ofFn id) ((answer (0 : Fin 2)).farther (answer (1 : Fin 2))) :=
    .passed ⟨rfl, rfl⟩ (congrArg Match.isSuccess first)
      (.passed ⟨rfl, rfl⟩ (congrArg Match.isSuccess second) (.exhausted _))
  rw [chooses.unique failsFirst (by rintro index place _ _ ⟨_, rfl⟩ ⟨_, rfl⟩; rfl), first, second]
  rfl

theorem comes_failing
    (stands : Stands rules ledger g root (.choice (alternatives.map Alternative.failing))) :
    g.Comes (.text ⟨#['y']⟩) Empty.elim (g.spot root 0) (.failure message (.point 1)) := by
  have reads := reads_choice_map g.kind rules alternatives Alternative.failing
  obtain ⟨final, isFinal, comes⟩ := comes_last sound refuses stands reads rfl
  obtain ⟨children, alike, each⟩ := sound.exists_children stands reads
  obtain rfl := Option.some.inj ((each (1 : Fin 2)).1.symm.trans isFinal)
  have fails : g.Comes (.text ⟨#['y']⟩) Empty.elim (g.spot (children (0 : Fin 2)).id 0)
      (Job.leftRecursion 0) := sound.comes_fail (each (0 : Fin 2)).2 _ _ 0
  exact (comes_iff_gives (alike 0)).mpr
    (.choice (.passed fails rfl (.passed comes rfl (.exhausted _))))

end

theorem one_lt_capacity : 1 < capacity := by decide

/-- The list's slot is the second, as the first one stands for the parser. -/
def listRoot : NodeId := ⟨1, one_lt_capacity⟩

def otherRoot : NodeId := ⟨0, capacity_pos⟩

/-- The rules are resolved in another order where the list is not: what may follow an item
is described by its own name there, and here by what it is made of. -/
theorem resolves :
    (((empty 0 .text).resolve rules ⟨.parser 0, []⟩ (parsers 0)).1.toOption = some listRoot ∧
      ((empty 0 .text).resolve rules ⟨.parser 0, []⟩ (parsers 0)).2.nodeCount = 6 ∧
      refusal? ((empty 0 .text).resolve rules ⟨.parser 0, []⟩ (parsers 0)).2 listRoot =
        some "unexpected ...") ∧
    ((empty 0 .text).resolve rules ⟨.parser 1, []⟩ (parsers 1)).1.toOption = some otherRoot ∧
      ((empty 0 .text).resolve rules ⟨.parser 1, []⟩ (parsers 1)).2.nodeCount = 6 ∧
      refusal? ((empty 0 .text).resolve rules ⟨.parser 1, []⟩ (parsers 1)).2 otherRoot =
        some "unexpected optional_or ..." := by
  decide +kernel

def engine : Engine Empty Empty := .new 0 .text .standard

def host : Host Empty Empty Unit := ⟨Empty.elim, fun _ _ => ()⟩

theorem host_answers : host.Answers Empty.elim := fun request => request.elim

/-- The list as a parser, and without the alternative that starts with it. -/
def parser (identity : Nat) : Parser Empty Empty := ⟨identity, parsers identity⟩

theorem room {identity : Nat} {root : NodeId} {later : Engine Empty Empty}
    (resolved : engine.resolve rules (parser identity) = (.ok root, later))
    (few : later.grammar.nodeCount = 6) :
    ¬Engine.Exhausts (.ok root, later) host (.text ⟨#['y']⟩) .standard () := by
  obtain ⟨grown, small⟩ := Engine.grown_of_resolve (.empty 0 .text)
    (book_stock.stockOnly identity) resolved
  have enough : later.grammar.nodeCount * ((Input.text ⟨#['y']⟩ : Input Empty).length + 1) <
      capacity := by
    rw [few]
    decide
  refine @Engine.not_exhausts _ _ _ _ _ _ _ _ (.ok root, later) grown.tidy.1.acyclic ?_ rfl rfl
    (Nat.zero_le _) enough ()
  rintro _ ⟨⟩
  exact grown.inStock small

/-- Each of the two parsers is matched to an end. -/
theorem exists_finds {identity : Nat} {root : NodeId} {later : Engine Empty Empty}
    (resolved : engine.resolve rules (parser identity) = (.ok root, later))
    (few : later.grammar.nodeCount = 6) :
    ∃ ledger, Sound book ledger later.grammar ∧
      Stands rules ledger later.grammar root (parsers identity) ∧
      later.grammar.Knows (parsers identity) ⟨.parser identity, []⟩ root ∧
      root.number < later.grammar.size ∧
      Grown StockOnly later.grammar ∧ LinkedUp rules later.grammar ∧
      ∃ history result finish steps,
        Job.Finds ⟨later.grammar, .text ⟨#['y']⟩, true, none⟩ host root 0 () history result finish ∧
        ComesTo (fun fuel => (engine.execute rules host fuel (parser identity) (.text ⟨#['y']⟩)
          .standard ()).1) (.ok ⟨result, steps⟩) := by
  obtain ⟨historyThen, knows, _, ledger, sound, small, stands⟩ :=
    @Engine.continues_of_resolve _ _ book 0 .text _ _ .here (parser identity) rfl _ resolved
  obtain ⟨grown, linkedUp⟩ := historyThen.stocked book_stock
  have executes := Engine.exists_comesTo_of_resolve resolved grown small (room resolved few) rfl
    (Nat.zero_le _)
  exact ⟨ledger, sound, stands, knows, small, grown, linkedUp, executes⟩

/-- The list fails as it does without the alternative that starts with it, but the message
quotes another description: it depends on the order in which the rules are resolved. -/
theorem growing_alternative_changes_message :
    rules "list" = .choice (alternatives.map (Alternative.written "list")) ∧
    (∃ steps, ComesTo (fun fuel => (engine.execute rules host fuel ⟨0, .rule "list"⟩
      (.text ⟨#['y']⟩) .standard ()).1) (.ok ⟨.failure "unexpected ..." (.point 1), steps⟩)) ∧
    ∃ steps, ComesTo (fun fuel => (engine.execute rules host fuel
      ⟨1, .choice (alternatives.map Alternative.failing)⟩ (.text ⟨#['y']⟩) .standard ()).1)
        (.ok ⟨.failure "unexpected optional_or ..." (.point 1), steps⟩) := by
  obtain ⟨⟨found, few, refuses⟩, otherFound, otherFew, otherRefuses⟩ := resolves
  refine ⟨rfl, ?_, ?_⟩
  · have resolved : engine.resolve rules (parser 0) = (.ok listRoot, _) :=
      Engine.resolve_of_toOption found
    obtain ⟨ledger, sound, stands, knows, small, grown, linkedUp, _, result, _, steps, finds,
      comes⟩ := exists_finds resolved few
    have picked := grown.picked_of_finds linkedUp book_list knows small (Nat.zero_le _) host_answers
      (apart sound refuses stands)
      (fun full => room resolved few ⟨listRoot, rfl, full⟩) finds
    obtain rfl := eq_of_picked sound refuses stands picked
    exact ⟨steps, comes⟩
  · have resolved : engine.resolve rules (parser 1) = (.ok otherRoot, _) :=
      Engine.resolve_of_toOption otherFound
    obtain ⟨ledger, sound, stands, _, _, _, _, _, result, _, steps, finds, comes⟩ :=
      exists_finds resolved otherFew
    obtain ⟨_, _, _, others⟩ := Job.exists_finds_of_comes host_answers rfl
      (fun _ _ _ => Job.size_lt_of_not_exhausts
        fun full => room resolved otherFew ⟨otherRoot, rfl, full⟩)
      (comes_failing sound otherRefuses stands)
    obtain rfl := finds.unique others
    exact ⟨steps, comes⟩

/-- The list is matched as if the alternative failed that starts with it. -/
theorem list_grows_in_vain :
    ∃ outcome otherOutcome,
      ComesTo (fun fuel => (engine.execute rules host fuel (parser 0) (.text ⟨#['y']⟩)
        .standard ()).1) (.ok outcome) ∧
      ComesTo (fun fuel => (engine.execute rules host fuel (parser 1) (.text ⟨#['y']⟩)
        .standard ()).1) (.ok otherOutcome) ∧
      outcome.result.Agrees otherOutcome.result ∧
      Alternative.Picked (engine.resolve rules (parser 0)).2.grammar (.text ⟨#['y']⟩) Empty.elim
        listRoot 0 alternatives outcome.result := by
  obtain ⟨⟨found, few, refuses⟩, otherFound, otherFew, _⟩ := resolves
  have resolved : engine.resolve rules (parser 0) = (.ok listRoot, _) :=
    Engine.resolve_of_toOption found
  have otherResolved : engine.resolve rules (parser 1) = (.ok otherRoot, _) :=
    Engine.resolve_of_toOption otherFound
  obtain ⟨ledger, sound, stands, _⟩ := exists_finds resolved few
  rcases Engine.growing_alternatives_fail book_stock book_list (rfl : (parser 0).body = _)
    (rfl : (parser 1).body = _) rfl rfl (.here : Continues book (.empty 0 .text) engine.grammar)
    (.here : Continues book (.empty 0 .text) engine.grammar) resolved otherResolved host_answers
    host_answers (.text ⟨#['y']⟩) (rfl : Options.standard.stepLimit = none) true
    (apart sound refuses stands) () () with full | full | ⟨_, _, comes, otherComes, agrees, picked⟩
  · exact absurd full (room resolved few)
  · exact absurd full (room otherResolved otherFew)
  · exact ⟨_, _, comes, otherComes, agrees, picked (Nat.zero_le _)⟩

end Listing

end Packrat
