import Packrat.Proofs.Combinator.Pace

/-!
# Ordered choice

A choice is followed call by call: its calls are answered one after the other from a
list, and `exchange` notes which calls it makes and what it comes to.  `Picks` says what
that should be, without memory and without a loop: everything up to the first success, or
all of it and then the failure that got furthest, of those the earliest.
-/

namespace Packrat

variable {ω ρ : Type}

/-- How a matcher goes on from a move when its calls are answered, one after the other,
by the matches of a list: the calls that it makes, and what it comes to if it calls no
more often than there are answers. -/
def Matcher.exchange (matcher : Matcher ω ρ) (input : Input ω) (reply : ρ → Answer ω)
    (position : Nat) : List (Match (Value ω)) → Move ω →
      List (NodeId × Nat) × Option (Match (Value ω))
  | _, .done result => ([], some result)
  | [], .call node place _ => ([(node, place)], none)
  | answer :: answers, .call node place memory =>
      let rest := matcher.exchange input reply position answers
        ((matcher.resume input position memory answer).move reply)
      ((node, place) :: rest.1, rest.2)

@[simp] theorem Matcher.exchange_done (matcher : Matcher ω ρ) (input : Input ω)
    (reply : ρ → Answer ω) (position : Nat) (answers : List (Match (Value ω)))
    (result : Match (Value ω)) :
    matcher.exchange input reply position answers (.done result) = ([], some result) := by
  cases answers <;> rfl

/-- A match of a list that ends after all before it and no earlier than any after it. -/
def Match.Farthest (found : List (Match (Value ω))) (best : Match (Value ω)) : Prop :=
  ∃ before after, found = before ++ best :: after ∧
    (∀ each ∈ before, each.span.stop < best.span.stop) ∧
    ∀ each ∈ after, each.span.stop ≤ best.span.stop

/-- Which calls an ordered choice makes at a position, and what it comes to, when each
alternative matches there as it is written beside it. -/
inductive Picks (position : Nat) :
    List (NodeId × Match (Value ω)) → List (NodeId × Nat) → Match (Value ω) → Prop where
  /-- The first success is taken, and nothing after it is called. -/
  | success {before after : List (NodeId × Match (Value ω))} {node : NodeId}
      {answer : Match (Value ω)} :
      (∀ each ∈ before, each.2.isSuccess = false) → answer.isSuccess = true →
      Picks position (before ++ (node, answer) :: after)
        (before.map (fun each => (each.1, position)) ++ [(node, position)]) answer
  /-- Everything failed, and the failure that got furthest is taken. -/
  | failure {tries : List (NodeId × Match (Value ω))} {answer : Match (Value ω)} :
      (∀ each ∈ tries, each.2.isSuccess = false) →
      Match.Farthest (tries.map Prod.snd) answer →
      Picks position tries (tries.map fun each => (each.1, position)) answer
  /-- There was nothing to try. -/
  | nothing : Picks position [] [] (.failure "no alternatives" (.point position))

namespace Match

/-- What was farthest stays so when something that ends earlier comes before it. -/
theorem Farthest.cons {found : List (Match (Value ω))} {best first : Match (Value ω)}
    (farthest : Farthest found best) (earlier : first.span.stop < best.span.stop) :
    Farthest (first :: found) best := by
  obtain ⟨before, after, rfl, ahead, behind⟩ := farthest
  refine ⟨first :: before, after, rfl, ?_, behind⟩
  intro each member
  rcases List.mem_cons.mp member with rfl | member
  · exact earlier
  · exact ahead each member

/-- A match that ends no later than the first one can be put behind it. -/
theorem Farthest.insert {found : List (Match (Value ω))} {best first later : Match (Value ω)}
    (farthest : Farthest (first :: found) best)
    (behindFirst : later.span.stop ≤ first.span.stop) :
    Farthest (first :: later :: found) best := by
  obtain ⟨before, after, split, ahead, behind⟩ := farthest
  cases before with
  | nil =>
      obtain ⟨rfl, rfl⟩ := List.cons.inj split
      refine ⟨[], later :: found, rfl, nofun, ?_⟩
      intro each member
      rcases List.mem_cons.mp member with rfl | member
      · exact behindFirst
      · exact behind each member
  | cons head before =>
      obtain ⟨rfl, rfl⟩ := List.cons.inj split
      have firstEarlier := ahead first List.mem_cons_self
      refine ⟨first :: later :: before, after, rfl, ?_, behind⟩
      intro each member
      rcases List.mem_cons.mp member with rfl | member
      · exact firstEarlier
      · rcases List.mem_cons.mp member with rfl | member
        · exact Nat.lt_of_le_of_lt behindFirst firstEarlier
        · exact ahead each (List.mem_cons_of_mem _ member)

/-- The farthest of some matches ends no earlier than the first of them. -/
theorem Farthest.first_le {found : List (Match (Value ω))} {best first : Match (Value ω)}
    (farthest : Farthest (first :: found) best) : first.span.stop ≤ best.span.stop := by
  obtain ⟨before, after, split, ahead, behind⟩ := farthest
  cases before with
  | nil =>
      obtain ⟨rfl, -⟩ := List.cons.inj split
      exact Nat.le_refl _
  | cons head before =>
      obtain ⟨rfl, -⟩ := List.cons.inj split
      exact Nat.le_of_lt (ahead first List.mem_cons_self)

/-- Keeping the farther of the best so far and the next one finds the farthest of all. -/
theorem farthest_foldl (first : Match (Value ω)) (found : List (Match (Value ω))) :
    Farthest (first :: found) (found.foldl farther first) := by
  induction found generalizing first with
  | nil => exact ⟨[], [], rfl, nofun, nofun⟩
  | cons later rest induction =>
      rw [List.foldl_cons]
      have farthest := induction (first.farther later)
      unfold farther at farthest ⊢
      split at farthest
      next further =>
        rw [if_pos further]
        exact farthest.cons (Nat.lt_of_lt_of_le further farthest.first_le)
      next behind =>
        rw [if_neg behind]
        exact farthest.insert (Nat.le_of_not_lt behind)

/-- There is one farthest match only. -/
theorem Farthest.unique {found : List (Match (Value ω))} {best other : Match (Value ω)}
    (farthest : Farthest found best) (another : Farthest found other) : best = other := by
  obtain ⟨before, after, rfl, ahead, behind⟩ := farthest
  obtain ⟨otherBefore, otherAfter, split, otherAhead, otherBehind⟩ := another
  rcases List.append_eq_append_iff.mp split with ⟨between, rfl, rest⟩ | ⟨between, rfl, rest⟩
  · cases between with
    | nil => exact (List.cons.inj rest).1
    | cons head between =>
        obtain ⟨rfl, rfl⟩ := List.cons.inj rest
        have later := otherAhead best (by simp)
        have earlier := behind other (by simp)
        omega
  · cases between with
    | nil => exact (List.cons.inj rest).1.symm
    | cons head between =>
        obtain ⟨rfl, rfl⟩ := List.cons.inj rest
        have later := ahead other (by simp)
        have earlier := otherBehind best (by simp)
        omega

end Match

section Choice

variable {input : Input ω} {reply : ρ → Answer ω} {position : Nat} {alternatives : List NodeId}
  {memory : Memory ω}

/-- The alternative that is due is called, and the choice goes by its answer. -/
theorem exchange_tryFrom_cons {node : NodeId} {left : List NodeId}
    (due : alternatives.drop memory.turn = node :: left) (answer : Match (Value ω))
    (answers : List (Match (Value ω))) :
    (Matcher.choice alternatives).exchange input reply position (answer :: answers)
        ((Matcher.tryFrom alternatives position memory : Step ω ρ).move reply) =
      let rest := (Matcher.choice alternatives).exchange input reply position answers
        (((Matcher.choice alternatives).resume input position memory answer : Step ω ρ).move
          reply)
      ((node, position) :: rest.1, rest.2) := by
  have here : alternatives[memory.turn]? = some node := by
    rw [← List.head?_drop, due, List.head?_cons]
  simp only [Matcher.tryFrom, here, Step.move, Matcher.exchange]

/-- A failed alternative leaves those after it, with the better of the failures. -/
theorem drop_after {node : NodeId} {left : List NodeId}
    (due : alternatives.drop memory.turn = node :: left) :
    alternatives.drop (memory.turn + 1) = left := by
  rw [← List.tail_drop, due, List.tail_cons]

/-- Nothing is called after the first success, which is given unchanged. -/
theorem exchange_of_success {before after : List (NodeId × Match (Value ω))} {node : NodeId}
    {answer : Match (Value ω)}
    (due : alternatives.drop memory.turn = (before ++ (node, answer) :: after).map Prod.fst)
    (failed : ∀ each ∈ before, each.2.isSuccess = false) (succeeded : answer.isSuccess = true) :
    (Matcher.choice alternatives).exchange input reply position
        ((before ++ (node, answer) :: after).map Prod.snd)
        ((Matcher.tryFrom alternatives position memory : Step ω ρ).move reply) =
      (before.map (fun each => (each.1, position)) ++ [(node, position)], some answer) := by
  induction before generalizing memory with
  | nil =>
      rw [List.nil_append, List.map_cons] at due
      rw [List.nil_append, List.map_cons, exchange_tryFrom_cons due, Matcher.resume_choice,
        if_pos succeeded, Step.move, Matcher.exchange_done]
      rfl
  | cons first before induction =>
      rw [List.cons_append, List.map_cons] at due
      have firstFailed : ¬ first.2.isSuccess = true := by
        simp [failed first List.mem_cons_self]
      have rest := @induction
        { memory with
          turn := memory.turn + 1
          aside := some (Match.better memory.aside first.2) } (drop_after due)
        fun each member => failed each (List.mem_cons_of_mem first member)
      rw [List.cons_append, List.map_cons, exchange_tryFrom_cons due, Matcher.resume_choice,
        if_neg firstFailed, rest]
      rfl

/-- When everything that is left fails, all of it is called, and the best of the failures
with what was set aside is given. -/
theorem exchange_of_failures {tries : List (NodeId × Match (Value ω))}
    (due : alternatives.drop memory.turn = tries.map Prod.fst)
    (failed : ∀ each ∈ tries, each.2.isSuccess = false) :
    (Matcher.choice alternatives).exchange input reply position (tries.map Prod.snd)
        ((Matcher.tryFrom alternatives position memory : Step ω ρ).move reply) =
      (tries.map (fun each => (each.1, position)),
        some (((tries.map Prod.snd).foldl (fun best later => some (Match.better best later))
          memory.aside).getD (.failure "no alternatives" (.point position)))) := by
  induction tries generalizing memory with
  | nil =>
      have past : alternatives[memory.turn]? = none :=
        List.getElem?_eq_none (List.drop_eq_nil_iff.mp due)
      simp only [Matcher.tryFrom, past, Step.move, Matcher.exchange_done, List.map_nil,
        List.foldl_nil]
  | cons first tries induction =>
      rw [List.map_cons] at due
      have firstFailed : ¬ first.2.isSuccess = true := by
        simp [failed first List.mem_cons_self]
      have rest := @induction
        { memory with
          turn := memory.turn + 1
          aside := some (Match.better memory.aside first.2) } (drop_after due)
        fun each member => failed each (List.mem_cons_of_mem first member)
      rw [List.map_cons, exchange_tryFrom_cons due, Matcher.resume_choice, if_neg firstFailed,
        rest]
      rfl

end Choice

/-- Once something is set aside, keeping the better one keeps the farther one. -/
theorem foldl_better_some (best : Match (Value ω)) (found : List (Match (Value ω))) :
    found.foldl (fun best later => some (Match.better best later)) (some best) =
      some (found.foldl Match.farther best) := by
  induction found generalizing best with
  | nil => rfl
  | cons later rest induction => exact induction (best.farther later)

/-- Either all alternatives fail or one of them is the first to succeed. -/
theorem exists_first_success (tries : List (NodeId × Match (Value ω))) :
    (∀ each ∈ tries, each.2.isSuccess = false) ∨
      ∃ before node answer after, tries = before ++ (node, answer) :: after ∧
        (∀ each ∈ before, each.2.isSuccess = false) ∧ answer.isSuccess = true := by
  induction tries with
  | nil => exact .inl nofun
  | cons first tries induction =>
      cases succeeded : first.2.isSuccess with
      | true => exact .inr ⟨[], first.1, first.2, tries, rfl, nofun, succeeded⟩
      | false =>
          rcases induction with failed | ⟨before, node, answer, after, rfl, failed, taken⟩
          · exact .inl (List.forall_mem_cons.mpr ⟨succeeded, failed⟩)
          · exact .inr ⟨first :: before, node, answer, after, rfl,
              List.forall_mem_cons.mpr ⟨succeeded, failed⟩, taken⟩

/-- A choice calls what it should and comes to what it should. -/
theorem exchange_of_picks {input : Input ω} {reply : ρ → Answer ω} {position : Nat}
    {tries : List (NodeId × Match (Value ω))} {calls : List (NodeId × Nat)}
    {result : Match (Value ω)} (picks : Picks position tries calls result) :
    (Matcher.choice (tries.map Prod.fst)).exchange input reply position (tries.map Prod.snd)
        (((Matcher.choice (tries.map Prod.fst)).start input position : Step ω ρ).move reply) =
      (calls, some result) := by
  cases picks with
  | success failed succeeded =>
      exact @exchange_of_success _ _ _ _ _ _ (.start position) _ _ _ _ rfl failed succeeded
  | failure failed farthest =>
      refine (@exchange_of_failures _ _ _ _ _ _ (.start position) _ rfl failed).trans ?_
      cases tries with
      | nil =>
          obtain ⟨before, after, split, -⟩ := farthest
          simp at split
      | cons first tries =>
          have alone : Match.better (Memory.start position).aside first.2 = first.2 := rfl
          rw [farthest.unique (Match.farthest_foldl first.2 (tries.map Prod.snd)),
            List.map_cons, List.map_cons, List.foldl_cons, alone, foldl_better_some,
            Option.getD_some]
  | nothing => rfl

/-- Whatever the alternatives match, something is picked. -/
theorem exists_picks (position : Nat) (tries : List (NodeId × Match (Value ω))) :
    ∃ calls result, Picks position tries calls result := by
  rcases exists_first_success tries with failed | ⟨before, node, answer, after, rfl, failed, taken⟩
  · cases tries with
    | nil => exact ⟨_, _, .nothing⟩
    | cons first tries => exact ⟨_, _, .failure failed (Match.farthest_foldl _ _)⟩
  · exact ⟨_, _, .success failed taken⟩

section Chooses

variable {κ : Type} {answers others : κ → Nat → Match (Value ω) → Prop}
  {answer : κ → Match (Value ω)} {position : Nat}

/-- A choice asks only its alternatives, and only where it is matched itself. -/
theorem Chooses.mono_at {best : Option (Match (Value ω))} {alternatives : List κ}
    {result : Match (Value ω)} (chooses : Chooses answers position best alternatives result)
    (related : ∀ each ∈ alternatives, ∀ found, answers each position found →
      others each position found) : Chooses others position best alternatives result := by
  induction chooses with
  | exhausted best => exact .exhausted best
  | taken answered succeeded =>
      exact .taken (related _ List.mem_cons_self _ answered) succeeded
  | passed answered failed _ induction =>
      refine .passed (related _ List.mem_cons_self _ answered) failed (induction ?_)
      exact fun each member => related each (List.mem_cons_of_mem _ member)

theorem Chooses.unique {best : Option (Match (Value ω))} {alternatives : List κ}
    {result other : Match (Value ω)} (chooses : Chooses answers position best alternatives result)
    (another : Chooses answers position best alternatives other)
    (functional : ∀ each place first second, answers each place first →
      answers each place second → first = second) : result = other := by
  induction chooses with
  | exhausted best =>
      cases another
      rfl
  | taken answered succeeded =>
      cases another with
      | taken otherAnswered => exact functional _ _ _ _ answered otherAnswered
      | passed otherAnswered failed =>
          cases functional _ _ _ _ answered otherAnswered
          cases succeeded.symm.trans failed
  | passed answered failed _ induction =>
      cases another with
      | taken otherAnswered succeeded =>
          cases functional _ _ _ _ answered otherAnswered
          cases succeeded.symm.trans failed
      | passed otherAnswered _ rest =>
          cases functional _ _ _ _ answered otherAnswered
          exact induction rest

theorem chooses_of_success {before after : List κ} {first : κ}
    (failed : ∀ each ∈ before, (answer each).isSuccess = false)
    (succeeded : (answer first).isSuccess = true) (best : Option (Match (Value ω))) :
    Chooses (fun each place found => place = position ∧ found = answer each) position best
      (before ++ first :: after) (answer first) := by
  induction before generalizing best with
  | nil => exact .taken ⟨rfl, rfl⟩ succeeded
  | cons head before induction =>
      obtain ⟨headFailed, rest⟩ := List.forall_mem_cons.mp failed
      exact .passed ⟨rfl, rfl⟩ headFailed (induction rest _)

theorem chooses_of_failures {alternatives : List κ}
    (failed : ∀ each ∈ alternatives, (answer each).isSuccess = false)
    (best : Option (Match (Value ω))) :
    Chooses (fun each place found => place = position ∧ found = answer each) position best
      alternatives
      (((alternatives.map answer).foldl (fun best later => some (Match.better best later))
        best).getD (.failure "no alternatives" (.point position))) := by
  induction alternatives generalizing best with
  | nil => exact .exhausted best
  | cons head rest induction =>
      obtain ⟨headFailed, restFailed⟩ := List.forall_mem_cons.mp failed
      exact .passed ⟨rfl, rfl⟩ headFailed (induction restFailed _)

/-- What is picked is what is chosen, if each alternative has one answer. -/
theorem Picks.chooses {node : κ → NodeId} {alternatives : List κ} {calls : List (NodeId × Nat)}
    {result : Match (Value ω)}
    (picks : Picks position (alternatives.map fun each => (node each, answer each)) calls result) :
    Chooses (fun each place found => place = position ∧ found = answer each) position none
      alternatives result := by
  generalize isTries : alternatives.map (fun each => (node each, answer each)) = tries at picks
  cases picks with
  | success failed succeeded =>
      obtain ⟨before, rest, rfl, rfl, isRest⟩ := List.map_eq_append_iff.mp isTries
      obtain ⟨first, after, rfl, isFirst, rfl⟩ := List.map_eq_cons_iff.mp isRest
      cases isFirst
      have failedBefore := List.forall_mem_map.mp failed
      exact chooses_of_success failedBefore succeeded none
  | failure failed farthest =>
      subst isTries
      rw [List.map_map] at farthest
      cases alternatives with
      | nil =>
          obtain ⟨before, after, split, -⟩ := farthest
          simp at split
      | cons first rest =>
          have failedEach := List.forall_mem_map.mp failed
          obtain ⟨firstFailed, restFailed⟩ := List.forall_mem_cons.mp failedEach
          have chooses : Chooses (fun each place found => place = position ∧ found = answer each)
              position (some (answer first)) rest _ := chooses_of_failures restFailed _
          rw [foldl_better_some, Option.getD_some] at chooses
          rw [farthest.unique (Match.farthest_foldl (answer first) (rest.map answer))]
          exact .passed ⟨rfl, rfl⟩ firstFailed chooses
  | nothing =>
      rw [List.map_eq_nil_iff.mp isTries]
      exact .exhausted none

end Chooses

namespace Reference

/-- An ordered choice, whatever its alternatives are and whatever each of them matches
where the choice is matched: it calls them there in order up to the first success, and
gives that; or, if there is none, the failure that got furthest and the earliest of
those; or, where there is nothing to try, a failure of its own. -/
theorem choice_picks (parsers : List (Reference ω ρ)) :
    ∃ (blueprint : Blueprint ω ρ) (same : blueprint.arity = parsers.length),
      choice parsers = .node blueprint (fun index => parsers.get (index.cast same)) ∧
      ∀ (children : Fin blueprint.arity → Child)
        (answers : Fin blueprint.arity → Match (Value ω)) (input : Input ω)
        (reply : ρ → Answer ω) (position : Nat),
        ∃ calls result,
          (blueprint.generate children).exchange input reply position (List.ofFn answers)
              (((blueprint.generate children).start input position).move reply) =
            (calls, some result) ∧
          Picks position (List.ofFn fun index => ((children index).id, answers index)) calls
            result := by
  refine ⟨_, rfl, rfl, fun children answers input reply position => ?_⟩
  obtain ⟨calls, result, picks⟩ :=
    exists_picks position (List.ofFn fun index => ((children index).id, answers index))
  refine ⟨calls, result, ?_, picks⟩
  have exchanged : Matcher.exchange _ input reply position _ _ = _ := exchange_of_picks picks
  simp only [List.map_ofFn] at exchanged ⊢
  exact exchanged

end Reference

end Packrat
