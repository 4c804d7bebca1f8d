import Packrat.Proofs.Grammar.Calls
import Packrat.Proofs.Grammar.Forcing
import Packrat.Proofs.Grammar.Spending

/-!
# Unfolding rules

However rules refer to each other, to resolve a reference ends: it takes no more slots than
there are nodes and thunks written in what it mentions, and it forces no thunk twice.  It is
given up for a rule that leads back to itself exactly if there is one, no node being on the
way.
-/

namespace Packrat

namespace Grammar

open Reference

variable {ω ρ : Type}

namespace Orderly

variable {program : Program ω ρ} {exact : Prop} {ledger : Ledger ω ρ} {g : Grammar ω ρ}
  (orderly : Orderly program exact ledger g) {place : Place} {reference : Reference ω ρ}

include orderly

theorem grows_extended (rules : Rules ω ρ) (place : Place) (reference : Reference ω ρ) :
    g.Grows (g.extended rules place reference) ∧ (g.extended rules place reference).Tidy := by
  rcases resolve_extended rules g place reference with ⟨_, _, resolves⟩ | ⟨_, _, resolves⟩
  · obtain ⟨grows, tidyThen, _⟩ := resolves.keeps orderly.tidy
    exact ⟨grows, tidyThen⟩
  · obtain ⟨grows, tidyThen, _⟩ := resolves.keeps orderly.tidy
    exact ⟨grows, tidyThen⟩

/-- Which thunks a call has forced, whatever it came to. -/
theorem forces (rules : Rules ω ρ) (place : Place) (reference : Reference ω ρ) :
    ∃ forced, g.Forces (g.extended rules place reference) forced := by
  rcases resolve_extended rules g place reference with ⟨_, _, resolves⟩ | ⟨_, _, resolves⟩
  · exact resolves.forces orderly.tidy trivial
  · exact resolves.forces orderly.tidy trivial

/-- A thunk that is known is not forced. -/
theorem not_forced {thunk : Thunk} (known : g.thunks.find? thunk ≠ none) (rules : Rules ω ρ)
    {forced : List (Thunk × Option String)}
    (forces : g.Forces (g.extended rules place reference) forced) :
    thunk ∉ forced.map Prod.fst := by
  obtain ⟨_, tidyThen⟩ := orderly.grows_extended rules place reference
  obtain ⟨_, _, unique, _⟩ := tidyThen.unique
  intro member
  exact known ((forces.once unique).2 thunk member).1

/-- A call that is given up for a rule that leads back to itself leads to one. -/
theorem circles (isWritten : program.ledger.written place = some reference)
    {error : ResolveError} (fails : (g.resolve program.rules place reference).1 = .error error)
    (innermost : error.innermost = .selfReference) :
    Circles program.rules (g.extended program.rules place reference) reference := by
  rcases resolve_extended program.rules g place reference with
    ⟨id, resolved, _⟩ | ⟨other, resolved, resolves⟩
  · rw [resolved] at fails
    cases fails
  · rw [resolved] at fails
    cases fails
    obtain ⟨_, _, _, _, circles⟩ := orderly.traces isWritten resolves
    exact circles error rfl innermost

/-- A call that leads to a rule which leads back to itself does not succeed. -/
theorem fails_of_circles (isWritten : program.ledger.written place = some reference)
    (circles : Circles program.rules (g.extended program.rules place reference) reference) :
    ∃ error, (g.resolve program.rules place reference).1 = .error error := by
  cases found : (g.resolve program.rules place reference).1 with
  | error error => exact ⟨error, rfl⟩
  | ok id =>
      obtain ⟨thunk, last, meets, circle, rfl | ⟨id, _, _, reserved⟩⟩ := circles
      · exact absurd circle (orderly.sane_of_succeeds isWritten found last meets).not_circular
      · obtain ⟨_, completeThen⟩ :=
          orderly.tidy.resolve orderly.complete program.rules place reference
        rcases resolve_extended program.rules g place reference with
          ⟨_, resolved, _⟩ | ⟨_, resolved, _⟩
        · rw [resolved] at completeThen
          exact absurd reserved (completeThen _)
        · rw [resolved] at found
          cases found

/-- Handles for older slots are not for what is being made. -/
theorem circles_iff (old : g.HandlesOld program.rules place reference) :
    Circles program.rules (g.extended program.rules place reference) reference ↔
      ∃ thunk, Meets program.rules reference thunk ∧
        Relation.TransGen (Opens program.rules) thunk thunk := by
  constructor
  · rintro ⟨thunk, last, meets, circle, rfl | ⟨id, rfl, small, reserved⟩⟩
    · exact ⟨last, meets, circle⟩
    · obtain ⟨grows, tidyThen⟩ := orderly.grows_extended program.rules place reference
      have further : Meets program.rules thunk
          (.handle (g.extended program.rules place reference).number id) :=
        Returns.meets circle.to_reflTransGen
      rw [grows.number] at further
      rcases old id (meets.trans further) with before | beyond
      · rw [grows.slot?_follow_eq orderly.tidy orderly.complete tidyThen before] at reserved
        exact absurd reserved (orderly.complete _)
      · omega
  · rintro ⟨thunk, meets, circle⟩
    exact ⟨thunk, thunk, meets, circle, .inl rfl⟩

end Orderly

/-- Among finitely many rules each call ends, however they refer to each other: it takes no
more slots than its reference and the rules that it may still meet, and it is not given up
for want of slots unless there were fewer.

It forces no thunk twice and none that was known before; and a thunk that it forced is not
forced again by any later call if this one succeeded.

If it comes to no other error, it is given up for a rule that leads back to itself exactly if
it leads to one.  Rules alone lead back from such a rule, without a node on the way: to the
rule itself, or to a handle that was given out for its slot before the call made the slot. -/
theorem calls_end_and_force_once {program : Program ω ρ} {number : Nat} {kind : InputKind}
    {g : Grammar ω ρ} (history : program.Calls False (.empty number kind) g)
    {names : Finset String} (closed : ∀ name ∈ names, (program.rules name).RulesIn names)
    {place : Place} {reference : Reference ω ρ}
    (isWritten : program.ledger.written place = some reference)
    (inside : reference.RulesIn names) :
    ((g.extended program.rules place reference).size +
        unmet program.rules names (g.extended program.rules place reference) ≤
          g.size + unmet program.rules names g + reference.weight ∧
      ∀ error, (g.resolve program.rules place reference).1 = .error error →
        error.innermost = .tooManyNodes →
        capacity < g.size + unmet program.rules names g + reference.weight) ∧
    (∃ forced, g.Forces (g.extended program.rules place reference) forced ∧
      (forced.map Prod.fst).Nodup ∧
      (∀ thunk ∈ forced.map Prod.fst, g.thunks.find? thunk = none) ∧
      ∀ id, (g.resolve program.rules place reference).1 = .ok id →
        ∀ later, program.Calls False (g.resolve program.rules place reference).2 later →
        ∀ otherPlace other again,
          later.Forces (later.extended program.rules otherPlace other) again →
          ∀ thunk ∈ forced.map Prod.fst, thunk ∉ again.map Prod.fst) ∧
    ((∀ error, (g.resolve program.rules place reference).1 = .error error →
        error.innermost = .selfReference) →
      ((∃ error, (g.resolve program.rules place reference).1 = .error error ∧
          error.innermost = .selfReference) ↔
        Circles program.rules (g.extended program.rules place reference) reference)) ∧
    (g.HandlesOld program.rules place reference →
      (Circles program.rules (g.extended program.rules place reference) reference ↔
        ∃ thunk, Meets program.rules reference thunk ∧
          Relation.TransGen (Opens program.rules) thunk thunk)) := by
  obtain ⟨_, orderly, _⟩ := (Orderly.empty program False number kind).calls history
  obtain ⟨grows, tidyThen⟩ := orderly.grows_extended program.rules place reference
  refine ⟨?_, ?_, fun noOther => ⟨?_, ?_⟩, orderly.circles_iff⟩
  · rcases resolve_extended program.rules g place reference with
      ⟨id, resolved, resolves⟩ | ⟨error, resolved, resolves⟩
    all_goals
      rw [resolved]
      obtain ⟨within, short⟩ := resolves.spends orderly.tidy closed inside
      rw [Errand.weight] at within short
    · exact ⟨within, by simp⟩
    · refine ⟨within, fun other isError => ?_⟩
      cases isError
      exact short error rfl
  · obtain ⟨forced, forces⟩ := orderly.forces program.rules place reference
    obtain ⟨_, _, unique, _⟩ := tidyThen.unique
    obtain ⟨nodup, new⟩ := forces.once unique
    refine ⟨forced, forces, nodup, fun thunk member => (new thunk member).1, ?_⟩
    intro id found later further otherPlace other again forcesAgain thunk member
    rcases resolve_extended program.rules g place reference with
      ⟨_, resolved, _⟩ | ⟨_, resolved, _⟩
    · obtain ⟨_, _, orderlyThen, _⟩ := orderly.succeed isWritten found
      rw [resolved] at orderlyThen further
      obtain ⟨_, orderlyLater, growsLater, _⟩ := orderlyThen.calls further
      obtain ⟨slot, known⟩ := Option.ne_none_iff_exists'.mp (new thunk member).2
      apply orderlyLater.not_forced _ program.rules forcesAgain
      rw [growsLater.thunks.kept _ _ known]
      simp
    · rw [resolved] at found
      cases found
  · rintro ⟨error, fails, innermost⟩
    exact orderly.circles isWritten fails innermost
  · intro circles
    obtain ⟨error, fails⟩ := orderly.fails_of_circles isWritten circles
    exact ⟨error, fails, noOther error fails⟩

/-- A rule below a node of its own, and one that a delayed parser leads back to. -/
def winding : Program Empty Empty where
  rules name := if name = "" then .delayed none (.rule "") else .notAhead (.rule name)
  texts
    | .parser 0 => some (.rule "a")
    | .parser 1 => some (.rule "")
    | _ => none
  outside _ := rfl
  rules_proper name := by
    split
    · exact .delayed _ (.rule _)
    · exact .node fun _ => .rule _
  texts_proper origin reference found := by
    split at found
    · cases found
      exact .rule _
    · cases found
      exact .rule _
    · cases found

/-- The grammar that has resolved the rule below a node of its own. -/
def wound : Grammar Empty Empty :=
  ((empty 0 .text).resolve winding.rules ⟨.parser 0, []⟩ (.rule "a")).2

theorem winding_meets {other : Reference Empty Empty}
    (meets : Meets winding.rules (.rule "") other) :
    other = .rule "" ∨ other = .delayed none (.rule "") := by
  induction meets with
  | refl => exact .inl rfl
  | tail _ isPart induction =>
      rcases induction with rfl | rfl
      · exact .inr ((Opens.rule "").part_eq isPart)
      · exact .inl ((Opens.delayed none (.rule "")).part_eq isPart)

theorem winding_forces_once :
    (∃ id, ((empty 0 .text).resolve winding.rules ⟨.parser 0, []⟩ (.rule "a")).1 = .ok id) ∧
    (wound.resolve winding.rules ⟨.parser 1, []⟩ (.rule "")).1 = .error .selfReference ∧
    (∃ forced, wound.Forces (wound.extended winding.rules ⟨.parser 1, []⟩ (.rule "")) forced ∧
      (forced.map Prod.fst).Nodup ∧ .rule "a" ∉ forced.map Prod.fst) ∧
    ∃ thunk, Meets winding.rules (.rule "") thunk ∧
      Relation.TransGen (Opens winding.rules) thunk thunk := by
  have first : ((empty 0 .text).resolve winding.rules ⟨.parser 0, []⟩ (.rule "a")).1 =
      .ok ⟨1, by decide⟩ := by decide +kernel
  have fails : (wound.resolve winding.rules ⟨.parser 1, []⟩ (.rule "")).1 =
      .error .selfReference := by decide +kernel
  have known : wound.thunks.find? (.rule "a") = some ⟨0, by decide⟩ := by decide +kernel
  have closed : ∀ name ∈ ({"", "a"} : Finset String), (winding.rules name).RulesIn {"", "a"} := by
    intro name member
    rcases Finset.mem_insert.mp member with rfl | inside
    · exact Finset.mem_insert_self _ _
    · obtain rfl := Finset.mem_singleton.mp inside
      exact fun _ => member
  have inside : (.rule "" : Reference Empty Empty).RulesIn {"", "a"} := Finset.mem_insert_self _ _
  have isWritten : winding.ledger.written ⟨.parser 1, []⟩ = some (.rule "") := rfl
  have history : winding.Calls False (empty 0 .text) wound := .single (.resolve ⟨rfl, nofun⟩)
  obtain ⟨_, ⟨forced, forces, once, new, _⟩, exactly, isCircle⟩ :=
    calls_end_and_force_once history closed isWritten inside
  have old : wound.HandlesOld winding.rules ⟨.parser 1, []⟩ (.rule "") := by
    intro id meets
    rcases winding_meets meets with impossible | impossible <;> cases impossible
  refine ⟨⟨_, first⟩, fails, ⟨forced, forces, once, fun member => ?_⟩, ?_⟩
  · have unknown := new _ member
    rw [known] at unknown
    cases unknown
  · apply (isCircle old).mp
    apply (exactly _).mp ⟨_, fails, rfl⟩
    intro error isError
    rw [fails] at isError
    cases isError
    rfl

end Grammar

end Packrat
