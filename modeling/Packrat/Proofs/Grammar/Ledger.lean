import Packrat.Grammar
import Packrat.Proofs.Reference
import Mathlib.Logic.Function.Basic

/-!
# What slots were resolved from

A `Ledger` says of each origin what is written there, and of each slot what it was made
for.  From it follows what every slot stands for: a reference that one of the slots that
share its node was made for, or one that is unfolded to such a reference.  While a rule is
unfolded its slot stands for the rule, although nobody can know yet what that will be.
-/

namespace Packrat

variable {ω ρ : Type}

/-- What is written at each origin, and what each slot was made for. -/
structure Ledger (ω ρ : Type) where
  texts : Origin → Option (Reference ω ρ)
  made : NodeId → Reference ω ρ → Prop

namespace Ledger

/-- What is written at a place. -/
def written (ledger : Ledger ω ρ) (place : Place) : Option (Reference ω ρ) :=
  (ledger.texts place.origin).bind fun whole => whole.below? place.path

/-- The rule or delayed parser that a thunk is. -/
def Is (ledger : Ledger ω ρ) : Thunk → Reference ω ρ → Prop
  | .rule name, reference => reference = .rule name
  | .delayed place, reference =>
    ledger.written place = some reference ∧ ∃ label body, reference = .delayed label body

/-- Notes what a slot is made for. -/
def withMade (ledger : Ledger ω ρ) (slot : NodeId) (reference : Reference ω ρ) : Ledger ω ρ :=
  { ledger with
    made := fun other another =>
      ledger.made other another ∨ other = slot ∧ another = reference }

/-- Notes what is written at an origin. -/
def withText (ledger : Ledger ω ρ) (origin : Origin) (reference : Reference ω ρ) :
    Ledger ω ρ :=
  { ledger with texts := Function.update ledger.texts origin (some reference) }

theorem texts_withText (ledger : Ledger ω ρ) (origin : Origin) (reference : Reference ω ρ) :
    (ledger.withText origin reference).texts origin = some reference :=
  Function.update_self ..

theorem texts_withText_of_ne (ledger : Ledger ω ρ) {origin other : Origin}
    (different : other ≠ origin) (reference : Reference ω ρ) :
    (ledger.withText origin reference).texts other = ledger.texts other :=
  Function.update_of_ne different ..

/-- A ledger that got more entries while a grammar grew: none about its older slots. -/
structure Grows (g : Grammar ω ρ) (ledger later : Ledger ω ρ) : Prop where
  texts : ∀ origin reference, ledger.texts origin = some reference →
    later.texts origin = some reference
  fixed : ∀ origin, (∀ serial, origin ≠ .unfolding serial) →
    later.texts origin = ledger.texts origin
  made : ∀ slot reference, ledger.made slot reference → later.made slot reference
  fresh : ∀ slot reference, later.made slot reference → slot.number < g.size →
    ledger.made slot reference

variable {ledger middle later : Ledger ω ρ} {g g' : Grammar ω ρ}

theorem Grows.refl (g : Grammar ω ρ) (ledger : Ledger ω ρ) : Grows g ledger ledger :=
  ⟨fun _ _ found => found, fun _ _ => rfl, fun _ _ isMade => isMade, fun _ _ isMade _ => isMade⟩

theorem Grows.trans (first : Grows g ledger middle) (second : Grows g' middle later)
    (size : g.size ≤ g'.size) : Grows g ledger later where
  texts _ _ found := second.texts _ _ (first.texts _ _ found)
  fixed origin notUnfolding :=
    (second.fixed origin notUnfolding).trans (first.fixed origin notUnfolding)
  made _ _ isMade := second.made _ _ (first.made _ _ isMade)
  fresh _ _ isMade old :=
    first.fresh _ _ (second.fresh _ _ isMade (Nat.lt_of_lt_of_le old size)) old

theorem Grows.withMade (g : Grammar ω ρ) (ledger : Ledger ω ρ) {slot : NodeId}
    (new : g.size ≤ slot.number) (reference : Reference ω ρ) :
    Grows g ledger (ledger.withMade slot reference) where
  texts _ _ found := found
  fixed _ _ := rfl
  made _ _ isMade := .inl isMade
  fresh other _ isMade old := by
    rcases isMade with before | ⟨rfl, _⟩
    · exact before
    · omega

theorem Grows.withText (g : Grammar ω ρ) {ledger : Ledger ω ρ} {serial : Nat}
    (unknown : ledger.texts (.unfolding serial) = none) (reference : Reference ω ρ) :
    Grows g ledger (ledger.withText (.unfolding serial) reference) where
  texts origin other found := by
    by_cases same : origin = .unfolding serial
    · rw [same, unknown] at found
      cases found
    · exact (ledger.texts_withText_of_ne same _).trans found
  fixed _ notUnfolding := ledger.texts_withText_of_ne (notUnfolding serial) _
  made _ _ isMade := isMade
  fresh _ _ isMade _ := isMade

section

variable (texts : ∀ origin reference, ledger.texts origin = some reference →
  later.texts origin = some reference)

include texts

theorem written_mono {place : Place} {reference : Reference ω ρ}
    (there : ledger.written place = some reference) : later.written place = some reference := by
  obtain ⟨whole, found, below⟩ := Option.bind_eq_some_iff.mp there
  exact Option.bind_eq_some_iff.mpr ⟨whole, texts _ _ found, below⟩

theorem is_mono {thunk : Thunk} {reference : Reference ω ρ}
    (isThunk : ledger.Is thunk reference) : later.Is thunk reference := by
  cases thunk with
  | rule name => exact isThunk
  | delayed place => exact ⟨written_mono texts isThunk.1, isThunk.2⟩

end

theorem Grows.written (grows : Grows g ledger later) {place : Place}
    {reference : Reference ω ρ} (there : ledger.written place = some reference) :
    later.written place = some reference := written_mono grows.texts there

theorem Grows.is (grows : Grows g ledger later) {thunk : Thunk} {reference : Reference ω ρ}
    (isThunk : ledger.Is thunk reference) : later.Is thunk reference :=
  is_mono grows.texts isThunk

theorem Is.unique {thunk : Thunk} {reference other : Reference ω ρ}
    (isThunk : ledger.Is thunk reference) (isOther : ledger.Is thunk other) :
    reference = other := by
  cases thunk with
  | rule name => exact isThunk.trans isOther.symm
  | delayed place => exact Option.some.inj (isThunk.1.symm.trans isOther.1)

theorem written_child {place : Place} {reference child : Reference ω ρ} {index : Nat}
    (there : ledger.written place = some reference)
    (part : reference.part? index = some child) :
    ledger.written (place.child index) = some child := by
  obtain ⟨whole, found, below⟩ := Option.bind_eq_some_iff.mp there
  refine Option.bind_eq_some_iff.mpr ⟨whole, found, ?_⟩
  exact Option.bind_eq_some_iff.mpr ⟨reference, below, part⟩

end Ledger

end Packrat
