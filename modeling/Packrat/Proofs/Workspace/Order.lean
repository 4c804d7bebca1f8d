import Packrat.Proofs.Ownership
import Packrat.Workspace

/-!
# Workspaces in order

The engine in a cell is used with the parser that owns the cell, and with what that has
been resolved to.  So whichever engine a call gets, the one of the cell or a new one because
that is busy, it is one that was only used with this parser; and a call that leaves engines
as it should leaves the workspace in order.
-/

namespace Packrat

namespace Workspace

variable {ω : Type}

/-- An engine of a cell with an owner was only used with the owner; the parsers that are
held are the owners of their cells, or have been resolved; and no owner holds handles of
engines that are yet to be made. -/
structure Kept (owner : Nat → Option (Parser ω Request)) (w : Workspace ω) : Prop where
  idle : ∀ cell parser engine, owner cell = some parser → w.cells[cell]? = some (.idle engine) →
    ∃ number < w.grammars, Engine.Unmentioned w.rules parser number ∧
      Engine.Owned w.rules w.kind parser number engine
  new : ∀ cell parser number, owner cell = some parser → w.grammars ≤ number →
    Engine.Unmentioned w.rules parser number
  held : ∀ name parser cell, w.held.find? name = some ⟨parser, cell⟩ →
    owner cell = some parser ∨ ∃ number id, parser.body = .handle number id

/-- The later workspace has the same rules and holds the same parsers, and the same engines
are in the middle of a match. -/
structure Resumes (w later : Workspace ω) : Prop where
  kind : later.kind = w.kind
  rules : later.rules = w.rules
  held : later.held = w.held
  grammars : w.grammars ≤ later.grammars
  busy : ∀ cell : Nat, later.cells[cell]? = some .busy ↔ w.cells[cell]? = some .busy

theorem Resumes.refl (w : Workspace ω) : Resumes w w :=
  ⟨rfl, rfl, rfl, Nat.le_refl _, fun _ => .rfl⟩

theorem Resumes.trans {w middle later : Workspace ω} (first : Resumes w middle)
    (second : Resumes middle later) : Resumes w later :=
  ⟨second.kind.trans first.kind, second.rules.trans first.rules, second.held.trans first.held,
    first.grammars.trans second.grammars, fun cell => (second.busy cell).trans (first.busy cell)⟩

variable {owner : Nat → Option (Parser ω Request)} {w : Workspace ω}

/-! ## What is recorded changes nothing else -/

/-- Two workspaces that differ in nothing but what is counted and recorded. -/
structure Records (w later : Workspace ω) : Prop where
  kind : later.kind = w.kind
  rules : later.rules = w.rules
  held : later.held = w.held
  cells : later.cells = w.cells
  grammars : later.grammars = w.grammars

theorem Records.resumes {later : Workspace ω} (records : Records w later) : Resumes w later :=
  ⟨records.kind, records.rules, records.held, Nat.le_of_eq records.grammars.symm,
    fun cell => by rw [records.cells]⟩

theorem Records.kept {later : Workspace ω} (records : Records w later) (kept : Kept owner w) :
    Kept owner later := by
  obtain ⟨kind, rules, held, cells, grammars⟩ := records
  constructor
  · rw [cells, rules, kind, grammars]
    exact kept.idle
  · rw [grammars, rules]
    exact kept.new
  · rw [held]
    exact kept.held

theorem records_note (w : Workspace ω) (label : String) : Records w (w.note label) :=
  ⟨rfl, rfl, rfl, rfl, rfl⟩

theorem records_watch (event : Event ω) (w : Workspace ω) : Records w (watch event w) := by
  unfold watch
  split <;> exact ⟨rfl, rfl, rfl, rfl, rfl⟩

theorem records_noteUnfoldings (w : Workspace ω) (before : Nat) (engine : Engine ω Request) :
    Records w (w.noteUnfoldings before engine) := by
  unfold noteUnfoldings
  dsimp only
  generalize List.filterMap id _ = labels
  induction labels generalizing w with
  | nil => exact ⟨rfl, rfl, rfl, rfl, rfl⟩
  | cons label labels induction =>
      obtain ⟨kind, rules, held, cells, grammars⟩ := induction (w.note label)
      exact ⟨kind, rules, held, cells, grammars⟩

/-! ## Calls -/

/-- The call comes to this result with any engine of the parser, and leaves the workspace
in order. -/
def Gives {α : Type} (owner : Nat → Option (Parser ω Request)) (w : Workspace ω)
    (parser : Parser ω Request) (call : Call ω α) (result : α) : Prop :=
  ∀ engine number now, Engine.Unmentioned w.rules parser number →
    Engine.Owned w.rules w.kind parser number engine → Kept owner now →
    now.kind = w.kind → now.rules = w.rules → now.held = w.held →
    (call engine now).1 = result ∧
      Engine.Owned w.rules w.kind parser number (call engine now).2.1 ∧
      Kept owner (call engine now).2.2 ∧ Resumes now (call engine now).2.2

theorem Gives.callWith {α : Type} {parser : Parser ω Request} {call : Call ω α} {result : α}
    (gives : Gives owner w parser call result) {engine : Engine ω Request} {number : Nat}
    {now : Workspace ω} (unmentioned : Engine.Unmentioned w.rules parser number)
    (owned : Engine.Owned w.rules w.kind parser number engine) (kept : Kept owner now)
    (kind : now.kind = w.kind) (rules : now.rules = w.rules) (held : now.held = w.held) :
    (now.callWith engine call).1 = result ∧
      Engine.Owned w.rules w.kind parser number (now.callWith engine call).2.1 ∧
      Kept owner (now.callWith engine call).2.2 ∧
      Resumes now (now.callWith engine call).2.2 := by
  obtain ⟨isResult, ownedThen, keptThen, resumes⟩ :=
    gives engine number now unmentioned owned kept kind rules held
  have records := records_noteUnfoldings (call engine now).2.2
    engine.grammar.unfoldings.length (call engine now).2.1
  exact ⟨isResult, ownedThen, records.kept keptThen, resumes.trans records.resumes⟩

section

variable {α : Type} {cell : Nat} {parser : Parser ω Request} {call : Call ω α} {result : α}

theorem Kept.setCell (kept : Kept owner w) (content : Cell ω)
    (isKept : ∀ parser engine, owner cell = some parser → content = .idle engine →
      ∃ number < w.grammars, Engine.Unmentioned w.rules parser number ∧
        Engine.Owned w.rules w.kind parser number engine) :
    Kept owner { w with cells := w.cells.setIfInBounds cell content } := by
  refine ⟨fun other parser engine isOwner found => ?_, kept.new, kept.held⟩
  rw [Array.getElem?_setIfInBounds] at found
  split at found
  next same =>
    split at found
    next =>
      subst same
      exact isKept parser engine isOwner (Option.some.inj found)
    next => cases found
  next => exact kept.idle other parser engine isOwner found

theorem Kept.newEngine (kept : Kept owner w) (options : Options) :
    Kept owner (w.newEngine options).2 :=
  ⟨fun cell parser engine isOwner found => by
      obtain ⟨number, small, isNew⟩ := kept.idle cell parser engine isOwner found
      exact ⟨number, Nat.lt_succ_of_lt small, isNew⟩,
    fun cell parser number isOwner large =>
      kept.new cell parser number isOwner (Nat.le_of_succ_le large),
    kept.held⟩

/-- An engine that is put back leaves its cell as free as it was. -/
theorem Resumes.putBack {later : Workspace ω} (small : cell < w.cells.size)
    (free : w.cells[cell]? ≠ some .busy)
    (resumes : Resumes { w with cells := w.cells.setIfInBounds cell .busy } later)
    (engine : Engine ω Request) :
    Resumes w { later with cells := later.cells.setIfInBounds cell (.idle engine) } := by
  refine ⟨resumes.kind, resumes.rules, resumes.held, resumes.grammars, fun other => ?_⟩
  have busy := resumes.busy other
  simp only [Array.getElem?_setIfInBounds] at busy ⊢
  by_cases same : cell = other
  · subst same
    rw [if_pos rfl, if_pos small] at busy
    have inside := (Array.getElem?_eq_some_iff.mp (busy.mpr rfl)).1
    rw [if_pos rfl, if_pos inside]
    simp [free]
  · rw [if_neg same] at busy ⊢
    exact busy

/-- What a call comes to that an engine carries out while its cell is busy. -/
def putting (w : Workspace ω) (cell : Nat) (engine : Engine ω Request) (call : Call ω α) :
    α × Engine ω Request × Workspace ω :=
  callWith { w with cells := w.cells.setIfInBounds cell .busy } engine call

/-- Where a cell is busy, a new engine carries out a call. -/
theorem call_new (busy : cell < w.cells.size → w.cells[cell]? = some .busy) (call : Call ω α) :
    w.call cell call =
      (((w.newEngine .standard).2.callWith (w.newEngine .standard).1 call).1,
        ((w.newEngine .standard).2.callWith (w.newEngine .standard).1 call).2.2) := by
  unfold Workspace.call
  rcases Nat.lt_or_ge cell w.cells.size with small | large
  · rw [busy small]
  · rw [Array.getElem?_eq_none large]

variable (kept : Kept owner w) (isOwner : owner cell = some parser)

include kept isOwner

/-- In a cell that is free, an engine of the owner's carries out a call and is put back. -/
theorem Kept.call_free (small : cell < w.cells.size) (free : w.cells[cell]? ≠ some .busy)
    (call : Call ω α) :
    ∃ start engine number, start.kind = w.kind ∧ start.rules = w.rules ∧ start.held = w.held ∧
      start.cells = w.cells ∧ w.grammars ≤ start.grammars ∧ Kept owner start ∧
      number < start.grammars ∧ Engine.Unmentioned w.rules parser number ∧
      Engine.Owned w.rules w.kind parser number engine ∧
      w.call cell call = ((start.putting cell engine call).1,
        { (start.putting cell engine call).2.2 with
          cells := (start.putting cell engine call).2.2.cells.setIfInBounds cell
            (.idle (start.putting cell engine call).2.1) }) := by
  unfold Workspace.call
  cases content : w.cells[cell]? with
  | none =>
      rw [Array.getElem?_eq_none_iff] at content
      omega
  | some there =>
      cases there with
      | idle engine =>
          obtain ⟨number, early, unmentioned, owned⟩ :=
            kept.idle cell parser engine isOwner content
          exact ⟨w, engine, number, rfl, rfl, rfl, rfl, Nat.le_refl _, kept, early, unmentioned,
            owned, rfl⟩
      | busy => exact absurd content free
      | unused =>
          exact ⟨(w.newEngine .standard).2, (w.newEngine .standard).1, w.grammars, rfl, rfl, rfl,
            rfl, Nat.le_succ _, kept.newEngine .standard, Nat.lt_succ_self _,
            kept.new cell parser w.grammars isOwner (Nat.le_refl _), .fresh, rfl⟩

/-- A call for the owner of a cell comes to the same with whichever engine it gets. -/
theorem Kept.called (gives : Gives owner w parser call result) :
    (w.call cell call).1 = result ∧ Kept owner (w.call cell call).2 ∧
      Resumes w (w.call cell call).2 := by
  by_cases free : cell < w.cells.size ∧ w.cells[cell]? ≠ some .busy
  · obtain ⟨start, engine, number, kind, rules, held, cells, later, keptStart, early,
      unmentioned, owned, called⟩ := kept.call_free isOwner free.1 free.2 call
    obtain ⟨isResult, ownedThen, keptThen, resumes⟩ :=
      gives.callWith unmentioned owned (keptStart.setCell .busy nofun) kind rules held
    rw [called]
    have putBack := Resumes.putBack (cells ▸ free.1) (cells ▸ free.2) resumes
      (start.putting cell engine call).2.1
    refine ⟨isResult, keptThen.setCell _ fun other found isOther same => ?_,
      putBack.kind.trans kind, putBack.rules.trans rules, putBack.held.trans held,
      later.trans putBack.grammars, cells ▸ putBack.busy⟩
    cases isOwner.symm.trans isOther
    cases same
    refine ⟨number, Nat.lt_of_lt_of_le early resumes.grammars, ?_, ?_⟩
    · rw [resumes.rules, rules]
      exact unmentioned
    · rw [resumes.rules, resumes.kind, rules, kind]
      exact ownedThen
  · have isNew := call_new (fun small => by_contra fun busy => free ⟨small, busy⟩) call
    obtain ⟨isResult, _, keptThen, resumes⟩ :=
      gives.callWith (kept.new cell parser w.grammars isOwner (Nat.le_refl _)) .fresh
        (kept.newEngine .standard) rfl rfl rfl
    rw [isNew]
    exact ⟨isResult, keptThen, resumes.kind, resumes.rules, resumes.held,
      Nat.le_of_succ_le resumes.grammars, resumes.busy⟩

end

end Workspace

end Packrat
