import Packrat.Proofs.Workspace.Order

/-!
# Runs inside runs

A function of a parser may run parsers of the workspace, those whose engines are in the
middle of a match among them.  What a parser comes to by itself is what it comes to when
every one of these runs has a new engine, and that is what it always comes to, however
deep inside other runs, and whatever has been run before.

A resolved parser runs as the original does where their engine is free.  Where the engine
is in the middle of a match the run gets another one, to which the resolved parser is
foreign.
-/

namespace Packrat

/-- A host that has answers to some requests.  Its world says whether it could answer all
that it was asked. -/
def Host.knowing {ω ρ : Type} (replies : ρ → Option (Answer ω)) : Host ω ρ Bool where
  answer request known :=
    match replies request with
    | some answer => (answer, known)
    | none => (.ok .unit, false)
  watch _ known := known

namespace Workspace

variable {ω : Type}

/-! ## What parsers come to by themselves -/

section

variable [Printable ω]

/-- What a function is told that has asked for a run. -/
def told : Except RunError (Value ω) → Answer ω
  | .ok value => .ok value
  | .error error => .error error.display

/-- What a parser comes to in a new engine, if its functions ask for nothing but what there
are replies to. -/
def alone (w : Workspace ω) (fuel : Nat) (replies : Request → Option (Answer ω))
    (parser : Parser ω Request) (input : Input ω) : Option (Except RunError (Value ω)) :=
  match (Engine.new w.grammars w.kind .standard).run w.rules (.knowing replies) fuel parser
    input .standard true with
  | (result, _, true) => result
  | (_, _, false) => none

/-- What functions are told when everything that they run has a new engine, unless runs are
more than `depth` deep inside each other or do not end.  Resolved parsers, which would need
the engine that they come from, are left out. -/
def replies (w : Workspace ω) (fuel : Nat) : Nat → Request → Option (Answer ω)
  | _, .note _ => some (.ok .unit)
  | 0, .run _ _ => none
  | depth + 1, .run name text =>
    match w.held.find? name with
    | none => some (.error ("there is no parser " ++ name))
    | some ⟨⟨_, .handle _ _⟩, _⟩ => none
    | some ⟨parser, _⟩ => (w.alone fuel (w.replies fuel depth) parser (.text text)).map told

/-- A parser comes to a result by itself: with a new engine for it, and for everything that
its functions run, and so on. -/
def Returns (w : Workspace ω) (parser : Parser ω Request) (input : Input ω)
    (result : Except RunError (Value ω)) : Prop :=
  ∃ fuel depth, w.alone fuel (w.replies fuel depth) parser input = some result

end

variable {owner : Nat → Option (Parser ω Request)} {w : Workspace ω}

/-! ## Runs -/

variable {first : Workspace ω}

/-- Where there is a reply, every workspace in order gives it. -/
def Replied (first : Workspace ω) (owner : Nat → Option (Parser ω Request))
    (replies : Request → Option (Answer ω))
    (answer : Request → Workspace ω → Answer ω × Workspace ω) : Prop :=
  ∀ request reply now, replies request = some reply → Kept owner now →
    now.kind = first.kind → now.rules = first.rules → now.held = first.held →
    (answer request now).1 = reply ∧ Kept owner (answer request now).2 ∧
      Resumes now (answer request now).2

/-- A workspace that has replies follows the host that knows nothing else. -/
theorem Replied.follows {replies : Request → Option (Answer ω)}
    {answer : Request → Workspace ω → Answer ω × Workspace ω}
    (replied : Replied first owner replies answer) {start : Workspace ω}
    (kind : start.kind = first.kind) (rules : start.rules = first.rules)
    (held : start.held = first.held) :
    (Host.knowing replies).Follows ⟨answer, watch⟩ (· = false)
      fun known now => known = true ∧ Kept owner now ∧ Resumes start now where
  keeps :=
    { answer := by
        rintro request known rfl
        simp only [Host.knowing]
        cases replies request <;> rfl
      watch := fun _ _ lost => lost }
  answer := by
    rintro request known now ⟨rfl, kept, resumes⟩
    simp only [Host.knowing]
    cases known : replies request with
    | none => exact .inl rfl
    | some reply =>
        obtain ⟨isReply, keptThen, resumesThen⟩ := replied request reply now known kept
          (resumes.kind.trans kind) (resumes.rules.trans rules) (resumes.held.trans held)
        exact .inr ⟨isReply.symm, rfl, keptThen, resumes.trans resumesThen⟩
  watch := by
    rintro _ event known now ⟨rfl, kept, resumes⟩
    exact ⟨rfl, (records_watch event now).kept kept,
      resumes.trans (records_watch event now).resumes⟩

section

variable [Printable ω]

theorem alone_eq_some_iff {fuel : Nat} {replies : Request → Option (Answer ω)}
    {parser : Parser ω Request} {input : Input ω} {result : Except RunError (Value ω)} :
    first.alone fuel replies parser input = some result ↔
      ((Engine.new first.grammars first.kind .standard).run first.rules (.knowing replies) fuel
          parser input .standard true).1 = some result ∧
        ((Engine.new first.grammars first.kind .standard).run first.rules (.knowing replies) fuel
          parser input .standard true).2.2 = true := by
  unfold Workspace.alone
  cases (Engine.new first.grammars first.kind .standard).run first.rules (.knowing replies) fuel
    parser input .standard true with
  | mk ended rest =>
      obtain ⟨engine, known⟩ := rest
      cases known <;> simp

/-- The call that runs a parser on a whole input. -/
def running (host : Host ω Request (Workspace ω)) (fuel : Nat) (parser : Parser ω Request)
    (input : Input ω) (options : Option Options) :
    Call ω (Option (Except RunError (Value ω))) := fun engine now =>
  engine.run now.rules host fuel parser input (options.getD engine.options) now

/-- What the owner of a cell comes to by itself, it comes to in every workspace in order. -/
theorem Replied.gives {replies : Request → Option (Answer ω)}
    {answer : Request → Workspace ω → Answer ω × Workspace ω}
    (replied : Replied first owner replies answer) {parser : Parser ω Request}
    (unmentioned : Engine.Unmentioned first.rules parser first.grammars) {fuel more : Nat}
    (enough : fuel ≤ more) {input : Input ω} {result : Except RunError (Value ω)}
    (alone : first.alone fuel replies parser input = some result) {w : Workspace ω}
    (kind : w.kind = first.kind) (rules : w.rules = first.rules) (held : w.held = first.held) :
    Gives owner w parser (running ⟨answer, watch⟩ more parser input none) (some result) := by
  intro engine number now unmentionedHere owned kept sameKind sameRules sameHeld
  rw [rules] at unmentionedHere
  rw [rules, kind] at owned ⊢
  have follows := @Replied.follows _ _ _ _ _ replied now (sameKind.trans kind)
    (sameRules.trans rules) (sameHeld.trans held)
  obtain ⟨ends, known⟩ := alone_eq_some_iff.mp alone
  rcases owned.run unmentionedHere unmentioned follows enough input
    ⟨rfl, kept, .refl now⟩ ends with isLost | ⟨isResult, _, keptThen, resumes⟩
  · rw [known] at isLost
    cases isLost
  · rw [running, sameRules.trans rules]
    refine ⟨isResult, ?_, keptThen, resumes⟩
    rw [Engine.run_engine]
    exact .resolveWhole owned

theorem replies_note (w : Workspace ω) (fuel depth : Nat) (label : String) :
    w.replies fuel depth (.note label) = some (.ok .unit) := by
  cases depth <;> rfl

/-- To count something is always possible. -/
theorem Kept.answer_note {now : Workspace ω} (kept : Kept owner now) (fuel depth : Nat)
    (label : String) :
    (answer fuel depth (.note label) now).1 = .ok .unit ∧
      Kept owner (answer fuel depth (.note label) now).2 ∧
      Resumes now (answer fuel depth (.note label) now).2 := by
  have records := records_note now label
  cases depth <;> exact ⟨rfl, records.kept kept, records.resumes⟩

theorem exists_alone_of_replies {name : String} {parser : Parser ω Request} {cell : Nat}
    (found : first.held.find? name = some ⟨parser, cell⟩) {fuel depth : Nat} {text : Text}
    {reply : Answer ω} (known : first.replies fuel (depth + 1) (.run name text) = some reply) :
    (∀ number id, parser.body ≠ .handle number id) ∧
      ∃ result, first.alone fuel (first.replies fuel depth) parser (.text text) = some result ∧
        told result = reply := by
  obtain ⟨identity, body⟩ := parser
  rw [replies, found] at known
  cases body
  case handle => cases known
  all_goals exact ⟨nofun, Option.map_eq_some_iff.mp known⟩

/-- A function is told what the run comes to that it has asked for. -/
theorem answer_run {w : Workspace ω} {name : String} {parser : Parser ω Request} {cell : Nat}
    (found : w.held.find? name = some ⟨parser, cell⟩) (fuel depth : Nat) (text : Text) :
    answer fuel (depth + 1) (.run name text) w =
      (((w.call cell (running ⟨answer fuel depth, watch⟩ fuel parser (.text text) none)).1.elim
          (.error "the run did not end") told),
        (w.call cell (running ⟨answer fuel depth, watch⟩ fuel parser (.text text) none)).2) := by
  have isCall : (w.call cell fun engine now => engine.run now.rules ⟨answer fuel depth, watch⟩
      fuel parser (.text text) engine.options now) =
      w.call cell (running ⟨answer fuel depth, watch⟩ fuel parser (.text text) none) := rfl
  simp only [answer, found, isCall]
  rcases w.call cell (running ⟨answer fuel depth, watch⟩ fuel parser (.text text) none) with
    ⟨_ | _ | _, later⟩ <;> rfl

/-- Replies are what every workspace in order answers, if it has the fuel. -/
theorem Kept.replied (kept : Kept owner first) {fuel more : Nat} (enough : fuel ≤ more)
    {depth deeper : Nat} (deep : depth ≤ deeper) :
    Replied first owner (first.replies fuel depth) (answer more deeper) := by
  induction depth generalizing deeper with
  | zero =>
      intro request reply now known keptNow kind rules held
      cases request with
      | note label =>
          cases (replies_note first fuel 0 label).symm.trans known
          exact keptNow.answer_note more deeper label
      | run => cases known
  | succ depth induction =>
      obtain ⟨deeper, rfl⟩ : ∃ less, deeper = less + 1 := ⟨deeper - 1, by omega⟩
      intro request reply now known keptNow kind rules held
      cases request with
      | note label =>
          cases (replies_note first fuel (depth + 1) label).symm.trans known
          exact keptNow.answer_note more (deeper + 1) label
      | run name text =>
          cases found : first.held.find? name with
          | none =>
              rw [replies, found] at known
              cases known
              rw [answer, held, found]
              exact ⟨rfl, keptNow, .refl now⟩
          | some there =>
              obtain ⟨parser, cell⟩ := there
              obtain ⟨original, result, alone, rfl⟩ := exists_alone_of_replies found known
              have isOwner : owner cell = some parser := by
                rcases kept.held name parser cell found with isOwner | ⟨number, id, resolved⟩
                · exact isOwner
                · exact absurd resolved (original number id)
              have gives := (induction (Nat.le_of_succ_le_succ deep)).gives
                (kept.new cell parser first.grammars isOwner (Nat.le_refl _)) enough alone kind
                rules held
              obtain ⟨isResult, keptThen, resumes⟩ := keptNow.called isOwner gives
              rw [answer_run (held ▸ found), isResult]
              exact ⟨rfl, keptThen, resumes⟩

end

/-! ## Resolved parsers -/

theorem call_congr {α : Type} {cell : Nat} {engine : Engine ω Request}
    (content : w.cells[cell]? = some (.idle engine)) (call other : Call ω α)
    (same : ∀ now, call engine now = other engine now) : w.call cell call = w.call cell other := by
  unfold Workspace.call callWith
  rw [content]
  simp only [same]

/-- The call that resolves a parser. -/
def resolving (parser : Parser ω Request) :
    Call ω (Except ResolveError (Reference ω Request)) := fun engine now =>
  match engine.resolve now.rules parser with
  | (.ok node, engine) => (.ok (engine.grammar.handle node), engine, now)
  | (.error error, engine) => (.error error, engine, now)

/-- A parser that has been resolved in a cell is known to the engine there. -/
theorem Kept.resolved (kept : Kept owner w) {cell : Nat} {parser : Parser ω Request}
    (isOwner : owner cell = some parser) (small : cell < w.cells.size)
    (free : w.cells[cell]? ≠ some .busy) {handle : Reference ω Request}
    (resolved : (w.resolve cell parser).1 = .ok handle) :
    ∃ engine root, engine.Steady ∧
      engine.grammar.number < (w.resolve cell parser).2.grammars ∧
      handle = engine.grammar.handle root ∧
      engine.grammar.Knows parser.body ⟨.parser parser.identity, []⟩ root ∧
      (w.resolve cell parser).2.cells[cell]? = some (.idle engine) := by
  have isCall : w.resolve cell parser = w.call cell (resolving parser) := rfl
  obtain ⟨start, engine, number, _, rules, _, cells, _, _, early, _, owned, called⟩ :=
    kept.call_free isOwner small free (resolving parser)
  rw [isCall, called] at resolved ⊢
  have steady := owned.steady
  have ownedThen := owned.resolve
  unfold putting callWith at resolved ⊢
  cases found : engine.resolve w.rules parser with
  | mk result later =>
      rw [found] at ownedThen
      rw [← rules] at found
      cases result with
      | error error =>
          simp only [resolving, found] at resolved
          cases resolved
      | ok root =>
          have knows := steady.tidy.knows_of_resolve (congrArg Prod.fst found)
          have records := records_noteUnfoldings
            { start with cells := start.cells.setIfInBounds cell .busy }
            engine.grammar.unfoldings.length later
          simp only [resolving, found] at resolved ⊢
          cases resolved
          refine ⟨later, root, ownedThen.steady, ?_, rfl, ?_, ?_⟩
          · rw [ownedThen.number_eq, records.grammars]
            exact early
          · rw [show later = (engine.resolve start.rules parser).2 by rw [found]]
            exact knows
          · rw [records.cells]
            simp [cells, small]

variable [Printable ω]

/-- Another parser runs as this one does, by itself and for the functions of others. -/
structure SameRuns (w : Workspace ω) (cell : Nat) (parser other : Parser ω Request) : Prop where
  outermost : ∀ fuel input options,
    w.run fuel cell other input options = w.run fuel cell parser input options
  inside : ∀ fuel depth name original text, w.held.find? name = some ⟨other, cell⟩ →
    w.held.find? original = some ⟨parser, cell⟩ →
    answer fuel depth (.run name text) w = answer fuel depth (.run original text) w

/-- A parser comes to a result, by itself and for the functions of others, and leaves the
workspace in order. -/
structure RunsTo (owner : Nat → Option (Parser ω Request)) (w : Workspace ω) (cell : Nat)
    (parser : Parser ω Request) (input : Input ω) (result : Except RunError (Value ω))
    (enough : Nat) : Prop where
  outermost : ∀ fuel, enough ≤ fuel →
    (w.run fuel cell parser input none).1 = some result ∧
      Kept owner (w.run fuel cell parser input none).2 ∧
      Resumes w (w.run fuel cell parser input none).2
  inside : ∀ fuel depth name text, enough ≤ fuel → enough ≤ depth → input = .text text →
    w.held.find? name = some ⟨parser, cell⟩ →
    (answer fuel depth (.run name text) w).1 = told result ∧
      Kept owner (answer fuel depth (.run name text) w).2 ∧
      Resumes w (answer fuel depth (.run name text) w).2

/-- A parser cannot be resolved, and does not affect anything. -/
structure RunsForeign (w : Workspace ω) (cell : Nat) (parser : Parser ω Request) (id : NodeId) :
    Prop where
  outermost : ∀ fuel input options,
    (w.run fuel cell parser input options).1 = some (.error (.resolve (.foreignNode id))) ∧
      (w.run fuel cell parser input options).2.cells = w.cells
  inside : ∀ fuel depth name text, w.held.find? name = some ⟨parser, cell⟩ →
    (answer fuel (depth + 1) (.run name text) w).1 =
        .error (ResolveError.foreignNode id).message ∧
      (answer fuel (depth + 1) (.run name text) w).2.cells = w.cells

theorem sameRuns_of_calls {engine now : Engine ω Request} (steady : engine.Steady)
    {parser : Parser ω Request} {root : NodeId}
    (knows : engine.grammar.Knows parser.body ⟨.parser parser.identity, []⟩ root)
    (calls : Engine.Calls engine now) {cell : Nat}
    (content : w.cells[cell]? = some (.idle now)) (identity : Nat) :
    SameRuns w cell parser ⟨identity, engine.grammar.handle root⟩ := by
  have same : ∀ (host : Host ω Request (Workspace ω)) (fuel : Nat) (input : Input ω)
      (options : Option Options),
      w.call cell (running host fuel ⟨identity, engine.grammar.handle root⟩ input options) =
        w.call cell (running host fuel parser input options) := fun _ _ _ _ =>
    call_congr content _ _ fun later =>
      Engine.run_congr (calls.resolve_handle steady knows later.rules identity) _ _ _ _ _
  constructor
  · exact fun fuel input options => same (host fuel) fuel input options
  · intro fuel depth name original text found foundOriginal
    cases depth with
    | zero => rfl
    | succ depth => rw [answer_run found, answer_run foundOriginal, same]

/-- In the middle of a match of the engine, a resolved parser is run by another one. -/
theorem runsForeign_of_busy {cell : Nat} (busy : w.cells[cell]? = some .busy) {number : Nat}
    (early : number < w.grammars) (identity : Nat) (id : NodeId) :
    RunsForeign w cell ⟨identity, .handle number id⟩ id := by
  have foreign : number ≠ (w.newEngine .standard).1.grammar.number := Nat.ne_of_lt early
  have fails : ∀ (host : Host ω Request (Workspace ω)) (fuel : Nat) (input : Input ω)
      (options : Option Options),
      (w.call cell (running host fuel ⟨identity, .handle number id⟩ input options)).1 =
          some (.error (.resolve (.foreignNode id))) ∧
        (w.call cell (running host fuel ⟨identity, .handle number id⟩ input options)).2.cells =
          w.cells := by
    intro host fuel input options
    rw [call_new fun _ => busy]
    have isError := Engine.resolveWhole_of_error
      (Engine.resolve_foreign foreign w.rules identity id)
    refine ⟨Engine.run_of_error _ _ _ _ _ _ _ _ isError, ?_⟩
    refine (records_noteUnfoldings _ _ _).cells.trans ?_
    have world : (running host fuel ⟨identity, .handle number id⟩ input options
        (w.newEngine .standard).1 (w.newEngine .standard).2).2.2 = (w.newEngine .standard).2 :=
      Engine.run_world_of_error isError fuel input _ _
    exact (congrArg cells world).trans rfl
  constructor
  · exact fun fuel input options => fails (host fuel) fuel input options
  · intro fuel depth name text found
    obtain ⟨isError, cells⟩ := fails ⟨answer fuel depth, watch⟩ fuel (.text text) none
    rw [answer_run found, isError]
    exact ⟨rfl, cells⟩

/-- What a parser comes to by itself, it comes to in every workspace in order, whichever
engines are in the middle of a match there. -/
theorem Kept.exists_runsTo (kept : Kept owner w) {cell : Nat} {parser : Parser ω Request}
    (isOwner : owner cell = some parser) {input : Input ω} {result : Except RunError (Value ω)}
    (returns : w.Returns parser input result) :
    ∃ enough, ∀ later, Kept owner later → later.kind = w.kind → later.rules = w.rules →
      later.held = w.held → RunsTo owner later cell parser input result enough := by
  obtain ⟨fuel, depth, alone⟩ := returns
  refine ⟨max fuel (depth + 1), fun later keptLater kind rules held => ?_⟩
  have gives : ∀ more deeper, fuel ≤ more → depth ≤ deeper → Gives owner later parser
      (running ⟨answer more deeper, watch⟩ more parser input none) (some result) :=
    fun more deeper enough deep => (kept.replied enough deep).gives
      (kept.new cell parser w.grammars isOwner (Nat.le_refl _)) enough alone kind rules held
  constructor
  · intro more enough
    exact keptLater.called isOwner (gives more more (by omega) (by omega))
  · rintro more deeper name text enough deep rfl found
    obtain ⟨deeper, rfl⟩ : ∃ less, deeper = less + 1 := ⟨deeper - 1, by omega⟩
    obtain ⟨isResult, keptThen, resumes⟩ :=
      keptLater.called isOwner (gives more deeper (by omega) (by omega))
    rw [answer_run found, isResult]
    exact ⟨rfl, keptThen, resumes⟩

/-- A parser that has been resolved by an engine that was free runs as the original does,
wherever that engine is free, be it by itself or for a function of another parser.  Where
the engine is in the middle of a match, the run is given another one, to which the resolved
parser is foreign.  The original comes everywhere to what it comes to by itself. -/
theorem resolved_runs_where_engine_is_free (kept : Kept owner w) {cell : Nat}
    {parser : Parser ω Request} (isOwner : owner cell = some parser)
    (small : cell < w.cells.size) (free : w.cells[cell]? ≠ some .busy)
    {handle : Reference ω Request} (resolved : (w.resolve cell parser).1 = .ok handle) :
    (∃ number id engine, handle = .handle number id ∧
      (w.resolve cell parser).2.cells[cell]? = some (.idle engine) ∧
      (∀ later now, Engine.Calls engine now → later.cells[cell]? = some (.idle now) →
        ∀ identity, SameRuns later cell parser ⟨identity, handle⟩) ∧
      ∀ later, (w.resolve cell parser).2.grammars ≤ later.grammars →
        later.cells[cell]? = some .busy → ∀ identity,
          RunsForeign later cell ⟨identity, handle⟩ id) ∧
    ∀ first input result, Kept owner first → first.Returns parser input result →
      ∃ enough, ∀ later, Kept owner later → later.kind = first.kind →
        later.rules = first.rules → later.held = first.held →
          RunsTo owner later cell parser input result enough := by
  obtain ⟨engine, root, steady, early, rfl, knows, content⟩ :=
    kept.resolved isOwner small free resolved
  refine ⟨⟨engine.grammar.number, engine.grammar.follow root, engine, rfl, content, ?_, ?_⟩, ?_⟩
  · exact fun later now calls there identity =>
      sameRuns_of_calls steady knows calls there identity
  · exact fun later more busy identity =>
      runsForeign_of_busy busy (Nat.lt_of_lt_of_le early more) identity _
  · exact fun first input result keptFirst returns => keptFirst.exists_runsTo isOwner returns

/-- A workspace that holds one parser, whose engine has not been made. -/
def desk (parser : Parser Empty Request) : Workspace Empty :=
  { empty .text (fun _ => .text "") with
    cells := #[.unused]
    held := (Table.empty : Table String (Held Empty)).insert "original" ⟨parser, 0⟩ }

def deskOwner (parser : Parser Empty Request) (cell : Nat) : Option (Parser Empty Request) :=
  if cell = 0 then some parser else none

theorem kept_desk {parser : Parser Empty Request}
    (avoids : ∀ number, parser.body.Avoids number) : Kept (deskOwner parser) (desk parser) := by
  constructor
  · intro cell other engine _ found
    rcases cell with _ | cell <;> simp [desk] at found
  · intro cell other number isOwner _
    rw [deskOwner] at isOwner
    split at isOwner
    next =>
      cases isOwner
      exact ⟨fun _ => trivial, avoids number⟩
    next => cases isOwner
  · intro name other cell found
    simp only [desk, Table.find?_insert] at found
    split at found
    next =>
      cases found
      exact .inl rfl
    next => cases found

/-- The letter a. -/
def letter : Parser Empty Request := ⟨0, .text "a"⟩

theorem letter_resolves :
    ((desk letter).resolve 0 letter).1.isOk = true ∧
      ((Engine.new 0 .text .standard).resolve (desk letter).rules letter).2.grammar.nodeCount = 1 ∧
      ((Engine.new 0 .text .standard).resolveWhole (desk letter).rules letter).1.isOk = true ∧
      ((Engine.new 0 .text .standard).resolveWhole (desk letter).rules letter).2.grammar.nodeCount
        = 3 := by
  decide +kernel

/-- The kinds of nodes that the letter and the end of the input are made of. -/
def Lettered (kind : Kind Empty Request) : Prop :=
  (∃ input, kind = .literal input (.text "a")) ∨ kind = .consume ∨ kind = .endOfInput

theorem silent_of_lettered (kind : Kind Empty Request) (lettered : Lettered kind)
    (g : Grammar Empty Request) (given : Vector NodeId kind.blueprint.arity) :
    (Grammar.assembled g kind.blueprint given).matcher.Silent := by
  rcases lettered with ⟨_, rfl⟩ | rfl | rfl
  · exact ⟨fun _ _ => trivial, fun _ _ _ _ => trivial⟩
  · refine ⟨fun _ _ => trivial, fun input position memory answer => ?_⟩
    obtain ⟨_, _, _ | _, _⟩ := memory <;> cases answer <;> exact trivial
  · exact ⟨fun _ _ => trivial, fun _ _ _ _ => trivial⟩

/-- What the letter is resolved to asks for nothing. -/
theorem letter_silent {root : NodeId}
    (resolved : ((Engine.new 0 .text .standard).resolve (desk letter).rules letter).1 = .ok root)
    (id : NodeId) (matcher : Matcher Empty Request)
    (found : ((Engine.new 0 .text .standard).resolveWhole (desk letter).rules
      letter).2.grammar.matcher? id = some matcher) : matcher.Silent := by
  have none : ∀ name, False → ((desk letter).rules name).MadeOf Lettered (fun _ => False)
      fun _ _ => True := fun _ impossible => impossible.elim
  have steady := (Engine.steady_new 0 .text .standard : (Engine.new 0 .text .standard :
    Engine Empty Request).Steady)
  have here : ((Engine.new 0 .text .standard).resolve (desk letter).rules
      letter).2.grammar.EachNode fun node => node.matcher.Silent :=
    (Grammar.EachNode.empty 0 .text).resolve steady.tidy none (.literal fun _ => .inl ⟨_, rfl⟩)
      silent_of_lettered _
  have there : ((Engine.new 0 .text .standard).resolveWhole (desk letter).rules
      letter).2.grammar.EachNode fun node => node.matcher.Silent := by
    rw [Engine.resolveWhole_of_ok resolved, Engine.wholeInput_grammar _ rfl]
    refine here.resolve (steady.resolveAt _ _ _).2.tidy none ?_ silent_of_lettered _
    refine @Reference.MadeOf.node _ _ _ _ _ .consume _ (fun _ => trivial) (.inr (.inl rfl)) ?_
    intro index
    dsimp only
    split
    next => exact .handle trivial
    next =>
      exact @Reference.MadeOf.node _ _ _ _ _ .endOfInput _ (fun _ => trivial) (.inr (.inr rfl))
        nofun
  obtain ⟨node, isNode, rfl⟩ := Option.map_eq_some_iff.mp found
  exact there _ node (Grammar.slot?_of_node? isNode)

theorem replies_desk (fuel : Nat) : (desk letter).replies fuel 0 = (desk letter).replies 0 0 :=
  funext fun request => by cases request <;> rfl

theorem letter_returns : ∃ result, (desk letter).Returns letter (.text ⟨#['a']⟩) result := by
  let reply : Request → Answer Empty := fun request =>
    ((Host.knowing ((desk letter).replies 0 0)).answer request true).1
  have answers : (Host.knowing ((desk letter).replies 0 0)).Answers reply := by
    intro request known
    cases request <;> rfl
  have stockOnly : Grammar.StockOnly (desk letter).rules letter.body :=
    ⟨fun _ => False, nofun, .literal fun _ => trivial⟩
  have start : (Engine.new 0 .text .standard : Engine Empty Request).Consistent :=
    .new 0 .text .standard
  have inStock root := @Engine.inStock_of_resolve _ _ (.new 0 .text .standard) root
    (desk letter).rules letter _ _ (.empty 0 .text) stockOnly
  have genuine := stockOnly.genuine
  obtain ⟨_, few, isOk, more⟩ := letter_resolves
  cases found : ((Engine.new 0 .text .standard).resolveWhole (desk letter).rules letter).1 with
  | error error =>
      rw [found] at isOk
      cases isOk
  | ok node =>
      obtain ⟨root, resolved⟩ := Engine.exists_resolve_of_resolveWhole found
      rcases start.run_comesTo (.text ⟨#['a']⟩) genuine inStock answers answers
        (rfl : Options.standard.memoize = true) rfl found true true with
        full | full | ⟨outcome, _, enough, runs⟩
      · refine absurd full (Engine.not_exhausts (start.resolve genuine).steady.tidy.acyclic
          inStock rfl rfl (Nat.zero_le _) ?_ true)
        rw [few]
        decide
      · refine absurd full (Engine.not_exhausts (start.resolveWhole genuine).steady.tidy.acyclic
          (fun _ isNode => start.inStock_of_resolveWhole genuine resolved isNode
            (inStock root resolved)) rfl rfl (Nat.zero_le _) ?_ true)
        rw [more]
        decide
      · have known : ((Engine.new 0 .text .standard).run (desk letter).rules
            (.knowing ((desk letter).replies 0 0)) enough letter (.text ⟨#['a']⟩) .standard
            true).2.2 = true := by
          have keeps : Job.Keeps ⟨((Engine.new 0 .text .standard).resolveWhole (desk letter).rules
              letter).2.grammar, .text ⟨#['a']⟩, true, none⟩
              (.knowing ((desk letter).replies 0 0)) (· = true) :=
            Job.keeps_of_silent (letter_silent resolved) fun _ _ known => known
          rw [Engine.run_eq_of_ok found]
          exact Job.run_keeps keeps enough node 0 rfl
        have alone := alone_eq_some_iff.mpr ⟨runs enough (Nat.le_refl _), known⟩
        rw [← replies_desk enough] at alone
        exact ⟨_, enough, 0, alone⟩

/-- The letter can be run by itself after it has been resolved. -/
theorem letter_runs_where_engine_is_free :
    ∃ handle, ((desk letter).resolve 0 letter).1 = .ok handle ∧
      (∃ number id engine, handle = .handle number id ∧
        ((desk letter).resolve 0 letter).2.cells[0]? = some (.idle engine) ∧
        SameRuns ((desk letter).resolve 0 letter).2 0 letter ⟨1, handle⟩) ∧
      ∃ result enough, (desk letter).Returns letter (.text ⟨#['a']⟩) result ∧
        RunsTo (deskOwner letter) (desk letter) 0 letter (.text ⟨#['a']⟩) result enough := by
  have kept : Kept (deskOwner letter) (desk letter) := kept_desk fun _ => trivial
  have isOwner : deskOwner letter 0 = some letter := rfl
  cases resolved : ((desk letter).resolve 0 letter).1 with
  | error error =>
      have isOk := letter_resolves.1
      rw [resolved] at isOk
      cases isOk
  | ok handle =>
      obtain ⟨⟨number, id, engine, isHandle, content, same, _⟩, runs⟩ :=
        resolved_runs_where_engine_is_free kept isOwner (by decide) nofun resolved
      obtain ⟨result, returns⟩ := letter_returns
      obtain ⟨enough, runsTo⟩ := runs (desk letter) (.text ⟨#['a']⟩) result kept returns
      exact ⟨handle, rfl, ⟨number, id, engine, isHandle, content,
        same _ engine .refl content 1⟩, result, enough, returns,
        runsTo (desk letter) kept rfl rfl rfl⟩

/-- A leaf with a function that runs the resolved parser on nothing, where there is
something. -/
def nosy : Parser Empty Request :=
  ⟨0, .node ⟨"nosy", 0, false, .label "nosy", fun _ =>
    { start := fun input position =>
        if input.isEmpty then .done (.success (.point position) .unit)
        else .ask (.run "resolved" ⟨#[]⟩) fun
          | .ok value => .done (.success (.between position input.length) value)
          | .error message => .done (.failure message (.point position))
      resume := fun _ _ _ result => .done result }⟩ nofun⟩

/-- A workspace that holds it, and what it has been resolved to. -/
def nosyDesk : Workspace Empty :=
  match (desk nosy).resolve 0 nosy with
  | (.ok handle, w) => w.define "resolved" ⟨⟨1, handle⟩, 0⟩
  | (.error _, w) => w

theorem resolveWhole_of_run_error {cell : Nat} {engine : Engine ω Request}
    (content : w.cells[cell]? = some (.idle engine)) {fuel : Nat} {parser : Parser ω Request}
    {input : Input ω} {options : Option Options} {error : ResolveError}
    (fails : (w.run fuel cell parser input options).1 = some (.error (.resolve error))) :
    (engine.resolveWhole w.rules parser).1 = .error error := by
  unfold Workspace.run call at fails
  rw [content] at fails
  exact Engine.run_eq_error_iff.mp fails

/-- To run the resolved parser in the middle of a match is not what it is to run the
original. -/
theorem nosy_is_told_of_a_foreign_node :
    ((nosyDesk.execute 9 0 nosy (.text ⟨#['a']⟩) none).1.bind fun executed =>
        executed.toOption.bind fun outcome => outcome.result.message?) =
      some (ResolveError.foreignNode ⟨0, capacity_pos⟩).message ∧
    ∀ fuel error, (nosyDesk.run fuel 0 nosy (.text ⟨#[]⟩) none).1 ≠
      some (.error (.resolve error)) := by
  refine ⟨by decide +kernel, fun fuel error fails => ?_⟩
  have resolves : (nosyDesk.engine? 0).any (fun engine =>
      (engine.resolveWhole nosyDesk.rules nosy).1.isOk) = true := by
    decide +kernel
  unfold engine? at resolves
  split at resolves
  next engine content =>
    have isError := resolveWhole_of_run_error content fails
    rw [Option.any_some, isError] at resolves
    cases resolves
  next => cases resolves

end Workspace

end Packrat
