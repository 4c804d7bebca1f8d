import Packrat.Proofs.Combinator.Unrolling
import Packrat.Proofs.Defined

/-!
# Repetitions written out

A parser repeated exactly so many times is executed as the sequence of so many copies of
it is, as long as no copy but the last matches nothing; the repetition stops there and
fails, having too few.  A list of items with separators between them is executed as an item
in front of a repetition of separators and items.
-/

namespace Packrat

variable {κ χ ω ρ τ ι : Type}

/-- A row of parts goes by what its parts succeed with. -/
theorem Follows.transfer {answers : κ → Nat → Match (Value ω) → Prop}
    {others : χ → Nat → Match (Value ω) → Prop} {parts : List κ} {twins : List χ}
    (same : parts.length = twins.length)
    (related : ∀ part twin place span value, answers part place (.success span value) →
      others twin place (.success span value))
    {span covered : Span} {values : List (Value ω)} {value : Value ω}
    (follows : Follows answers span values parts (.success covered value)) :
    Follows others span values twins (.success covered value) := by
  induction parts generalizing span values twins with
  | nil =>
      obtain rfl := List.length_eq_zero_iff.mp same.symm
      cases follows
      exact .finished ..
  | cons part parts induction =>
      cases twins with
      | nil => cases same
      | cons twin twins =>
          cases follows with
          | next answered rest =>
              exact .next (related _ _ _ _ _ answered) (induction (Nat.succ.inj same) rest)

/-- A value in front of the values of a list. -/
def prepend (first : Value ω) : Value ω → Value ω
  | .list rest => .list (first :: rest)
  | other => .list [first, other]

namespace Grammar.Furnished

open Reference

variable [BEq ω] [Printable ω] {book : Book ω ρ} {ledger : Ledger ω ρ} {g : Grammar ω ρ}
  (furnished : Furnished book ledger g) {root : NodeId} {input : Input ω} {reply : ρ → Answer ω}
  {start : Nat}

include furnished

/-- A separated list goes from item to item, and takes in no separator behind the last. -/
theorem lists_of_separated {bounds : Bounds} (starts : bounds.Starts)
    {item separator : Reference ω ρ}
    (placed : Placed book ledger g root (.separated bounds item separator))
    (inside : start ≤ input.length) {span : Span} {value : Value ω}
    (evaluates : g.Evaluates input reply root start (.success span value)) :
    ∃ itemNode separatorNode values, g.child? root 0 = some itemNode ∧
      g.child? root 1 = some separatorNode ∧ value = .list values ∧
      Lists (g.Evaluates input reply itemNode) (g.Evaluates input reply separatorNode) start values
        span.stop := by
  obtain ⟨children, descriptions, each, evaluates_iff⟩ :=
    furnished.exists_evaluates_iff placed (.node (.separated bounds) _ trivial)
  obtain ⟨isItem, placedItem⟩ := each (0 : Fin 2)
  obtain ⟨isSeparator, placedSeparator⟩ := each (1 : Fin 2)
  have itemInside : ∀ place answer, place ≤ input.length →
      g.Evaluates input reply (children (0 : Fin 2)) place answer →
      answer.Inside place input.length :=
    fun place answer before evaluates => furnished.comes_inside placedItem before evaluates
  have separatorInside : ∀ place answer, place ≤ input.length →
      g.Evaluates input reply (children (1 : Fin 2)) place answer →
      answer.Inside place input.length :=
    fun place answer before evaluates => furnished.comes_inside placedSeparator before evaluates
  obtain ⟨left, first, answered, separates⟩ :=
    (gives_separated_iff starts).mp ((evaluates_iff ..).mp evaluates)
  have stops := (itemInside _ _ inside answered).stops
  obtain ⟨values, rfl, lists⟩ := lists_of_separates
    (fun index => g.Evaluates input reply (children index)) (0 : Fin 2) (1 : Fin 2) itemInside
    separatorInside separates rfl stops (.last answered)
  exact ⟨_, _, values, isItem, isSeparator, rfl, lists⟩

/-- Copies of a parser mean something in a row if the parser does. -/
theorem defined_copies {body : Reference ω ρ} {count : Nat}
    (placed : Placed book ledger g root (.ofList (List.replicate count body)))
    (defined : (book.reading g.kind input reply).Defined start body) :
    (book.reading g.kind input reply).Defined start (.ofList (List.replicate count body)) := by
  refine furnished.defined_of_parts placed (.sequence _ _) trivial fun index => ?_
  have isCopy : (List.replicate count body).get index = body :=
    List.eq_of_mem_replicate (List.get_mem _ index)
  rw [isCopy]
  exact defined

/-- An item in front of rounds means something if the item and the separator do. -/
theorem defined_chain {bounds : Bounds} {item separator : Reference ω ρ}
    (placed : Placed book ledger g root
      (.chain prepend item (.repeated bounds.rest (.keepSecond separator item))))
    (definedItem : (book.reading g.kind input reply).Defined start item)
    (definedSeparator : (book.reading g.kind input reply).Defined start separator) :
    (book.reading g.kind input reply).Defined start
      (.chain prepend item (.repeated bounds.rest (.keepSecond separator item))) := by
  obtain ⟨_, _, eachLink⟩ := furnished.exists_parts placed (.node (.tryChain _) _ trivial)
  have placedRest := (eachLink (1 : Fin 2)).2
  obtain ⟨_, _, eachPair⟩ :=
    furnished.exists_parts placedRest (.node (.repeated bounds.rest) _ trivial)
  have definedPair :=
    furnished.defined_of_parts (eachPair (0 : Fin 1)).2 (.node .keepSecond _ trivial)
    trivial (Fin.forall_fin_two.mpr ⟨definedSeparator, definedItem⟩)
  have definedRest :=
    furnished.defined_of_parts placedRest (.node (.repeated bounds.rest) _ trivial)
    trivial fun _ => definedPair
  exact furnished.defined_of_parts placed (.node (.tryChain _) _ trivial) trivial
    (Fin.forall_fin_two.mpr ⟨definedItem, definedRest⟩)

variable {others : Ledger ω ρ} {g' : Grammar ω ρ} (furnishedThere : Furnished book others g')
  (sameKind : g'.kind = g.kind) {there : NodeId}

include furnishedThere sameKind

/-- Where a parser is repeated exactly so many times, so many copies succeed in a row, but
the other way round only if no copy but the last is empty. -/
theorem exactly_iff_sequence {body : Reference ω ρ} {count : Nat}
    (placed : Placed book ledger g root (.repeated (.exactly count) body))
    (placedThere : Placed book others g' there (.ofList (List.replicate count body)))
    (inside : start ≤ input.length) {span : Span} {value : Value ω} :
    g.Evaluates input reply root start (.success span value) ↔
      g'.Evaluates input reply there start (.success span value) ∧
      ∃ child, g.child? root 0 = some child ∧
        Strides (g.Evaluates input reply child) start count := by
  obtain ⟨children, descriptions, each, evaluates⟩ :=
    furnished.exists_evaluates_iff placed (.node (.repeated (.exactly count)) _ trivial)
  obtain ⟨copies, otherDescriptions, eachCopy, evaluatesThere⟩ :=
    furnishedThere.exists_evaluates_iff placedThere (.sequence _ _)
  obtain ⟨isChild, placedChild⟩ := each (0 : Fin 1)
  have placedCopy : ∀ index, Placed book others g' (copies index) body := by
    intro index
    have isCopy : (List.replicate count body).get index = body :=
      List.eq_of_mem_replicate (List.get_mem _ index)
    exact isCopy ▸ (eachCopy index).2
  have childInside : ∀ place answer, place ≤ input.length →
      g.Evaluates input reply (children (0 : Fin 1)) place answer →
      answer.Inside place input.length :=
    fun place answer before evaluates => furnished.comes_inside placedChild before evaluates
  have sameLength : (List.replicate count (0 : Fin 1)).length =
      (List.ofFn (id : Fin (List.replicate count body).length → _)).length := by simp
  rw [evaluates, evaluatesThere]
  constructor
  · intro gives
    cases gives with
    | repeated repeats =>
        obtain ⟨follows, strides⟩ :=
          follows_of_repeats (fun index => g.Evaluates input reply (children index)) (0 : Fin 1)
            childInside repeats rfl (Nat.zero_le count) inside
        refine ⟨.sequence (follows.transfer sameLength ?_), _, isChild, strides⟩
        intro part copy place span value
        exact (furnished.success_iff (each part).2 furnishedThere sameKind (placedCopy copy)).mp
  · rintro ⟨gives, child, isAlsoChild, strides⟩
    obtain rfl := Option.some.inj (isChild.symm.trans isAlsoChild)
    cases gives with
    | sequence follows =>
        refine .repeated (repeats_of_follows (fun index => g.Evaluates input reply (children index))
          (0 : Fin 1) childInside ?_ (follows.transfer sameLength.symm ?_)
          strides (Nat.zero_add count) inside)
        · intro place span value answer before succeeds evaluates
          exact evaluates.unique succeeds
        · intro copy part place span value
          exact (furnished.success_iff (each part).2 furnishedThere sameKind (placedCopy copy)).mpr

/-- Where so many copies of a parser succeed in a row, the parser repeated exactly so many
times fails only because it has found too few. -/
theorem exists_tooFew {body : Reference ω ρ} {count : Nat}
    (placed : Placed book ledger g root (.repeated (.exactly count) body))
    (placedThere : Placed book others g' there (.ofList (List.replicate count body)))
    (inside : start ≤ input.length) {span : Span} {value : Value ω} {result : Match (Value ω)}
    (fails : g.Evaluates input reply root start result) (isFailure : result.isSuccess = false)
    (succeeds : g'.Evaluates input reply there start (.success span value)) :
    ∃ description found reached, found < count ∧
      result = (Bounds.exactly count).tooFew description found reached := by
  obtain ⟨children, descriptions, each, evaluates⟩ :=
    furnished.exists_evaluates_iff placed (.node (.repeated (.exactly count)) _ trivial)
  obtain ⟨copies, _, eachCopy, evaluatesThere⟩ :=
    furnishedThere.exists_evaluates_iff placedThere (.sequence _ _)
  have placedChild := (each (0 : Fin 1)).2
  have placedCopy : ∀ index, Placed book others g' (copies index) body := by
    intro index
    have isCopy : (List.replicate count body).get index = body :=
      List.eq_of_mem_replicate (List.get_mem _ index)
    exact isCopy ▸ (eachCopy index).2
  have sameLength : (List.ofFn (id : Fin (List.replicate count body).length → _)).length =
      (List.replicate count (0 : Fin 1)).length := by simp
  have repeats := gives_repeated_iff.mp ((evaluates ..).mp fails)
  cases (evaluatesThere ..).mp succeeds with
  | sequence follows =>
      have row : Follows (fun index => g.Evaluates input reply (children index)) (.point start) []
          (List.replicate count (0 : Fin 1)) (.success span value) := by
        refine follows.transfer sameLength ?_
        intro copy part place span value
        exact (furnished.success_iff (each part).2 furnishedThere sameKind (placedCopy copy)).mpr
      obtain ⟨found, reached, few, isTooFew⟩ := exists_tooFew_of_follows
        (fun index => g.Evaluates input reply (children index)) (0 : Fin 1)
        (fun place answer before evaluates => furnished.comes_inside placedChild before evaluates)
        (fun place span value answer before succeeds evaluates => evaluates.unique succeeds)
        repeats row isFailure (Nat.zero_le count) inside
      exact ⟨_, found, reached, few, isTooFew⟩

/-- A separator and then an item make a round, be it one parser or two that are matched one
after the other. -/
theorem rounds {item separator : Reference ω ρ} {itemNode separatorNode pairNode : NodeId}
    (placedItem : Placed book ledger g itemNode item)
    (placedSeparator : Placed book ledger g separatorNode separator)
    (placedPair : Placed book others g' pairNode (.keepSecond separator item)) :
    Rounds (g'.Evaluates input reply pairNode) (g.Evaluates input reply separatorNode)
      (g.Evaluates input reply itemNode) := by
  obtain ⟨children, descriptions, each, evaluates⟩ :=
    furnishedThere.exists_evaluates_iff placedPair (.node .keepSecond _ trivial)
  have placedFirst : Placed book others g' (children (0 : Fin 2)) separator := (each (0 : Fin 2)).2
  have placedSecond : Placed book others g' (children (1 : Fin 2)) item := (each (1 : Fin 2)).2
  constructor
  · intro place span value
    rw [evaluates, Kind.plan, gives_pair_iff]
    constructor
    · rintro ⟨between, skipped, next, _, separated, answered, rfl, rfl⟩
      exact ⟨between, skipped, next,
        (furnished.success_iff placedSeparator furnishedThere sameKind placedFirst).mpr separated,
        (furnished.success_iff placedItem furnishedThere sameKind placedSecond).mpr answered, rfl⟩
    · rintro ⟨between, skipped, next, separated, answered, rfl⟩
      exact ⟨between, skipped, next, value,
        (furnished.success_iff placedSeparator furnishedThere sameKind placedFirst).mp separated,
        (furnished.success_iff placedItem furnishedThere sameKind placedSecond).mp answered,
        rfl, rfl⟩
  · intro place
    constructor
    · rintro ⟨message, span, fails⟩
      have gives := (evaluates ..).mp fails
      generalize isResult : Match.failure message span = result at gives
      cases gives with
      | noFirst failed =>
          exact .inl (furnishedThere.exists_failure_of_failure placedFirst furnished sameKind.symm
            placedSeparator failed)
      | noSecond separated failed =>
          obtain ⟨reason, place, failed⟩ := furnishedThere.exists_failure_of_failure placedSecond
            furnished sameKind.symm placedItem failed
          exact .inr ⟨_, _, reason, place,
            (furnished.success_iff placedSeparator furnishedThere sameKind placedFirst).mpr
              separated,
            failed⟩
      | pair => cases isResult
    · rintro (⟨_, _, failed⟩ | ⟨_, _, _, _, separated, failed⟩)
      · obtain ⟨reason, place, failed⟩ := furnished.exists_failure_of_failure placedSeparator
          furnishedThere sameKind placedFirst failed
        exact ⟨reason, place, (evaluates ..).mpr (.noFirst failed)⟩
      · obtain ⟨reason, place, failed⟩ := furnished.exists_failure_of_failure placedItem
          furnishedThere sameKind placedSecond failed
        have separated :=
          (furnished.success_iff placedSeparator furnishedThere sameKind placedFirst).mp separated
        exact ⟨reason, place, (evaluates ..).mpr (.noSecond separated failed)⟩

/-- A list of items with separators between them is an item in front of rounds. -/
theorem separated_iff_chain {bounds : Bounds} (starts : bounds.Starts)
    {item separator : Reference ω ρ}
    (placed : Placed book ledger g root (.separated bounds item separator))
    (placedThere : Placed book others g' there
      (.chain prepend item (.repeated bounds.rest (.keepSecond separator item))))
    (inside : start ≤ input.length) {span : Span} {value : Value ω} :
    g.Evaluates input reply root start (.success span value) ↔
      g'.Evaluates input reply there start (.success span value) := by
  obtain ⟨children, descriptions, each, evaluates⟩ :=
    furnished.exists_evaluates_iff placed (.node (.separated bounds) _ trivial)
  obtain ⟨links, _, eachLink, evaluatesThere⟩ :=
    furnishedThere.exists_evaluates_iff placedThere (.node (.tryChain _) _ trivial)
  have placedItem : Placed book ledger g (children (0 : Fin 2)) item := (each (0 : Fin 2)).2
  have placedSeparator : Placed book ledger g (children (1 : Fin 2)) separator :=
    (each (1 : Fin 2)).2
  have placedFirst : Placed book others g' (links (0 : Fin 2)) item := (eachLink (0 : Fin 2)).2
  have placedRest : Placed book others g' (links (1 : Fin 2))
      (.repeated bounds.rest (.keepSecond separator item)) := (eachLink (1 : Fin 2)).2
  obtain ⟨pairs, restDescriptions, eachPair, evaluatesRest⟩ :=
    furnishedThere.exists_evaluates_iff placedRest (.node (.repeated bounds.rest) _ trivial)
  have isRounds : Rounds (g'.Evaluates input reply (pairs (0 : Fin 1)))
      (g.Evaluates input reply (children (1 : Fin 2)))
      (g.Evaluates input reply (children (0 : Fin 2))) :=
    furnished.rounds furnishedThere sameKind placedItem placedSeparator (eachPair (0 : Fin 1)).2
  have itemInside : ∀ place answer, place ≤ input.length →
      g.Evaluates input reply (children (0 : Fin 2)) place answer →
      answer.Inside place input.length :=
    fun place answer before evaluates => furnished.comes_inside placedItem before evaluates
  have separatorInside : ∀ place answer, place ≤ input.length →
      g.Evaluates input reply (children (1 : Fin 2)) place answer →
      answer.Inside place input.length :=
    fun place answer before evaluates => furnished.comes_inside placedSeparator before evaluates
  rw [evaluates, evaluatesThere, Kind.plan, gives_separated_iff starts, Kind.plan, gives_pair_iff]
  constructor
  · rintro ⟨left, first, answered, separates⟩
    have stops := (itemInside _ _ inside answered).stops
    obtain ⟨last, rest, repeats, rfl, rfl⟩ := repeats_of_separates
      (fun index => g.Evaluates input reply (children index))
      (fun index => g'.Evaluates input reply (pairs index)) (0 : Fin 2) (1 : Fin 2) (0 : Fin 1)
      isRounds itemInside separatorInside starts (restDescriptions (0 : Fin 1)) separates rfl rfl
      (List.nil_append _).symm (.first stops)
    exact ⟨left, first, last, .list rest,
      (furnished.success_iff placedItem furnishedThere sameKind placedFirst).mp answered,
      (evaluatesRest ..).mpr (.repeated repeats), rfl, rfl⟩
  · rintro ⟨left, first, last, rest, answered, repeated, rfl, rfl⟩
    have answered :=
      (furnished.success_iff placedItem furnishedThere sameKind placedFirst).mpr answered
    have stops := (itemInside _ _ inside answered).stops
    obtain ⟨rest, rfl, separates⟩ := separates_of_repeats
      (fun index => g.Evaluates input reply (children index))
      (fun index => g'.Evaluates input reply (pairs index)) (0 : Fin 2) (1 : Fin 2) (0 : Fin 1)
      isRounds itemInside separatorInside starts
      (gives_repeated_iff.mp ((evaluatesRest ..).mp repeated)) rfl (.first stops)
    exact ⟨left, first, answered, separates⟩

end Grammar.Furnished

namespace Engine

open Grammar Reference

variable [BEq ω] [Printable ω] {book : Book ω ρ} {number otherNumber : Nat}
  {kind : InputKind} {engine later twin twinLater : Engine ω ρ}
  {self other : Parser ω ρ} {root otherRoot : NodeId} {host : Host ω ρ τ} {guest : Host ω ρ ι}
  {reply : ρ → Answer ω} {options : Options}

/-- Two parsers that mean something where they are executed are both executed to an end, and
to what their nodes evaluate to. -/
theorem exists_comesTo_both {ledger others : Ledger ω ρ}
    (furnished : Furnished book ledger later.grammar)
    (placed : Placed book ledger later.grammar root self.body)
    (furnishedThere : Furnished book others twinLater.grammar)
    (placedThere : Placed book others twinLater.grammar otherRoot other.body)
    (sameKind : twinLater.grammar.kind = later.grammar.kind)
    (resolved : engine.resolve book.rules self = (.ok root, later))
    (otherResolved : twin.resolve book.rules other = (.ok otherRoot, twinLater))
    (answers : host.Answers reply) (guestAnswers : guest.Answers reply) {input : Input ω}
    (unlimited : options.stepLimit = none) (memoize : Bool)
    (means : options.start ≤ input.length →
      (book.reading later.grammar.kind input reply).Defined options.start self.body ∧
      (book.reading later.grammar.kind input reply).Defined options.start other.body)
    (world : τ) (elsewhere : ι) :
    Exhausts (.ok root, later) host input options world ∨
    Exhausts (.ok otherRoot, twinLater) guest input { options with memoize } elsewhere ∨
    ∃ outcome otherOutcome,
      ComesTo (fun fuel => (engine.execute book.rules host fuel self input options world).1)
        (.ok outcome) ∧
      ComesTo (fun fuel => (twin.execute book.rules guest fuel other input
        { options with memoize } elsewhere).1) (.ok otherOutcome) ∧
      (options.start ≤ input.length →
        later.grammar.Evaluates input reply root options.start outcome.result) ∧
      ∀ span value,
        (outcome.result = .success span value ↔ options.start ≤ input.length ∧
          later.grammar.Evaluates input reply root options.start (.success span value)) ∧
        (otherOutcome.result = .success span value ↔ options.start ≤ input.length ∧
          twinLater.grammar.Evaluates input reply otherRoot options.start
            (.success span value)) := by
  rcases exists_comesTo_of_means furnished placed resolved answers unlimited
    (fun inside => (means inside).1 _ (Nat.le_refl _) inside) world with
    full | ⟨outcome, comes, evaluates, succeeds⟩
  · exact .inl full
  rcases @exists_comesTo_of_means _ _ _ _ _ _ _ _ _ _ _ furnishedThere placedThere otherResolved _ _
    guestAnswers _ { options with memoize } unlimited
    (fun inside => sameKind ▸ (means inside).2 _ (Nat.le_refl _) inside) elsewhere with
    full | ⟨otherOutcome, otherComes, _, otherSucceeds⟩
  · exact .inr (.inl full)
  exact .inr (.inr ⟨outcome, otherOutcome, comes, otherComes, evaluates,
    fun span value => ⟨succeeds span value, otherSucceeds span value⟩⟩)

/-- A parser repeated exactly so many times is executed as the sequence of so many copies of
it, but for one thing: where a copy before the last one matches nothing, the repetition
stops short, and fails with how few it has found. -/
theorem exact_repetition_executes_as_sequence (stock : book.Stock) {body : Reference ω ρ}
    {count : Nat} (isSelf : self.body = .repeated (.exactly count) body)
    (isOther : other.body = .ofList (List.replicate count body))
    (written : book.parsers self.identity = self.body)
    (otherWritten : book.parsers other.identity = other.body)
    (history : Continues book (.empty number kind) engine.grammar)
    (otherHistory : Continues book (.empty otherNumber kind) twin.grammar)
    (resolved : engine.resolve book.rules self = (.ok root, later))
    (otherResolved : twin.resolve book.rules other = (.ok otherRoot, twinLater))
    (answers : host.Answers reply) (guestAnswers : guest.Answers reply) (input : Input ω)
    (unlimited : options.stepLimit = none) (memoize : Bool)
    (apart : ∀ child place, later.grammar.child? root 0 = some child → options.start ≤ place →
      place ≤ input.length →
      ¬later.grammar.LeftRecursive input reply (later.grammar.spot child place))
    (world : τ) (elsewhere : ι) :
    Exhausts (.ok root, later) host input options world ∨
    Exhausts (.ok otherRoot, twinLater) guest input { options with memoize } elsewhere ∨
    ∃ outcome otherOutcome,
      ComesTo (fun fuel => (engine.execute book.rules host fuel self input options world).1)
        (.ok outcome) ∧
      ComesTo (fun fuel => (twin.execute book.rules guest fuel other input
        { options with memoize } elsewhere).1) (.ok otherOutcome) ∧
      (∀ span value, outcome.result = .success span value ↔
        otherOutcome.result = .success span value ∧
        ∃ child, later.grammar.child? root 0 = some child ∧
          Strides (later.grammar.Evaluates input reply child) options.start count) ∧
      (otherOutcome.result.isSuccess = true → outcome.result.isSuccess = false →
        ∃ description found reached, found < count ∧
          outcome.result = (Bounds.exactly count).tooFew description found reached) := by
  obtain ⟨isKind, ledger, furnished, placed⟩ := exists_furnished stock written history resolved
  obtain ⟨isKindThere, others, furnishedThere, placedThere⟩ :=
    exists_furnished stock otherWritten otherHistory otherResolved
  have sameKind := isKindThere.trans isKind.symm
  have placedSelf := isSelf ▸ placed
  have placedOther := isOther ▸ placedThere
  have means (_ : options.start ≤ input.length) :
      (book.reading later.grammar.kind input reply).Defined options.start self.body ∧
      (book.reading later.grammar.kind input reply).Defined options.start other.body := by
    obtain ⟨children, _, each⟩ :=
      furnished.exists_parts placedSelf (.node (.repeated (.exactly count)) _ trivial)
    obtain ⟨isChild, placedChild⟩ := each (0 : Fin 1)
    have defined : (book.reading later.grammar.kind input reply).Defined options.start body :=
      (furnished.defined_iff_apart placedChild).mpr fun place => apart _ place isChild
    rw [isSelf, isOther]
    exact ⟨furnished.defined_of_parts placedSelf (.node (.repeated (.exactly count)) _ trivial)
      trivial fun _ => defined,
      sameKind ▸ furnishedThere.defined_copies placedOther (sameKind ▸ defined)⟩
  rcases exists_comesTo_both furnished placed furnishedThere placedThere sameKind resolved
    otherResolved answers guestAnswers unlimited memoize means world elsewhere with
    full | full | ⟨outcome, otherOutcome, comes, otherComes, evaluates, succeeds⟩
  · exact .inl full
  · exact .inr (.inl full)
  refine .inr (.inr ⟨outcome, otherOutcome, comes, otherComes, fun span value => ?_, ?_⟩)
  · rw [(succeeds span value).1, (succeeds span value).2, and_assoc]
    exact and_congr_right fun inside =>
      furnished.exactly_iff_sequence furnishedThere sameKind placedSelf placedOther inside
  · intro copiesSucceed fails
    cases isResult : otherOutcome.result with
    | failure message span =>
        rw [isResult] at copiesSucceed
        cases copiesSucceed
    | success span value =>
        obtain ⟨inside, there⟩ := (succeeds span value).2.mp isResult
        exact furnished.exists_tooFew furnishedThere sameKind placedSelf placedOther inside
          (evaluates inside) fails there

end Engine

/-! ## Rows of letters -/

namespace Rows

open Grammar Reference

def rules : Rules Empty Empty := fun name =>
  if name = "letter" then .any else .optional (.rule "letter")

/-- Two characters or fewer as a repetition and as a sequence; characters with others
between them as a list, and as a character in front of a repetition. -/
def parsers (identity : Nat) : Reference Empty Empty :=
  if identity = 0 then .repeated (.exactly 2) (.rule "maybe")
  else if identity = 1 then .ofList (List.replicate 2 (.rule "maybe"))
  else if identity = 2 then .separated .atLeastOnce (.rule "letter") (.rule "maybe")
  else .chain prepend (.rule "letter")
    (.repeated Bounds.atLeastOnce.rest (.keepSecond (.rule "maybe") (.rule "letter")))

theorem ordinary_rules (name : String) : (rules name).Ordinary parsers := by
  unfold rules
  split
  next => exact .node .any (fun _ => trivial) trivial nofun
  next => exact .node .optional (fun _ => trivial) trivial fun _ => .rule _

theorem ordinary_parsers (identity : Nat) : (parsers identity).Ordinary parsers := by
  unfold parsers
  split
  next => exact .node (.repeated _) (fun _ => trivial) trivial fun _ => .rule _
  split
  next =>
    have each (index : Fin (List.replicate 2 (.rule "maybe" : Reference Empty Empty)).length) :
        ((List.replicate 2 (.rule "maybe")).get index).Ordinary parsers := by
      rw [List.eq_of_mem_replicate (List.get_mem _ index)]
      exact .rule _
    exact ⟨.sequence trivial fun index => (each index).made,
      .sequence fun index => (each index).faithful⟩
  split
  next =>
    exact .node (.separated _) (fun _ => trivial) trivial
      (Fin.forall_fin_two.mpr ⟨.rule _, .rule _⟩)
  next =>
    have pair : (.keepSecond (.rule "maybe") (.rule "letter") : Reference Empty Empty).Ordinary
        parsers := .node .keepSecond (fun _ => trivial) trivial
      (Fin.forall_fin_two.mpr ⟨.rule _, .rule _⟩)
    have rounds := Ordinary.node (.repeated Bounds.atLeastOnce.rest) (fun _ => trivial) trivial
      fun _ => pair
    exact .node (.tryChain _) (fun _ => trivial) trivial
      (Fin.forall_fin_two.mpr ⟨.rule _, rounds⟩)

def book : Book Empty Empty where
  rules := rules
  parsers := parsers
  rule_faithful name := (ordinary_rules name).faithful
  parser_faithful identity := (ordinary_parsers identity).faithful

theorem book_stock : book.Stock :=
  ⟨fun name => (ordinary_rules name).made, fun identity => (ordinary_parsers identity).made⟩

section

variable {ledger : Ledger Empty Empty} {g : Grammar Empty Empty}
  (furnished : Furnished book ledger g) {id : NodeId} {input : Input Empty}

include furnished

theorem defined_letter (placed : Placed book ledger g id (.rule "letter")) :
    (book.reading g.kind input Empty.elim).Defined 0 (.rule "letter") :=
  furnished.defined_of_parts placed (.opened (.rule _) (.node .any _ trivial)) trivial nofun

theorem defined_maybe (placed : Placed book ledger g id (.rule "maybe")) :
    (book.reading g.kind input Empty.elim).Defined 0 (.rule "maybe") := by
  obtain ⟨_, _, each⟩ :=
    furnished.exists_parts placed (.opened (.rule _) (.node .optional _ trivial))
  exact furnished.defined_of_parts placed (.opened (.rule _) (.node .optional _ trivial)) trivial
    fun _ => defined_letter furnished (each (0 : Fin 1)).2

variable {letters : Array Char} {place : Nat}

theorem evaluates_letter (placed : Placed book ledger g id (.rule "letter")) {letter : Char}
    (found : letters[place]? = some letter) :
    g.Evaluates (.text ⟨letters⟩) Empty.elim id place
      (.success (.between place (place + 1)) (.char letter)) := by
  obtain ⟨_, _, _, evaluates⟩ :=
    furnished.exists_evaluates_iff placed (.opened (.rule _) (.node .any _ trivial))
  have isItem : (Input.text ⟨letters⟩ : Input Empty).item? place = some (.char letter) := by
    rw [Input.item?, found, Option.map_some]
  have gives := (evaluates (.text ⟨letters⟩) Empty.elim place _).mpr (.leaf _)
  rwa [isItem] at gives

theorem not_evaluates_letter (placed : Placed book ledger g id (.rule "letter"))
    (none : letters[place]? = none) :
    g.Evaluates (.text ⟨letters⟩) Empty.elim id place
      (.failure "unexpected end of input" (.point place)) := by
  obtain ⟨_, _, _, evaluates⟩ :=
    furnished.exists_evaluates_iff placed (.opened (.rule _) (.node .any _ trivial))
  have noItem : (Input.text ⟨letters⟩ : Input Empty).item? place = Option.none := by
    rw [Input.item?, none, Option.map_none]
  have gives := (evaluates (.text ⟨letters⟩) Empty.elim place _).mpr (.leaf _)
  rwa [noItem] at gives

/-- A letter is matched if there is one. -/
theorem evaluates_maybe_present (placed : Placed book ledger g id (.rule "maybe")) {letter : Char}
    (found : letters[place]? = some letter) :
    g.Evaluates (.text ⟨letters⟩) Empty.elim id place
      (.success (.between place (place + 1)) (.present (.char letter))) := by
  obtain ⟨_, _, each, evaluates⟩ :=
    furnished.exists_evaluates_iff placed (.opened (.rule _) (.node .optional _ trivial))
  exact (evaluates ..).mpr (.present (evaluates_letter furnished (each (0 : Fin 1)).2 found))

/-- Where there is no letter, nothing is matched. -/
theorem evaluates_maybe_absent (placed : Placed book ledger g id (.rule "maybe"))
    (none : letters[place]? = none) :
    g.Evaluates (.text ⟨letters⟩) Empty.elim id place (.success (.point place) .absent) := by
  obtain ⟨_, _, each, evaluates⟩ :=
    furnished.exists_evaluates_iff placed (.opened (.rule _) (.node .optional _ trivial))
  exact (evaluates ..).mpr (.absent (not_evaluates_letter furnished (each (0 : Fin 1)).2 none))

end

def parser (identity : Nat) : Parser Empty Empty := ⟨identity, parsers identity⟩

def engine : Engine Empty Empty := .new 0 .text .standard

def host : Host Empty Empty Unit := ⟨Empty.elim, fun _ _ => ()⟩

theorem host_answers : host.Answers Empty.elim := fun request => request.elim

def root : NodeId := ⟨0, capacity_pos⟩

theorem resolves : ∀ identity < 4,
    ((empty 0 .text).resolve rules ⟨.parser identity, []⟩ (parsers identity)).1.toOption =
        some root ∧
      ((empty 0 .text).resolve rules ⟨.parser identity, []⟩ (parsers identity)).2.nodeCount ≤
        5 := by
  decide +kernel

theorem resolved {identity : Nat} (small : identity < 4) :
    engine.resolve rules (parser identity) =
      (.ok root, (engine.resolve rules (parser identity)).2) :=
  Engine.resolve_of_toOption (resolves identity small).1

theorem exists_furnished {identity : Nat} (small : identity < 4) :
    ∃ ledger, Furnished book ledger (engine.resolve rules (parser identity)).2.grammar ∧
      Placed book ledger (engine.resolve rules (parser identity)).2.grammar root
        (parsers identity) :=
  (@Engine.exists_furnished _ _ _ _ book 0 .text _ _ (parser identity) _ book_stock rfl .here
    (resolved small)).2

theorem room {identity : Nat} (small : identity < 4) {letters : Array Char}
    (short : letters.size ≤ 2) :
    ¬Engine.Exhausts (.ok root, (engine.resolve rules (parser identity)).2) host (.text ⟨letters⟩)
      .standard () := by
  obtain ⟨ledger, furnished, placed⟩ := exists_furnished small
  have acyclic := furnished.grown.tidy.1.acyclic
  refine @Engine.not_exhausts _ _ _ _ _ _ _ _ (.ok root, _) acyclic ?_ rfl rfl (Nat.zero_le _) ?_ ()
  · rintro _ ⟨⟩
    exact furnished.grown.inStock placed.small
  · have enough := Nat.mul_le_mul (resolves identity small).2 (Nat.succ_le_succ short)
    exact enough.trans_lt (by decide)

/-- A parser is executed to what its node evaluates to. -/
theorem exists_executed {identity : Nat} (small : identity < 4) {letters : Array Char}
    (short : letters.size ≤ 2) {answer : Match (Value Empty)}
    (evaluates : (engine.resolve rules (parser identity)).2.grammar.Evaluates (.text ⟨letters⟩)
      Empty.elim root 0 answer) :
    ∃ outcome, ComesTo (fun fuel => (engine.execute rules host fuel (parser identity)
      (.text ⟨letters⟩) .standard ()).1) (.ok outcome) ∧ outcome.result = answer := by
  obtain ⟨ledger, furnished, placed⟩ := exists_furnished small
  obtain ⟨_, means, _⟩ := furnished.means_of_comes placed evaluates
  rcases Engine.exists_comesTo_of_means furnished placed (resolved small) host_answers
    (rfl : Options.standard.stepLimit = none) (fun _ => ⟨_, means⟩) () with
    full | ⟨outcome, comes, result, _⟩
  · exact absurd full (room small short)
  · exact ⟨outcome, comes, Comes.unique (result (Nat.zero_le _)) evaluates⟩

/-- What is repeated goes round in no circle. -/
theorem apart (letters : Array Char) (child : NodeId) (place : Nat)
    (isChild : (engine.resolve rules (parser 0)).2.grammar.child? root 0 = some child)
    (after : 0 ≤ place) (before : place ≤ (Input.text ⟨letters⟩ : Input Empty).length) :
    ¬(engine.resolve rules (parser 0)).2.grammar.LeftRecursive (.text ⟨letters⟩) Empty.elim
      ((engine.resolve rules (parser 0)).2.grammar.spot child place) := by
  obtain ⟨ledger, furnished, placed⟩ := exists_furnished (by decide : 0 < 4)
  obtain ⟨children, _, each⟩ := furnished.exists_parts placed (.node (.repeated _) _ trivial)
  obtain ⟨isMaybe, placedMaybe⟩ := each (0 : Fin 1)
  obtain rfl := Option.some.inj (isMaybe.symm.trans isChild)
  exact (furnished.defined_iff_apart placedMaybe).mp (defined_maybe furnished placedMaybe) place
    after before

/-- Two characters are a repetition of exactly two, and a sequence of two. -/
theorem two_letters_are_repeated :
    ∃ outcome otherOutcome,
      ComesTo (fun fuel => (engine.execute rules host fuel (parser 0) (.text ⟨#['y', 'z']⟩)
        .standard ()).1) (.ok outcome) ∧
      ComesTo (fun fuel => (engine.execute rules host fuel (parser 1) (.text ⟨#['y', 'z']⟩)
        .standard ()).1) (.ok otherOutcome) ∧
      (∀ span value, outcome.result = .success span value ↔
        otherOutcome.result = .success span value ∧
        ∃ child, (engine.resolve rules (parser 0)).2.grammar.child? root 0 = some child ∧
          Strides ((engine.resolve rules (parser 0)).2.grammar.Evaluates (.text ⟨#['y', 'z']⟩)
            Empty.elim child) 0 2) ∧
      outcome.result =
        .success (.between 0 2) (.list [.present (.char 'y'), .present (.char 'z')]) := by
  rcases Engine.exact_repetition_executes_as_sequence book_stock (rfl : (parser 0).body = _)
    (rfl : (parser 1).body = _) rfl rfl (.here : Continues book (.empty 0 .text) engine.grammar)
    (.here : Continues book (.empty 0 .text) engine.grammar) (resolved (by decide))
    (resolved (by decide)) host_answers host_answers (.text ⟨#['y', 'z']⟩)
    (rfl : Options.standard.stepLimit = none) true (apart #['y', 'z']) () () with
    full | full | ⟨outcome, otherOutcome, comes, otherComes, succeeds, _⟩
  · exact absurd full (room (by decide) (by decide))
  · exact absurd full (room (by decide) (by decide))
  obtain ⟨ledger, furnished, placed⟩ := exists_furnished (by decide : 0 < 4)
  obtain ⟨_, _, each, evaluates⟩ :=
    furnished.exists_evaluates_iff placed (.node (.repeated _) _ trivial)
  have placedMaybe := (each (0 : Fin 1)).2
  have bothMatch := (evaluates ..).mpr (.repeated (.again rfl
    (evaluates_maybe_present furnished placedMaybe (rfl : #['y', 'z'][0]? = _)) rfl (.again rfl
    (evaluates_maybe_present furnished placedMaybe (rfl : #['y', 'z'][1]? = _)) rfl (.full rfl))))
  obtain ⟨_, alsoComes, isResult⟩ := exists_executed (by decide) (by decide) bothMatch
  cases comes.unique alsoComes
  exact ⟨outcome, otherOutcome, comes, otherComes, succeeds, isResult⟩

/-- Where nothing can be matched twice, two copies in a row match, but a repetition of
exactly two stops after the first. -/
theorem nothing_is_not_repeated :
    (∀ child, (engine.resolve rules (parser 0)).2.grammar.child? root 0 = some child →
      ¬(engine.resolve rules (parser 0)).2.grammar.LeftRecursive (.text ⟨#[]⟩) Empty.elim
        ((engine.resolve rules (parser 0)).2.grammar.spot child 0)) ∧
    (∃ outcome, ComesTo (fun fuel => (engine.execute rules host fuel
      ⟨0, .repeated (.exactly 2) (.rule "maybe")⟩ (.text ⟨#[]⟩) .standard ()).1) (.ok outcome) ∧
      outcome.result.isSuccess = false) ∧
    ∃ outcome, ComesTo (fun fuel => (engine.execute rules host fuel
      ⟨1, .ofList (List.replicate 2 (.rule "maybe"))⟩ (.text ⟨#[]⟩) .standard ()).1) (.ok outcome) ∧
      outcome.result = .success (.point 0) (.list [.absent, .absent]) := by
  obtain ⟨ledger, furnished, placed⟩ := exists_furnished (by decide : 0 < 4)
  obtain ⟨others, furnishedThere, placedThere⟩ := exists_furnished (by decide : 1 < 4)
  obtain ⟨children, _, each, evaluates⟩ :=
    furnished.exists_evaluates_iff placed (.node (.repeated _) _ trivial)
  obtain ⟨copies, _, eachCopy, evaluatesThere⟩ :=
    furnishedThere.exists_evaluates_iff placedThere (.sequence 2 _)
  have stopsShort := (evaluates ..).mpr (.repeated (.empty rfl
    (evaluates_maybe_absent furnished (each (0 : Fin 1)).2 (rfl : #[][0]? = none)) rfl))
  have bothMatch := (evaluatesThere ..).mpr (.sequence (.next
    (evaluates_maybe_absent furnishedThere (eachCopy (0 : Fin 2)).2 (rfl : #[][0]? = none)) (.next
    (evaluates_maybe_absent furnishedThere (eachCopy (1 : Fin 2)).2 (rfl : #[][0]? = none))
    (.finished _ _))))
  refine ⟨fun child isChild => apart #[] child 0 isChild (Nat.le_refl 0) (Nat.zero_le _), ?_,
    exists_executed (by decide) (by decide) bothMatch⟩
  obtain ⟨outcome, comes, isResult⟩ := exists_executed (by decide) (by decide) stopsShort
  exact ⟨outcome, comes, isResult ▸ rfl⟩

end Rows

namespace Engine

open Grammar Reference

variable [BEq ω] [Printable ω] {book : Book ω ρ} {number otherNumber : Nat}
  {kind : InputKind} {engine later twin twinLater : Engine ω ρ}
  {self other : Parser ω ρ} {root otherRoot : NodeId} {host : Host ω ρ τ} {guest : Host ω ρ ι}
  {reply : ρ → Answer ω} {options : Options}

/-- A list of items with separators between them is executed as an item in front of a
repetition of separators and items, and goes from its first item to the end of its last. -/
theorem separated_executes_as_chain (stock : book.Stock) {item separator : Reference ω ρ}
    {bounds : Bounds} (starts : bounds.Starts)
    (isSelf : self.body = .separated bounds item separator)
    (isOther : other.body =
      .chain prepend item (.repeated bounds.rest (.keepSecond separator item)))
    (written : book.parsers self.identity = self.body)
    (otherWritten : book.parsers other.identity = other.body)
    (history : Continues book (.empty number kind) engine.grammar)
    (otherHistory : Continues book (.empty otherNumber kind) twin.grammar)
    (resolved : engine.resolve book.rules self = (.ok root, later))
    (otherResolved : twin.resolve book.rules other = (.ok otherRoot, twinLater))
    (answers : host.Answers reply) (guestAnswers : guest.Answers reply) (input : Input ω)
    (unlimited : options.stepLimit = none) (memoize : Bool)
    (apart : ∀ (index : Fin 2) child place, later.grammar.child? root index = some child →
      options.start ≤ place → place ≤ input.length →
      ¬later.grammar.LeftRecursive input reply (later.grammar.spot child place))
    (world : τ) (elsewhere : ι) :
    Exhausts (.ok root, later) host input options world ∨
    Exhausts (.ok otherRoot, twinLater) guest input { options with memoize } elsewhere ∨
    ∃ outcome otherOutcome,
      ComesTo (fun fuel => (engine.execute book.rules host fuel self input options world).1)
        (.ok outcome) ∧
      ComesTo (fun fuel => (twin.execute book.rules guest fuel other input
        { options with memoize } elsewhere).1) (.ok otherOutcome) ∧
      ∀ span value,
        (outcome.result = .success span value ↔ otherOutcome.result = .success span value) ∧
        (outcome.result = .success span value →
          ∃ itemNode separatorNode values, later.grammar.child? root 0 = some itemNode ∧
            later.grammar.child? root 1 = some separatorNode ∧ value = .list values ∧
            span.start = options.start ∧
            Lists (later.grammar.Evaluates input reply itemNode)
              (later.grammar.Evaluates input reply separatorNode) options.start values
              span.stop) := by
  obtain ⟨isKind, ledger, furnished, placed⟩ := exists_furnished stock written history resolved
  obtain ⟨isKindThere, others, furnishedThere, placedThere⟩ :=
    exists_furnished stock otherWritten otherHistory otherResolved
  have sameKind := isKindThere.trans isKind.symm
  have placedSelf := isSelf ▸ placed
  have placedOther := isOther ▸ placedThere
  have means (_ : options.start ≤ input.length) :
      (book.reading later.grammar.kind input reply).Defined options.start self.body ∧
      (book.reading later.grammar.kind input reply).Defined options.start other.body := by
    obtain ⟨children, _, each⟩ :=
      furnished.exists_parts placedSelf (.node (.separated bounds) _ trivial)
    have definedItem : (book.reading later.grammar.kind input reply).Defined options.start item :=
      (furnished.defined_iff_apart (each (0 : Fin 2)).2).mpr fun place =>
        apart 0 _ place (each (0 : Fin 2)).1
    have definedSeparator :
        (book.reading later.grammar.kind input reply).Defined options.start separator :=
      (furnished.defined_iff_apart (each (1 : Fin 2)).2).mpr fun place =>
        apart 1 _ place (each (1 : Fin 2)).1
    rw [isSelf, isOther]
    exact ⟨furnished.defined_of_parts placedSelf (.node (.separated bounds) _ trivial) trivial
      (Fin.forall_fin_two.mpr ⟨definedItem, definedSeparator⟩),
      sameKind ▸ furnishedThere.defined_chain placedOther (sameKind ▸ definedItem)
        (sameKind ▸ definedSeparator)⟩
  rcases exists_comesTo_both furnished placed furnishedThere placedThere sameKind resolved
    otherResolved answers guestAnswers unlimited memoize means world elsewhere with
    full | full | ⟨outcome, otherOutcome, comes, otherComes, _, succeeds⟩
  · exact .inl full
  · exact .inr (.inl full)
  refine .inr (.inr ⟨outcome, otherOutcome, comes, otherComes, fun span value => ⟨?_, ?_⟩⟩)
  · rw [(succeeds span value).1, (succeeds span value).2]
    exact and_congr_right fun inside =>
      furnished.separated_iff_chain furnishedThere sameKind starts placedSelf placedOther inside
  · intro success
    obtain ⟨inside, evaluates⟩ := (succeeds span value).1.mp success
    obtain ⟨itemNode, separatorNode, values, isItem, isSeparator, isList, lists⟩ :=
      furnished.lists_of_separated starts placedSelf inside evaluates
    have isStart := (furnished.comes_inside placedSelf inside evaluates).start_eq
    exact ⟨itemNode, separatorNode, values, isItem, isSeparator, isList, isStart, lists⟩

end Engine

namespace Rows

open Grammar Reference

/-- Neither what is listed nor what separates it goes round in a circle. -/
theorem apart_separated (letters : Array Char) (index : Fin 2) (child : NodeId) (place : Nat)
    (isChild : (engine.resolve rules (parser 2)).2.grammar.child? root index = some child)
    (after : 0 ≤ place) (before : place ≤ (Input.text ⟨letters⟩ : Input Empty).length) :
    ¬(engine.resolve rules (parser 2)).2.grammar.LeftRecursive (.text ⟨letters⟩) Empty.elim
      ((engine.resolve rules (parser 2)).2.grammar.spot child place) := by
  obtain ⟨ledger, furnished, placed⟩ := exists_furnished (by decide : 2 < 4)
  obtain ⟨children, _, each⟩ := furnished.exists_parts placed (.node (.separated _) _ trivial)
  obtain ⟨isPart, placedPart⟩ := each index
  obtain rfl := Option.some.inj (isPart.symm.trans isChild)
  refine (furnished.defined_iff_apart placedPart).mp ?_ place after before
  match index with
  | 0 => exact defined_letter furnished placedPart
  | 1 => exact defined_maybe furnished placedPart

/-- Of two characters the first is a list, with nothing behind the second to be separated. -/
theorem separated_letters_are_chained :
    Bounds.atLeastOnce.Starts ∧
    ∃ outcome otherOutcome,
      ComesTo (fun fuel => (engine.execute rules host fuel (parser 2) (.text ⟨#['y', 'z']⟩)
        .standard ()).1) (.ok outcome) ∧
      ComesTo (fun fuel => (engine.execute rules host fuel (parser 3) (.text ⟨#['y', 'z']⟩)
        .standard ()).1) (.ok otherOutcome) ∧
      (∀ span value,
        (outcome.result = .success span value ↔ otherOutcome.result = .success span value) ∧
        (outcome.result = .success span value →
          ∃ itemNode separatorNode values,
            (engine.resolve rules (parser 2)).2.grammar.child? root 0 = some itemNode ∧
            (engine.resolve rules (parser 2)).2.grammar.child? root 1 = some separatorNode ∧
            value = .list values ∧ span.start = 0 ∧
            Lists ((engine.resolve rules (parser 2)).2.grammar.Evaluates (.text ⟨#['y', 'z']⟩)
                Empty.elim itemNode)
              ((engine.resolve rules (parser 2)).2.grammar.Evaluates (.text ⟨#['y', 'z']⟩)
                Empty.elim separatorNode) 0 values span.stop)) ∧
      outcome.result = .success (.between 0 1) (.list [.char 'y']) := by
  have starts : Bounds.atLeastOnce.Starts := ⟨Nat.le_refl 1, nofun⟩
  refine ⟨starts, ?_⟩
  rcases Engine.separated_executes_as_chain book_stock starts (rfl : (parser 2).body = _)
    (rfl : (parser 3).body = _) rfl rfl (.here : Continues book (.empty 0 .text) engine.grammar)
    (.here : Continues book (.empty 0 .text) engine.grammar) (resolved (by decide))
    (resolved (by decide)) host_answers host_answers (.text ⟨#['y', 'z']⟩)
    (rfl : Options.standard.stepLimit = none) true (apart_separated #['y', 'z']) () () with
    full | full | ⟨outcome, otherOutcome, comes, otherComes, succeeds⟩
  · exact absurd full (room (by decide) (by decide))
  · exact absurd full (room (by decide) (by decide))
  obtain ⟨ledger, furnished, placed⟩ := exists_furnished (by decide : 2 < 4)
  obtain ⟨_, _, each, evaluates⟩ :=
    furnished.exists_evaluates_iff placed (.node (.separated _) _ trivial)
  have placedLetter := (each (0 : Fin 2)).2
  have placedMaybe := (each (1 : Fin 2)).2
  have oneItem := (evaluates ..).mpr (.separated rfl
    (evaluates_letter furnished placedLetter (rfl : #['y', 'z'][0]? = _)) (.noItem rfl
    (evaluates_maybe_present furnished placedMaybe (rfl : #['y', 'z'][1]? = _))
    (not_evaluates_letter furnished placedLetter (rfl : #['y', 'z'][2]? = none))))
  obtain ⟨_, alsoComes, isResult⟩ := exists_executed (by decide) (by decide) oneItem
  cases comes.unique alsoComes
  exact ⟨outcome, otherOutcome, comes, otherComes, succeeds, isResult⟩

end Rows

end Packrat
