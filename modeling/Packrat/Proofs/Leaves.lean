import Packrat.Proofs.Combinator.Extent
import Packrat.Proofs.Grammar.Resolution
import Packrat.Proofs.Pattern.Laws

/-!
# What leaves match in a text

A literal, a pattern or an identifier that matches covers the text from the position on up to
some other, and its value is the text that it covers.  A literal matches where its characters
stand.  A pattern matches where the expression takes something at the start of the rest of the
text alone.

That holds for patterns that close no group but their own.  Others are not well formed, but in
the group that they are put in some of them are: those can match away from the position.
-/

namespace Packrat

variable {ω ρ : Type} {t : Text} {position : Nat}

/-- A match covers a text from a position up to `stop`, and its value is what it covers. -/
structure Match.Reads (m : Match (Value ω)) (t : Text) (position stop : Nat) : Prop where
  ordered : position ≤ stop
  inside : stop ≤ t.length
  exact : m = .success (.between position stop)
    (.text (String.ofList (t.chars.extract position stop).toList))

/-! ## Resolving literals -/

theorem Literal.exists_attempt?_iff (kind : InputKind) (l : Literal) :
    (∃ leaf, (l.attempt? kind : Except String (String × (Input ω → Nat → Match (Value ω)))) =
        .ok leaf) ↔
      ∃ blueprint : Blueprint ω ρ, l.blueprint? kind = .ok blueprint := by
  rw [Literal.blueprint?]
  cases l.attempt? kind with
  | error message => simp [Except.map]
  | ok leaf => exact ⟨fun _ => ⟨_, rfl⟩, fun _ => ⟨leaf, rfl⟩⟩

/-- A literal that a grammar has not met is resolved if it can be matched. -/
theorem Grammar.resolve_literal_iff (rules : Rules ω ρ) (g : Grammar ω ρ) (place : Place)
    {l : Literal} (unmet : g.literals.find? l = none) (room : g.size < capacity) :
    (∃ id, (g.resolve rules place (.literal l)).1 = .ok id) ↔
      ∃ blueprint : Blueprint ω ρ, l.blueprint? g.kind = .ok blueprint := by
  rcases resolve_resolves rules g place (.literal l) with
    ⟨id, g', resolved, resolves⟩ | ⟨error, g', resolved, resolves⟩
  · rw [resolved]
    refine ⟨fun _ => ?_, fun _ => ⟨_, rfl⟩⟩
    cases resolves with
    | known_literal met => cases unmet.symm.trans met
    | new_literal _ shape _ => exact ⟨_, shape⟩
  · rw [resolved]
    constructor
    · rintro ⟨_, impossible⟩
      cases impossible
    · rintro ⟨blueprint, shape⟩
      cases resolves with
      | refused_literal _ refused => cases shape.symm.trans refused
      | failed_literal _ shape node =>
          have := Kind.blueprint_literal shape
          subst this
          cases node with
          | no_slot_for_node full => exact absurd room (Nat.not_lt.mpr full)
          | @failed_child _ _ _ _ _ _ _ _ _ failed => exact failed.elim0

/-! ## Literals and identifiers -/

namespace Text

theorem toList_extract (stop : Nat) :
    (t.chars.extract position stop).toList =
      (t.chars.toList.drop position).take (stop - position) := by
  rw [Array.toList_extract, List.extract_eq_take_drop]

theorem slice_eq {stop : Nat} (ordered : position ≤ stop) :
    t.slice position stop = (t.chars.extract position stop).toList := by
  rw [slice_eq_drop, Nat.min_eq_left ordered, List.drop_take, toList_extract]

theorem between?_eq_some_iff {stop : Nat} {chars : List Char} :
    t.between? position stop = some chars ↔
      (position ≤ stop ∧ stop ≤ t.length) ∧ (t.chars.extract position stop).toList = chars := by
  rw [between?, Option.ite_none_right_eq_some, Option.some.injEq]

/-- Characters stand at a position if the rest of the text begins with them. -/
theorem stands_iff (inside : position ≤ t.length) (chars : List Char) :
    t.between? position (position + chars.length) = some chars ↔
      chars <+: t.chars.toList.drop position := by
  rw [between?_eq_some_iff, List.prefix_iff_eq_take, toList_extract, Nat.add_sub_cancel_left,
    eq_comm, and_iff_right_iff_imp]
  intro same
  have short := (List.prefix_iff_eq_take.mpr same).length_le
  rw [List.length_drop] at short
  have inChars : position ≤ t.chars.toList.length := inside
  refine ⟨Nat.le_add_right _ _, ?_⟩
  show position + chars.length ≤ t.chars.toList.length
  omega

end Text

namespace Literal

theorem attemptText_isSuccess_iff (inside : position ≤ t.length) (content : String) :
    (attemptText content (.text t) position : Match (Value ω)).isSuccess = true ↔
      content.toList <+: t.chars.toList.drop position := by
  rw [← t.stands_iff inside, attemptText]
  split
  next found => exact iff_of_true rfl found
  next missed => exact iff_of_false Bool.false_ne_true missed

theorem attemptText_reads {content : String}
    (matched : (attemptText content (.text t) position : Match (Value ω)).isSuccess = true) :
    (attemptText content (.text t) position : Match (Value ω)).Reads t position
      (position + content.toList.length) := by
  by_cases found : t.between? position (position + content.toList.length) = some content.toList
  · obtain ⟨⟨ordered, stops⟩, same⟩ := Text.between?_eq_some_iff.mp found
    refine ⟨ordered, stops, (if_pos found).trans ?_⟩
    rw [same, String.ofList_toList]
  · rw [attemptText, if_neg found] at matched
    cases matched

end Literal

theorem Lettering.attempt_reads (letters : Lettering)
    (matched : (letters.attempt (.text t) position : Match (Value ω)).isSuccess = true) :
    ∃ stop, (letters.attempt (.text t) position : Match (Value ω)).Reads t position stop := by
  rcases letters.attempt_cases t position with ⟨stop, after, stops, isMatch⟩ | failed
  · have ordered := Nat.le_of_lt after
    exact ⟨stop, ordered, stops, isMatch.trans (by rw [Text.slice_eq ordered])⟩
  · rw [failed] at matched
    cases matched

/-! ## Patterns -/

section Patterns

open PatternMeaning

variable {language : PatternLanguage} {meaning : PatternMeaning}
  (follows : language.Follows meaning) {expression : String}

theorem Literal.attempt?_pattern_iff {leaf : String × (Input ω → Nat → Match (Value ω))} :
    (pattern expression).attempt? (.ofText language) = .ok leaf ↔
      ∃ finder, language.compile? (anchored expression) = some finder ∧
        leaf = ("pattern", attemptPattern expression finder) := by
  rw [attempt?.eq_def]
  cases compiled : language.compile? (anchored expression) with
  | none => simp [compiled]
  | some finder => simp [compiled, eq_comm]

include follows

/-- A pattern that closes no group but its own is resolved if it is well formed alone, and the
group that it is put in is closed behind it and small enough. -/
theorem Grammar.resolve_pattern_iff (rules : Rules ω ρ) {g : Grammar ω ρ} (place : Place)
    (straight : ¬meaning.Overcloses expression) (isText : g.kind = .ofText language)
    (unmet : g.literals.find? (.pattern expression) = none) (room : g.size < capacity) :
    (∃ id, (g.resolve rules place (.pattern expression)).1 = .ok id) ↔
      meaning.Enclosable expression ∧ meaning.fits (Literal.anchored expression) := by
  rw [Reference.pattern, resolve_literal_iff rules g place unmet room, isText,
    ← Literal.exists_attempt?_iff, ← follows.isSome_compile?_anchored straight,
    Option.isSome_iff_exists]
  simp only [Literal.attempt?_pattern_iff]
  exact ⟨fun ⟨_, finder, compiled, _⟩ => ⟨finder, compiled⟩,
    fun ⟨finder, compiled⟩ => ⟨_, finder, compiled, rfl⟩⟩

variable {finder : Finder}
  (compiled : language.compile? (Literal.anchored expression) = some finder)
  (enclosable : meaning.Enclosable expression)

include compiled enclosable

/-- Where the expression takes something at the start of the rest of the text, the pattern
covers what it takes, and ends at the same place by characters and by bytes. -/
theorem Literal.attemptPattern_reads (inside : position ≤ t.length) {found : List Char}
    (taken : meaning.takes expression [] (t.chars.toList.drop position) = some found) :
    (attemptPattern expression finder (.text t) position : Match (Value ω)).Reads t position
        (position + found.length) ∧
      t.positionOf (t.byteOffset position + Text.byteLength found) = position + found.length := by
  obtain ⟨after, whole⟩ := follows.within _ _ _ _ taken
  have isRest : t.chars.toList.drop position = [] ++ found ++ after := whole.symm
  have stops : position + found.length ≤ t.length := Text.length_append_le inside isRest
  have isFound : finder.find? (t.chars.toList.drop position) =
      some (Text.byteLength [], Text.byteLength ([] ++ found)) := by
    rw [follows.find?_anchored compiled enclosable, taken]
    rfl
  have covered : (t.chars.extract position (position + found.length)).toList = found := by
    rw [Text.toList_extract, isRest, Nat.add_sub_cancel_left]
    exact List.take_left
  refine ⟨⟨Nat.le_add_right _ _, stops, ?_⟩, ?_⟩
  · rw [attemptPattern_of_find? isRest isFound, List.nil_append, Nat.min_eq_left stops, covered]
  · rw [Text.positionOf_append whole.symm, Nat.min_eq_left stops]

theorem Literal.attemptPattern_isSuccess_iff (inside : position ≤ t.length) :
    (attemptPattern expression finder (.text t) position : Match (Value ω)).isSuccess = true ↔
      (meaning.takes expression [] (t.chars.toList.drop position)).isSome := by
  cases taken : meaning.takes expression [] (t.chars.toList.drop position) with
  | none =>
      have missed : finder.find? (t.chars.toList.drop position) = none := by
        rw [follows.find?_anchored compiled enclosable, taken]
        rfl
      rw [attemptPattern_of_find?_eq_none missed]
      exact Iff.rfl
  | some found =>
      rw [(attemptPattern_reads follows compiled enclosable inside taken).1.exact]
      exact Iff.rfl

end Patterns

/-- Leaves match exactly the text that they cover, whatever letters are and in any language of
patterns that keeps to what expressions mean.  A literal matches where its characters stand.
A pattern that closes no group but its own is resolved as it would be alone, if the group that
it is put in is closed behind it and small enough, and matches where the expression takes
something at the start of the rest of the text.  Where it ends is the same place by characters
and by bytes. -/
theorem text_leaves_match_their_text {language : PatternLanguage} {meaning : PatternMeaning}
    (follows : language.Follows meaning) (t : Text) {position : Nat}
    (inside : position ≤ t.length) :
    ((Reference.identifier : Reference ω ρ) =
        .leaf "identifier" "identifier" true (Lettering.attempt .unicode) ∧
      ∀ letters : Lettering,
        (letters.attempt (.text t) position : Match (Value ω)).isSuccess = true →
        ∃ stop, (letters.attempt (.text t) position : Match (Value ω)).Reads t position stop) ∧
    (∀ content, ∃ attempt : Input ω → Nat → Match (Value ω),
      (Literal.text content).attempt? (.ofText language) = .ok ("literal", attempt) ∧
      ((attempt (.text t) position).isSuccess = true ↔
        content.toList <+: t.chars.toList.drop position) ∧
      ((attempt (.text t) position).isSuccess = true →
        ∃ stop, (attempt (.text t) position).Reads t position stop)) ∧
    ∀ expression : String,
      (meaning.Overcloses expression → ¬meaning.valid expression) ∧
      (¬meaning.Overcloses expression →
        (∀ (rules : Rules ω ρ) (g : Grammar ω ρ) (place : Place), g.kind = .ofText language →
          g.literals.find? (.pattern expression) = none → g.size < capacity →
          ((∃ id, (g.resolve rules place (.pattern expression)).1 = .ok id) ↔
            (meaning.valid expression ∧ ¬meaning.valid (expression ++ ")")) ∧
              meaning.fits (Literal.anchored expression))) ∧
        ∀ name (attempt : Input ω → Nat → Match (Value ω)),
          (Literal.pattern expression).attempt? (.ofText language) = .ok (name, attempt) →
          meaning.valid expression ∧
          ((attempt (.text t) position).isSuccess = true ↔
            (meaning.takes expression [] (t.chars.toList.drop position)).isSome) ∧
          ∀ found, meaning.takes expression [] (t.chars.toList.drop position) = some found →
            (attempt (.text t) position).Reads t position (position + found.length) ∧
            t.positionOf (t.byteOffset position + Text.byteLength found) =
              position + found.length) := by
  refine ⟨⟨rfl, fun letters => letters.attempt_reads⟩, fun content => ?_,
    fun expression => ⟨follows.not_valid_of_overcloses,
      fun straight => ⟨fun rules g place isText unmet room => ?_, ?_⟩⟩⟩
  · exact ⟨_, rfl, Literal.attemptText_isSuccess_iff inside content,
      fun matched => ⟨_, Literal.attemptText_reads matched⟩⟩
  · rw [Grammar.resolve_pattern_iff follows rules place straight isText unmet room]
    exact and_congr_left' ⟨fun ⟨valid, leaves⟩ => ⟨valid, leaves⟩,
      fun ⟨valid, leaves⟩ => ⟨valid, leaves⟩⟩
  · intro name attempt isLeaf
    obtain ⟨finder, compiled, same⟩ := Literal.attempt?_pattern_iff.mp isLeaf
    cases same
    obtain ⟨enclosable, _⟩ := (follows.isSome_compile?_anchored straight).mp
      (Option.isSome_of_eq_some compiled)
    exact ⟨enclosable.valid,
      Literal.attemptPattern_isSuccess_iff follows compiled enclosable inside,
      fun found => Literal.attemptPattern_reads follows compiled enclosable inside⟩

/-! ## Tildes in groups -/

namespace Tildes

open PatternMeaning

/-- Whether an expression is `ñ+` in groups, some of them behind the sign for the start of a
text, if that many groups are open in front of it. -/
def reads : List Char → Nat → Bool
  | '(' :: '?' :: ':' :: rest, opened => reads rest (opened + 1)
  | '^' :: '(' :: '?' :: ':' :: rest, opened => reads rest (opened + 1)
  | 'ñ' :: '+' :: rest, opened => rest == List.replicate opened ')'
  | _, _ => false

/-- The longest run of `ñ`, if there is one; behind the sign for the start only there. -/
def takes (expression : String) (before rest : List Char) : Option (List Char) :=
  if before ≠ [] ∧ '^' ∈ expression.toList then none
  else if rest.head? = some 'ñ' then some (rest.takeWhile (· == 'ñ'))
  else none

def meaning : PatternMeaning where
  valid expression := reads expression.toList 0 = true
  fits _ := True
  takes := takes

theorem takes_within (expression : String) (before rest found : List Char)
    (taken : takes expression before rest = some found) : found <+: rest := by
  unfold takes at taken
  split at taken
  next => cases taken
  split at taken
  next =>
    cases taken
    exact List.takeWhile_prefix _
  next => cases taken

def finder (expression : String) : Finder where
  find? text := search (takes expression) [] text
  whole isFound := by
    obtain ⟨skipped, found, after, whole, isPlace⟩ :=
      exists_of_search (takes_within expression) isFound
    obtain ⟨rfl, rfl⟩ := Prod.mk.inj isPlace
    exact ⟨skipped, found, after, whole, rfl, rfl⟩

def language : PatternLanguage :=
  ⟨fun expression => if reads expression.toList 0 then some (finder expression) else none⟩

theorem reads_group (chars : List Char) (opened : Nat) :
    reads (chars ++ [')']) (opened + 1) = reads chars opened := by
  fun_induction reads chars opened with
  | case1 opened rest induction => exact induction
  | case2 opened rest induction => exact induction
  | case3 opened rest =>
      rw [List.cons_append, List.cons_append, reads, List.replicate_succ', Bool.eq_iff_iff,
        beq_iff_eq, beq_iff_eq, List.append_left_inj]
  | case4 chars opened group start base =>
      -- What closes a group makes none of the other forms of anything.
      unfold reads
      split
      next isGroup =>
        simp [List.append_eq_cons_iff, List.cons_eq_append_iff] at isGroup
        obtain ⟨_, isGroup, _⟩ := isGroup
        exact (group _ isGroup).elim
      next isStart =>
        simp [List.append_eq_cons_iff, List.cons_eq_append_iff] at isStart
        obtain ⟨_, isStart, _⟩ := isStart
        exact (start _ isStart).elim
      next isBase =>
        simp [List.append_eq_cons_iff, List.cons_eq_append_iff] at isBase
        obtain ⟨_, isBase, _⟩ := isBase
        exact (base _ isBase).elim
      next => rfl

theorem reads_stray {chars : List Char} {opened : Nat} (isRead : reads chars opened = true)
    (more : List Char) : reads (chars ++ ')' :: more) opened = false := by
  fun_induction reads chars opened with
  | case1 opened rest induction => exact induction isRead
  | case2 opened rest induction => exact induction isRead
  | case3 opened rest =>
      obtain rfl := beq_iff_eq.mp isRead
      refine beq_eq_false_iff_ne.mpr fun same => ?_
      cases List.append_right_eq_self.mp same
  | case4 => cases isRead

theorem toList_group (expression : String) :
    (group expression).toList = '(' :: '?' :: ':' :: (expression.toList ++ [')']) := by
  rw [group, String.toList_append, String.toList_append]
  rfl

theorem toList_start (expression : String) :
    ("^" ++ group expression).toList = '^' :: (group expression).toList := by
  rw [String.toList_append]
  rfl

theorem mem_group_iff (expression : String) :
    '^' ∈ (group expression).toList ↔ '^' ∈ expression.toList := by
  rw [toList_group]
  simp

/-- Nothing behind an expression closes one group more. -/
theorem not_valid_append {first : String} (isRead : meaning.valid first) (rest : String) :
    ¬meaning.valid (first ++ ")" ++ rest) := by
  have toList : (first ++ ")" ++ rest).toList = first.toList ++ ')' :: rest.toList := by
    rw [String.toList_append, String.toList_append, List.append_assoc]
    rfl
  intro isAlso
  have stray := reads_stray isRead rest.toList
  rw [← toList] at stray
  exact Bool.false_ne_true (stray.symm.trans isAlso)

theorem follows : language.Follows meaning where
  compiles expression := by
    show (if _ then _ else _ : Option Finder).isSome ↔ _
    split
    next isRead => exact iff_of_true rfl ⟨isRead, trivial⟩
    next unread => exact iff_of_false Bool.false_ne_true fun ⟨isRead, _⟩ => unread isRead
  leftmost expression finder compiled text := by
    obtain ⟨_, isFinder⟩ := Option.ite_none_right_eq_some.mp compiled
    cases isFinder
    rfl
  within := takes_within
  stray first rest isRead _ := not_valid_append isRead rest
  valid_group expression _ := by
    have isGroup : meaning.valid (group expression) ↔ meaning.valid expression := by
      show reads _ 0 = true ↔ reads _ 0 = true
      rw [toList_group, reads, reads_group]
    refine isGroup.trans ⟨fun isRead => ⟨isRead, ?_⟩, PatternMeaning.Enclosable.valid⟩
    rw [← String.append_empty (s := expression ++ ")")]
    exact not_valid_append isRead ""
  valid_start expression := by
    show reads _ 0 = true ↔ reads _ 0 = true
    rw [toList_start, toList_group]
    rfl
  takes_group expression _ := by
    funext before rest
    show takes _ before rest = takes _ before rest
    simp only [takes, mem_group_iff]
  takes_start expression _ before rest := by
    show takes _ before rest = if _ then takes _ before rest else none
    simp only [takes, toList_start, List.mem_cons, true_or, and_true]
    by_cases isStart : before = [] <;> simp [isStart]

end Tildes

/-- In the text `añb` the pattern `ñ+` covers the second character, which takes two bytes. -/
theorem tildes_match_their_text :
    (∃ id, ((Grammar.empty 0 (.ofText Tildes.language) : Grammar Empty Empty).resolve
      (fun _ => .any) ⟨.parser 0, []⟩ (.pattern "ñ+")).1 = .ok id) ∧
    ∃ attempt : Input Empty → Nat → Match (Value Empty),
      (Literal.pattern "ñ+").attempt? (.ofText Tildes.language) = .ok ("pattern", attempt) ∧
        attempt (.text (.ofString "añb")) 1 = .success (.between 1 2) (.text "ñ") := by
  have inside : 1 ≤ (Text.ofString "añb").length := by decide
  obtain ⟨_, _, patterns⟩ :=
    @text_leaves_match_their_text Empty Empty _ _ Tildes.follows (.ofString "añb") 1 inside
  have isValid : Tildes.meaning.valid "ñ+" := rfl
  have straight : ¬Tildes.meaning.Overcloses "ñ+" := fun overcloses =>
    Tildes.follows.not_valid_of_overcloses overcloses isValid
  obtain ⟨resolves, reads⟩ := (patterns "ñ+").2 straight
  refine ⟨(resolves _ (.empty 0 _) _ rfl rfl (by decide)).mpr
    ⟨⟨isValid, Bool.false_ne_true⟩, trivial⟩, _, rfl, ?_⟩
  obtain ⟨_, _, covers⟩ := reads "pattern" _ rfl
  exact (covers ['ñ'] rfl).1.exact

/-- The program of `a)|(?:b` in the group that it is put in. -/
def Pattern.strayProgram : Program :=
  ⟨#[.accept, .one (.range 97 97) 0, .look .textStart 1, .one (.range 98 98) 0, .choose [2, 3]], 4,
    false⟩

/-- The pattern `a)|(?:b` is not well formed, but in a group of its own it is, and then matches
away from the position. -/
theorem stray_parenthesis_is_closed :
    Pattern.language.compile? "a)|(?:b" = none ∧
      (∃ id, ((Grammar.empty 0 .text : Grammar Empty Empty).resolve (fun _ => .any)
        ⟨.parser 0, []⟩ (.pattern "a)|(?:b")).1 = .ok id) ∧
      ∃ attempt : Input Empty → Nat → Match (Value Empty),
        (Literal.pattern "a)|(?:b").attempt? .text = .ok ("pattern", attempt) ∧
          attempt (.text (.ofString "cb")) 0 = .success (.between 0 2) (.text "b") := by
  have isRest : (Text.ofString "cb").chars.toList.drop 0 = ['c'] ++ ['b'] ++ [] := rfl
  have found : Pattern.strayProgram.finder.find? ((Text.ofString "cb").chars.toList.drop 0) =
      some (Text.byteLength ['c'], Text.byteLength (['c'] ++ ['b'])) := by
    decide +kernel
  exact ⟨rfl, ⟨⟨0, by decide⟩, by decide +kernel⟩,
    Literal.attemptPattern "a)|(?:b" Pattern.strayProgram.finder, rfl,
    Literal.attemptPattern_of_find? isRest found⟩

end Packrat
