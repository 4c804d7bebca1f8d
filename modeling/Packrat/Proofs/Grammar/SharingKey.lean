import Packrat.Grammar
import Packrat.Proofs.Text.Quoted

/-!
# Reading sharing keys back

A sharing key says of what name its node is and, if the name is a plain one, how it goes
on: with a description for a leaf, with the children's keys for other nodes.
-/

namespace Packrat

/-- The key of a leaf. -/
def leafKey (name description : String) : String := name ++ ":" ++ quote description

/-- The key of a node with children. -/
def branchKey (name : String) (keys : List String) : String :=
  name ++ "(" ++ ",".intercalate (keys.map quote) ++ ")"

theorem toList_leafKey (name description : String) :
    (leafKey name description).toList =
      name.toList ++ ':' :: ('"' :: (escapeAll description.toList).toList) ++ ['"'] := by
  simp [leafKey, toList_quote]

theorem toList_branchKey (name : String) (keys : List String) :
    (branchKey name keys).toList =
      name.toList ++ '(' :: (",".intercalate (keys.map quote)).toList ++ [')'] := by
  simp [branchKey]

theorem mem_intersperse_of_mem {α : Type} {a : α} {list : List α} (separator : α)
    (member : a ∈ list) : a ∈ list.intersperse separator := by
  induction list with
  | nil => cases member
  | cons first rest induction =>
      cases rest with
      | nil => simpa using member
      | cons second more =>
          rw [List.intersperse_cons_cons]
          rcases List.mem_cons.mp member with rfl | later
          · exact List.mem_cons_self
          · exact List.mem_cons_of_mem _ (List.mem_cons_of_mem _ (induction later))

theorem length_le_intercalate {separator text : String} {texts : List String}
    (member : text ∈ texts) : text.length ≤ (separator.intercalate texts).length := by
  rw [← String.length_toList, ← String.length_toList, String.toList_intercalate,
    List.intercalate]
  apply List.Sublist.length_le
  apply List.sublist_flatten_of_mem
  exact mem_intersperse_of_mem _ (List.mem_map_of_mem member)

/-- A key is longer than those it is made from. -/
theorem length_lt_branchKey {name key : String} {keys : List String} (member : key ∈ keys) :
    key.length < (branchKey name keys).length := by
  have quoted := @length_le_intercalate "," (quote key) _ (List.mem_map_of_mem member)
  have inside := length_le_quote key
  have bracket : "(".length = 1 := rfl
  simp only [branchKey, String.length_append]
  omega

theorem leafKey_ne_branchKey (name description other : String) (keys : List String) :
    leafKey name description ≠ branchKey other keys := by
  intro same
  have lists := congrArg String.toList same
  rw [toList_leafKey, toList_branchKey] at lists
  cases (List.append_inj' lists rfl).2

/-- A mark in a text: either it stands in the same place in the other reading, or one of
the readings has it again further on. -/
theorem append_mark_inj {mark : Char} {front other rest more : List Char}
    (same : front ++ mark :: rest = other ++ mark :: more) :
    (front = other ∧ rest = more) ∨ (∃ between, rest = between ++ mark :: more) ∨
      ∃ between, more = between ++ mark :: rest := by
  rcases List.append_eq_append_iff.mp same with ⟨extra, isOther, tails⟩ | ⟨extra, isFront, tails⟩
  · cases extra with
    | nil =>
        rw [List.append_nil] at isOther
        exact .inl ⟨isOther.symm, (List.cons.inj tails).2⟩
    | cons c extra => exact .inr (.inl ⟨extra, (List.cons.inj tails).2⟩)
  · cases extra with
    | nil =>
        rw [List.append_nil] at isFront
        exact .inl ⟨isFront, (List.cons.inj tails).2.symm⟩
    | cons c extra => exact .inr (.inr ⟨extra, (List.cons.inj tails).2⟩)

/-- In a description as it is quoted no colon stands before a quote. -/
theorem opened_ne_colon_quote (description : String) (between rest : List Char) :
    '"' :: (escapeAll description.toList).toList ≠ between ++ ':' :: '"' :: rest := by
  intro inside
  have chain := @noQuoteAfter_opened ':' (by decide) (by decide) description
  rw [inside] at chain
  exact (List.isChain_append_cons_cons.mp chain).2.1 rfl rfl

/-- A leaf's key says its name and its description. -/
theorem leafKey_inj {name description other otherDescription : String}
    (same : leafKey name description = leafKey other otherDescription) :
    name = other ∧ description = otherDescription := by
  have lists := congrArg String.toList same
  rw [toList_leafKey, toList_leafKey] at lists
  have fronts := (List.append_inj' lists rfl).1
  rcases append_mark_inj fronts with ⟨names, texts⟩ | ⟨between, inside⟩ | ⟨between, inside⟩
  · refine ⟨String.toList_inj.mp names, quote_inj (String.toList_inj.mp ?_)⟩
    rw [toList_quote, toList_quote, ← List.cons_append, texts, List.cons_append]
  · exact absurd inside (opened_ne_colon_quote _ _ _)
  · exact absurd inside (opened_ne_colon_quote _ _ _)

/-- What a key ends in. -/
theorem getLast?_leafKey (name description : String) :
    (leafKey name description).toList.getLast? ≠ some '(' := by
  rw [toList_leafKey, List.getLast?_concat]
  simp

theorem getLast?_branchKey (name : String) (keys : List String) :
    (branchKey name keys).toList.getLast? ≠ some '(' := by
  rw [toList_branchKey, List.getLast?_concat]
  simp

/-- In keys as they are quoted no parenthesis stands before another key, or at the end. -/
theorem quotes_ne_parenthesis_quotes {keys : List String}
    (closed : ∀ key ∈ keys, key.toList.getLast? ≠ some '(') (between : List Char)
    (others : List String) :
    (",".intercalate (keys.map quote)).toList ≠
      between ++ '(' :: (",".intercalate (others.map quote)).toList := by
  intro inside
  cases others with
  | nil =>
      have last := congrArg List.getLast? inside
      rw [List.map_nil, String.intercalate_nil, String.toList_empty, List.getLast?_concat] at last
      cases keys with
      | nil => simp at last
      | cons key keys =>
          rw [getLast?_quotes_cons] at last
          simp at last
  | cons other others =>
      obtain ⟨rest, opened⟩ := quotes_cons_toList other others
      have chain := @noQuoteAfter_quotes '(' (by decide) (by decide) (by decide) (by decide)
        (by decide) keys closed
      rw [inside, opened] at chain
      exact (List.isChain_append_cons_cons.mp chain).2.1 rfl rfl

/-- The key of a node with children says its name and the children's keys. -/
theorem branchKey_inj {name other : String} {keys otherKeys : List String}
    (closed : ∀ key ∈ keys, key.toList.getLast? ≠ some '(')
    (otherClosed : ∀ key ∈ otherKeys, key.toList.getLast? ≠ some '(')
    (same : branchKey name keys = branchKey other otherKeys) :
    name = other ∧ keys = otherKeys := by
  have lists := congrArg String.toList same
  rw [toList_branchKey, toList_branchKey] at lists
  have fronts := (List.append_inj' lists rfl).1
  rcases append_mark_inj fronts with ⟨names, texts⟩ | ⟨between, inside⟩ | ⟨between, inside⟩
  · exact ⟨String.toList_inj.mp names, quotes_inj (String.toList_inj.mp texts)⟩
  · exact absurd inside (quotes_ne_parenthesis_quotes closed _ _)
  · exact absurd inside (quotes_ne_parenthesis_quotes otherClosed _ _)

namespace Grammar

variable {ω ρ : Type}

/-- A node that has no children has the key of a leaf. -/
theorem sharingKey_nil (g : Grammar ω ρ) (name description : String) :
    g.sharingKey name description [] = some (leafKey name description) := rfl

theorem mapM_eq_some_iff {α β : Type} {f : α → Option β} {list : List α} {results : List β} :
    list.mapM f = some results ↔ List.Forall₂ (fun a b => f a = some b) list results := by
  induction list generalizing results with
  | nil => simp [eq_comm]
  | cons a list induction =>
      rw [List.mapM_cons]
      cases head : f a with
      | none =>
          constructor
          · intro impossible
            cases impossible
          · intro each
            cases each with
            | cons here _ =>
                rw [head] at here
                cases here
      | some b =>
          simp only [Option.bind_eq_bind, Option.bind_some, Option.bind_eq_some_iff,
            Option.pure_def, Option.some.injEq]
          constructor
          · rintro ⟨rest, found, rfl⟩
            exact .cons head (induction.mp found)
          · intro each
            cases each with
            | cons here rest =>
                rw [head] at here
                cases here
                exact ⟨_, induction.mpr rest, rfl⟩

/-- A node that has children has a key if they all have one. -/
theorem sharingKey_eq_some {g : Grammar ω ρ} {name description key : String}
    {children : List NodeId} (nonempty : children ≠ []) :
    g.sharingKey name description children = some key ↔
      ∃ keys, key = branchKey name keys ∧
        List.Forall₂ (fun id key => (g.node? id).bind Resolved.key = some key) children keys := by
  unfold sharingKey
  split
  next => exact absurd rfl nonempty
  next =>
    rw [Option.map_eq_some_iff]
    constructor
    · rintro ⟨keys, found, rfl⟩
      exact ⟨keys, rfl, mapM_eq_some_iff.mp found⟩
    · rintro ⟨keys, rfl, each⟩
      exact ⟨keys, mapM_eq_some_iff.mpr each, rfl⟩

end Grammar

end Packrat
