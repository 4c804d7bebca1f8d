import Packrat.Text.Quoted
import Mathlib.Data.List.Chain

/-!
# Reading quoted text back

A quoted text says where it ends, and two texts that are quoted alike are the same text.
Inside of one, a double quote stands only after a backslash.
-/

namespace Packrat

/-! ## Numbers -/

theorem digitChar_inj {n m : Nat} (small : n < 16) (other : m < 16)
    (same : n.digitChar = m.digitChar) : n = m := by
  have decided : ∀ n < 16, ∀ m < 16, n.digitChar = m.digitChar → n = m := by decide
  exact decided n small m other same

theorem toDigits_inj {base n m : Nat} (large : 1 < base) (small : base ≤ 16)
    (same : Nat.toDigits base n = Nat.toDigits base m) : n = m := by
  induction n using Nat.strongRecOn generalizing m with
  | ind n induction =>
      have positive : 0 < base := by omega
      rw [Nat.toDigits_eq_if large, @Nat.toDigits_eq_if base m large] at same
      split at same <;> split at same
      next oneDigit otherDigit =>
        exact digitChar_inj (by omega) (by omega) (List.singleton_inj.mp same)
      next =>
        have lengths := congrArg List.length same
        have := @Nat.length_toDigits_pos base (m / base)
        rw [List.length_append, List.length_singleton, List.length_singleton] at lengths
        omega
      next =>
        have lengths := congrArg List.length same
        have := @Nat.length_toDigits_pos base (n / base)
        rw [List.length_append, List.length_singleton, List.length_singleton] at lengths
        omega
      next more _ =>
        obtain ⟨front, last⟩ := List.append_inj' same rfl
        have quotient := induction (n / base) (Nat.div_lt_self (by omega) large) front
        have remainder := digitChar_inj
          (Nat.lt_of_lt_of_le (Nat.mod_lt n positive) small)
          (Nat.lt_of_lt_of_le (Nat.mod_lt m positive) small) (List.singleton_inj.mp last)
        rw [← Nat.div_add_mod n base, ← Nat.div_add_mod m base, quotient, remainder]

theorem mem_toDigits {base n : Nat} (large : 1 < base) {c : Char}
    (member : c ∈ Nat.toDigits base n) : ∃ digit, c = Nat.digitChar digit := by
  induction n using Nat.strongRecOn with
  | ind n induction =>
      rw [Nat.toDigits_eq_if large] at member
      split at member
      next => exact ⟨n, List.mem_singleton.mp member⟩
      next more =>
        rcases List.mem_append.mp member with front | last
        · exact induction (n / base) (Nat.div_lt_self (by omega) large) front
        · exact ⟨n % base, List.mem_singleton.mp last⟩

/-! ## Escapes -/

/-- The character that a backslash and another character stand for. -/
def unescape : Char → Option Char
  | '0' => some '\x00'
  | 't' => some '\t'
  | 'n' => some '\n'
  | 'r' => some '\r'
  | '\\' => some '\\'
  | '"' => some '"'
  | _ => none

/-- How a character can stand between double quotes. -/
inductive Escaped : Char → List Char → Prop where
  | plain {c : Char} : c ≠ '\\' → c ≠ '"' → Escaped c [c]
  | short {c mark : Char} : unescape mark = some c → Escaped c ['\\', mark]
  | long (c : Char) : Escaped c ('\\' :: 'u' :: '\x7b' :: (Nat.toDigits 16 c.toNat ++ ['\x7d']))

theorem escape_escaped (c : Char) : Escaped c (escape '"' c).toList := by
  have coded : Escaped c (codePointEscape c).toList := by
    have spelled := Escaped.long c
    simpa [codePointEscape, digitsInBase] using spelled
  have itself : c ≠ '\\' → c ≠ '"' → Escaped c c.toString.toList := by
    intro notBackslash notQuote
    simpa using Escaped.plain notBackslash notQuote
  unfold escape
  split_ifs with null tab newline carriage backslash quotes
  · exact null ▸ .short rfl
  · exact tab ▸ .short rfl
  · exact newline ▸ .short rfl
  · exact carriage ▸ .short rfl
  · exact backslash ▸ .short rfl
  · exact quotes ▸ .short rfl
  · exact coded
  · exact itself backslash quotes
  · exact coded

/-- What stands before the first of some character and what after it. -/
theorem append_cons_inj {α : Type} {a : α} {front other rest more : List α}
    (absent : a ∉ front) (otherAbsent : a ∉ other)
    (same : front ++ a :: rest = other ++ a :: more) : front = other ∧ rest = more := by
  induction front generalizing other with
  | nil =>
      cases other with
      | nil => exact ⟨rfl, (List.cons.inj same).2⟩
      | cons b other => exact absurd (List.mem_cons.mpr (.inl (List.cons.inj same).1)) otherAbsent
  | cons b front induction =>
      cases other with
      | nil => exact absurd (List.mem_cons.mpr (.inl (List.cons.inj same).1.symm)) absent
      | cons d other =>
          obtain ⟨rfl, tails⟩ := List.cons.inj same
          obtain ⟨rfl, ends⟩ := induction (fun member => absent (.tail _ member))
            (fun member => otherAbsent (.tail _ member)) tails
          exact ⟨rfl, ends⟩

theorem brace_notMem_toDigits (n : Nat) : '\x7d' ∉ Nat.toDigits 16 n := by
  intro member
  obtain ⟨digit, isDigit⟩ := mem_toDigits (by decide) member
  exact absurd isDigit.symm (Nat.digitChar_ne _ (by decide))

theorem Escaped.long_inj {c d : Char} {rest more : List Char}
    (same : Nat.toDigits 16 c.toNat ++ '\x7d' :: rest =
      Nat.toDigits 16 d.toNat ++ '\x7d' :: more) : c = d ∧ rest = more := by
  obtain ⟨digits, tails⟩ :=
    append_cons_inj (brace_notMem_toDigits _) (brace_notMem_toDigits _) same
  exact ⟨Char.toNat_inj.mp (toDigits_inj (by decide) (by decide) digits), tails⟩

/-- What is escaped says where it ends. -/
theorem Escaped.inj {c d : Char} {spelled other rest more : List Char}
    (escaped : Escaped c spelled) (otherEscaped : Escaped d other)
    (same : spelled ++ rest = other ++ more) : c = d ∧ rest = more := by
  cases escaped with
  | plain notBackslash =>
      cases otherEscaped with
      | plain => exact List.cons.inj same
      | short => exact absurd (List.cons.inj same).1 notBackslash
      | long => exact absurd (List.cons.inj same).1 notBackslash
  | short meaning =>
      cases otherEscaped with
      | plain notBackslash => exact absurd (List.cons.inj same).1.symm notBackslash
      | short otherMeaning =>
          obtain ⟨marks, tails⟩ := List.cons.inj (List.cons.inj same).2
          rw [marks, otherMeaning] at meaning
          exact ⟨Option.some.inj meaning.symm, tails⟩
      | long =>
          rw [(List.cons.inj (List.cons.inj same).2).1] at meaning
          cases meaning
  | long =>
      cases otherEscaped with
      | plain notBackslash => exact absurd (List.cons.inj same).1.symm notBackslash
      | short meaning =>
          rw [← (List.cons.inj (List.cons.inj same).2).1] at meaning
          cases meaning
      | long =>
          simp only [List.cons_append, List.append_assoc, List.nil_append, List.cons.injEq,
            true_and] at same
          exact Escaped.long_inj same

theorem escapeAll_cons (c : Char) (rest : List Char) :
    (escapeAll (c :: rest)).toList = (escape '"' c).toList ++ (escapeAll rest).toList := by
  simp [escapeAll]

/-- An escaped character does not begin with a double quote. -/
theorem Escaped.head_ne {c : Char} {spelled rest more : List Char}
    (escaped : Escaped c spelled) : spelled ++ rest ≠ '"' :: more := by
  intro same
  cases escaped with
  | plain _ notQuote => exact notQuote (List.cons.inj same).1
  | short => cases (List.cons.inj same).1
  | long => cases (List.cons.inj same).1

theorem escapeAll_inj {chars others rest more : List Char}
    (same : (escapeAll chars).toList ++ '"' :: rest =
      (escapeAll others).toList ++ '"' :: more) : chars = others ∧ rest = more := by
  induction chars generalizing others with
  | nil =>
      cases others with
      | nil => exact ⟨rfl, (List.cons.inj same).2⟩
      | cons d others =>
          rw [escapeAll_cons, List.append_assoc] at same
          exact absurd same.symm (escape_escaped d).head_ne
  | cons c chars induction =>
      rw [escapeAll_cons, List.append_assoc] at same
      cases others with
      | nil => exact absurd same (escape_escaped c).head_ne
      | cons d others =>
          rw [escapeAll_cons, List.append_assoc] at same
          obtain ⟨rfl, tails⟩ := (escape_escaped c).inj (escape_escaped d) same
          obtain ⟨rfl, ends⟩ := induction tails
          exact ⟨rfl, ends⟩

theorem toList_quote (text : String) :
    (quote text).toList = '"' :: ((escapeAll text.toList).toList ++ ['"']) := by
  simp [quote, quoteChars]

theorem Escaped.length_pos {c : Char} {spelled : List Char} (escaped : Escaped c spelled) :
    0 < spelled.length := by
  cases escaped <;> simp

theorem length_le_escapeAll (chars : List Char) : chars.length ≤ (escapeAll chars).length := by
  induction chars with
  | nil => exact Nat.zero_le _
  | cons c rest induction =>
      have here := (escape_escaped c).length_pos
      rw [← String.length_toList] at induction ⊢
      rw [escapeAll_cons, List.length_append, List.length_cons]
      omega

theorem length_le_quote (text : String) : text.length ≤ (quote text).length := by
  have here := length_le_escapeAll text.toList
  simp only [quote, quoteChars, String.length_append, String.length_toList] at here ⊢
  omega

/-- A quoted text says where it ends. -/
theorem quote_append_inj {text other : String} {rest more : List Char}
    (same : (quote text).toList ++ rest = (quote other).toList ++ more) :
    text = other ∧ rest = more := by
  rw [toList_quote, toList_quote] at same
  simp only [List.cons_append, List.append_assoc, List.nil_append, List.cons.injEq,
    true_and] at same
  obtain ⟨chars, ends⟩ := escapeAll_inj same
  exact ⟨String.toList_inj.mp chars, ends⟩

theorem quote_inj {text other : String} (same : quote text = quote other) : text = other := by
  have lists : (quote text).toList ++ [] = (quote other).toList ++ [] := by rw [same]
  exact (quote_append_inj lists).1

/-! ## Where double quotes stand -/

/-- No double quote stands right after this character. -/
def NoQuoteAfter (before : Char) : List Char → Prop :=
  List.IsChain fun first second => second = '"' → first ≠ before

theorem noQuoteAfter_of_notMem {before : Char} {chars : List Char} (absent : '"' ∉ chars) :
    NoQuoteAfter before chars := by
  refine List.isChain_iff_forall_rel_of_append_cons_cons.mpr fun first second front rest same => ?_
  rintro rfl
  exact absurd (same ▸ by simp) absent

theorem noQuoteAfter_escaped {before c : Char} (notBackslash : before ≠ '\\')
    {spelled : List Char} (escaped : Escaped c spelled) : NoQuoteAfter before spelled := by
  cases escaped with
  | plain => exact List.isChain_singleton _
  | short => exact List.isChain_pair.mpr fun _ => notBackslash.symm
  | long =>
      refine noQuoteAfter_of_notMem fun member => ?_
      have noDigit : '"' ∉ Nat.toDigits 16 c.toNat := by
        intro member
        obtain ⟨digit, isDigit⟩ := mem_toDigits (by decide) member
        exact absurd isDigit.symm (Nat.digitChar_ne _ (by decide))
      simp [noDigit] at member

theorem Escaped.getLast?_ne {c : Char} {spelled : List Char} (escaped : Escaped c spelled)
    {before : Char} (notBefore : c ≠ before) (notBrace : before ≠ '\x7d')
    (notMark : unescape before = none) : spelled.getLast? ≠ some before := by
  cases escaped with
  | plain => simpa using notBefore
  | short meaning =>
      rintro same
      simp at same
      rw [same, notMark] at meaning
      cases meaning
  | long => simpa [List.getLast?_append, List.getLast?_cons] using notBrace.symm

theorem head?_escapeAll_ne (chars : List Char) : (escapeAll chars).toList.head? ≠ some '"' := by
  cases chars with
  | nil => simp [escapeAll]
  | cons c rest =>
      intro same
      obtain ⟨more, begins⟩ := List.head?_eq_some_iff.mp same
      rw [escapeAll_cons] at begins
      exact (escape_escaped c).head_ne begins

/-- Two stretches of text in a row. -/
theorem NoQuoteAfter.append {before : Char} {front back : List Char}
    (first : NoQuoteAfter before front) (second : NoQuoteAfter before back)
    (between : back.head? ≠ some '"' ∨ front.getLast? ≠ some before) :
    NoQuoteAfter before (front ++ back) := by
  refine List.isChain_append.mpr ⟨first, second, fun last isLast head isHead isQuote => ?_⟩
  rintro rfl
  rcases between with noQuote | notBefore
  · exact noQuote (isQuote ▸ isHead)
  · exact notBefore isLast

theorem getLast?_escapeAll_ne {before : Char} {chars : List Char}
    (notLast : chars.getLast? ≠ some before)
    (notBrace : before ≠ '\x7d') (notMark : unescape before = none) :
    (escapeAll chars).toList.getLast? ≠ some before := by
  induction chars using List.reverseRecOn with
  | nil => simp [escapeAll]
  | append_singleton front c _ =>
      have spelled : (escapeAll (front ++ [c])).toList =
          (escapeAll front).toList ++ (escape '"' c).toList := by
        simp [escapeAll]
      have notSame : c ≠ before := by simpa using notLast
      have last := (escape_escaped c).getLast?_ne notSame notBrace notMark
      rw [spelled, List.getLast?_append]
      cases ends : (escape '"' c).toList.getLast? with
      | some final =>
          rw [ends] at last
          simpa using last
      | none =>
          have := escape_escaped c
          rw [List.getLast?_eq_none_iff.mp ends] at this
          cases this

section

variable {before : Char} (notBackslash : before ≠ '\\')

include notBackslash

theorem noQuoteAfter_escapeAll (chars : List Char) :
    NoQuoteAfter before (escapeAll chars).toList := by
  induction chars with
  | nil =>
      simp only [escapeAll, List.map_nil, String.join_nil]
      exact List.isChain_nil
  | cons c rest induction =>
      rw [escapeAll_cons]
      exact (noQuoteAfter_escaped notBackslash (escape_escaped c)).append induction
        (.inl (head?_escapeAll_ne rest))

/-- In a quoted text and even before it, if only the closing quote is left out. -/
theorem noQuoteAfter_opened (notQuote : before ≠ '"') (text : String) :
    NoQuoteAfter before ('"' :: (escapeAll text.toList).toList) := by
  refine (NoQuoteAfter.append (List.isChain_singleton '"')
    (noQuoteAfter_escapeAll notBackslash text.toList) (.inr ?_))
  simpa using notQuote.symm

theorem noQuoteAfter_quote (notQuote : before ≠ '"') (notBrace : before ≠ '\x7d')
    (notMark : unescape before = none) {text : String}
    (notLast : text.toList.getLast? ≠ some before) :
    NoQuoteAfter before (quote text).toList := by
  rw [toList_quote, ← List.cons_append]
  refine (noQuoteAfter_opened notBackslash notQuote text).append (List.isChain_singleton _)
    (.inr ?_)
  have last := getLast?_escapeAll_ne notLast notBrace notMark
  rw [List.getLast?_cons]
  cases ends : (escapeAll text.toList).toList.getLast? with
  | none => simpa using notQuote.symm
  | some final =>
      rw [ends] at last
      simpa using last

end

/-! ## Lists of quoted texts -/

/-- Quoted texts with commas between them. -/
theorem toList_quotes_cons_cons (text next : String) (rest : List String) :
    (",".intercalate ((text :: next :: rest).map quote)).toList =
      (quote text).toList ++ ',' :: (",".intercalate ((next :: rest).map quote)).toList := by
  simp [String.intercalate_cons_cons]

/-- A list of quoted texts begins with a quote. -/
theorem quotes_cons_toList (text : String) (texts : List String) :
    ∃ rest, (",".intercalate ((text :: texts).map quote)).toList = '"' :: rest := by
  cases texts with
  | nil => exact ⟨_, by rw [List.map_singleton, String.intercalate_singleton, toList_quote]⟩
  | cons next texts =>
      rw [toList_quotes_cons_cons, toList_quote, List.cons_append]
      exact ⟨_, rfl⟩

/-- A list of quoted texts ends in a quote. -/
theorem getLast?_quotes_cons (text : String) (texts : List String) :
    (",".intercalate ((text :: texts).map quote)).toList.getLast? = some '"' := by
  induction texts generalizing text with
  | nil => simp [toList_quote, List.getLast?_cons]
  | cons next texts induction =>
      have last := induction next
      obtain ⟨rest, begins⟩ := quotes_cons_toList next texts
      rw [begins] at last
      rw [toList_quotes_cons_cons, begins, List.getLast?_append, List.getLast?_cons_cons, last]
      rfl

theorem quotes_inj {texts others : List String}
    (same : ",".intercalate (texts.map quote) = ",".intercalate (others.map quote)) :
    texts = others := by
  induction texts generalizing others with
  | nil =>
      cases others with
      | nil => rfl
      | cons other rest =>
          have lists := congrArg String.toList same
          cases rest <;> simp [toList_quote, String.intercalate_cons_cons] at lists
  | cons text texts induction =>
      have lists := congrArg String.toList same
      cases others with
      | nil => cases texts <;> simp [toList_quote, String.intercalate_cons_cons] at lists
      | cons other others =>
          cases texts with
          | nil =>
              cases others with
              | nil => simpa using quote_inj (by simpa using same)
              | cons next others =>
                  rw [toList_quotes_cons_cons, List.map_singleton,
                    String.intercalate_singleton] at lists
                  have whole : (quote text).toList ++ [] = _ := (List.append_nil _).trans lists
                  cases (quote_append_inj whole).2
          | cons next texts =>
              cases others with
              | nil =>
                  rw [toList_quotes_cons_cons, List.map_singleton,
                    String.intercalate_singleton] at lists
                  have whole : _ = (quote other).toList ++ [] :=
                    lists.trans (List.append_nil _).symm
                  cases (quote_append_inj whole).2
              | cons otherNext others =>
                  rw [toList_quotes_cons_cons, toList_quotes_cons_cons] at lists
                  obtain ⟨rfl, tails⟩ := quote_append_inj lists
                  rw [induction (String.toList_inj.mp (List.cons.inj tails).2)]

theorem noQuoteAfter_quotes {before : Char} (notBackslash : before ≠ '\\')
    (notQuote : before ≠ '"') (notBrace : before ≠ '\x7d') (notMark : unescape before = none)
    (notComma : before ≠ ',') {texts : List String}
    (notLast : ∀ text ∈ texts, text.toList.getLast? ≠ some before) :
    NoQuoteAfter before (",".intercalate (texts.map quote)).toList := by
  induction texts with
  | nil => exact noQuoteAfter_of_notMem (by simp)
  | cons text texts induction =>
      have here := noQuoteAfter_quote notBackslash notQuote notBrace notMark
        (notLast text (by simp))
      cases texts with
      | nil => simpa using here
      | cons next texts =>
          have rest := induction fun text member => notLast text (.tail _ member)
          rw [toList_quotes_cons_cons, ← List.singleton_append]
          have comma : NoQuoteAfter before [','] := List.isChain_singleton ','
          refine here.append (comma.append rest (.inr ?_)) (.inl ?_)
          · simpa using notComma.symm
          · simp

end Packrat
