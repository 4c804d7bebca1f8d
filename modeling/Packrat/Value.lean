import Packrat.Text.Quoted

/-!
# Values

What parsers produce.  Parsers that produce different things live in one grammar, so
there is one type of values; what the caller's own functions produce besides is a
`datum` of a type of the caller's choice.
-/

namespace Packrat

/-- What a caller's data look like in messages. -/
class Printable (ω : Type) where
  print : ω → String

/-- A value that a parser produces. -/
inductive Value (ω : Type) where
  | unit
  | text (text : String)
  | char (char : Char)
  | list (values : List (Value ω))
  | absent
  | present (value : Value ω)
  | datum (datum : ω)

namespace Value

variable {ω : Type}

instance : Inhabited (Value ω) := ⟨unit⟩

mutual

/-- Equality of values, given equality of the caller's data. -/
def same [BEq ω] : Value ω → Value ω → Bool
  | unit, unit => true
  | text s, text t => s == t
  | char c, char d => c == d
  | list vs, list ws => sameList vs ws
  | absent, absent => true
  | present v, present w => same v w
  | datum a, datum b => a == b
  | _, _ => false

def sameList [BEq ω] : List (Value ω) → List (Value ω) → Bool
  | [], [] => true
  | v :: vs, w :: ws => same v w && sameList vs ws
  | _, _ => false

end

instance [BEq ω] : BEq (Value ω) := ⟨same⟩

mutual

/-- A value as it is written in messages. -/
def print [Printable ω] : Value ω → String
  | unit => "()"
  | text s => quote s
  | char c => quoteChar c
  | list vs => "[" ++ ", ".intercalate (printList vs) ++ "]"
  | absent => "None"
  | present v => "Some(" ++ print v ++ ")"
  | datum d => Printable.print d

def printList [Printable ω] : List (Value ω) → List String
  | [] => []
  | v :: vs => print v :: printList vs

end

end Value

end Packrat
