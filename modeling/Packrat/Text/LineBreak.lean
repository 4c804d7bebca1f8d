import Packrat.Text.Category
import Packrat.Text.LineBreakTable
import Packrat.Text.Property

/-!
# Line breaking opportunities

Where a line of text may be broken, by the Unicode line breaking algorithm: every
character has a class, and rules that are tried in order say whether there may be a
break between two characters.  A rule looks at the two characters, with the marks that
are attached to the first one left out, and at what comes before a run of spaces.
-/

namespace Packrat.LineBreak

/-- The line breaking classes. -/
inductive Class where
  | bk | cr | lf | cm | nl | wj | zw | gl | sp | zwj
  | b2 | ba | bb | hy | cb
  | cl | cp | ex | inseparable | ns | op | qu
  | is | nu | po | pr | sy
  | al | eb | em | h2 | h3 | hl | id | jl | jv | jt | ri
deriving DecidableEq

/-- The class of an abbreviation, for a character of its own.  The classes that
languages would settle are settled as for most of them. -/
def Class.ofLabel (c : Char) : String → Class
  | "BK" => bk
  | "CR" => cr
  | "LF" => lf
  | "CM" => cm
  | "NL" => nl
  | "WJ" => wj
  | "ZW" => zw
  | "GL" => gl
  | "SP" => sp
  | "ZWJ" => zwj
  | "B2" => b2
  | "BA" => ba
  | "BB" => bb
  | "HY" => hy
  | "CB" => cb
  | "CL" => cl
  | "CP" => cp
  | "EX" => ex
  | "IN" => inseparable
  | "NS" => ns
  | "CJ" => ns
  | "OP" => op
  | "QU" => qu
  | "IS" => is
  | "NU" => nu
  | "PO" => po
  | "PR" => pr
  | "SY" => sy
  | "EB" => eb
  | "EM" => em
  | "H2" => h2
  | "H3" => h3
  | "HL" => hl
  | "ID" => id
  | "JL" => jl
  | "JV" => jv
  | "JT" => jt
  | "RI" => ri
  | "SA" => if category c == "Mn" || category c == "Mc" then cm else al
  | _ => al

/-- A character as the rules see it. -/
structure Glyph where
  kind : Class
  /-- Whether it is wide, as characters of East Asian texts are. -/
  wide : Bool
  /-- Whether it is kept for a picture that there is none of yet. -/
  unassignedPicture : Bool
deriving DecidableEq

def Glyph.ofChar (c : Char) : Glyph :=
  ⟨.ofLabel c (lineBreakLabels.get "XX" c), eastAsianWide.contains c,
    extendedPictographic.contains c && category c == "Cn"⟩

/-- What the rules know of the text before a place. -/
structure Before where
  /-- The last character that is not a space, without the marks attached to it. -/
  base : Glyph
  /-- The base of the character before that one. -/
  earlier : Option Class
  /-- Whether spaces follow it. -/
  spaces : Bool
  /-- How many regional indicators in a row it is the last of. -/
  indicators : Nat
  /-- Whether the very last character joins what is beside it. -/
  joins : Bool

/-- A class that marks are never attached to. -/
def Class.standsAlone : Class → Bool
  | bk | cr | lf | nl | sp | zw => true
  | _ => false

def Class.isMark : Class → Bool
  | cm | zwj => true
  | _ => false

def Class.isLetter : Class → Bool
  | al | hl => true
  | _ => false

def Class.isPictorial : Class → Bool
  | id | eb | em => true
  | _ => false

def Class.isHangul : Class → Bool
  | jl | jv | jt | h2 | h3 => true
  | _ => false

/-- Whether a number goes on from one class to the next. -/
def Class.continuesNumber : Class → Class → Bool
  | cl, po | cp, po | cl, pr | cp, pr | nu, po | nu, pr => true
  | po, op | po, nu | pr, op | pr, nu => true
  | hy, nu | is, nu | nu, nu | sy, nu => true
  | _, _ => false

/-- Whether a syllable goes on from one class to the next. -/
def Class.continuesSyllable : Class → Class → Bool
  | jl, jl | jl, jv | jl, h2 | jl, h3 => true
  | jv, jv | jv, jt | h2, jv | h2, jt => true
  | jt, jt | h3, jt => true
  | _, _ => false

/-- Whether a line must end after a character of one class, before one of the next. -/
def mustBreak : Class → Class → Bool
  | .bk, _ | .lf, _ | .nl, _ => true
  | .cr, next => next != .lf
  | _, _ => false

/-- Whether no line may be broken between two neighbours, neither of them a space, by the
rules on what keeps together in any text. -/
def staysAlways (before : Before) (a b : Class) : Bool :=
  a == .wj || b == .wj || a == .gl || (b == .gl && a != .ba && a != .hy) ||
    a == .qu || b == .qu ||
    (a != .cb && b != .cb &&
      (b == .ba || b == .hy || b == .ns || a == .bb ||
        (before.earlier == some .hl && (a == .hy || a == .ba)) ||
        (a == .sy && b == .hl) || b == .inseparable))

/-- Whether no line may be broken between two neighbours, neither of them a space, by the
rules on words, numbers, syllables and pictures. -/
def staysTogether (before : Before) (next : Glyph) (a b : Class) : Bool :=
  (a.isLetter && b == .nu) || (a == .nu && b.isLetter) ||
  (a == .pr && b.isPictorial) || (a.isPictorial && b == .po) ||
  ((a == .pr || a == .po) && b.isLetter) || (a.isLetter && (b == .pr || b == .po)) ||
  a.continuesNumber b || a.continuesSyllable b ||
  (a.isHangul && b == .po) || (a == .pr && b.isHangul) ||
  (a.isLetter && b.isLetter) || (a == .is && b.isLetter) ||
  ((a.isLetter || a == .nu) && b == .op && !next.wide) ||
  (a == .cp && !before.base.wide && (b.isLetter || b == .nu)) ||
  (a == .ri && b == .ri && before.indicators % 2 == 1) ||
  ((a == .eb || before.base.unassignedPicture) && b == .em)

/-- Whether a line may be broken after `before` and before `next`. -/
def mayBreak (before : Before) (next : Glyph) : Bool :=
  let a := before.base.kind
  let b := if next.kind.isMark then .al else next.kind
  if !before.spaces && mustBreak a b then true
  else if before.joins then false
  else
    match b with
    | .bk | .cr | .lf | .nl | .sp | .zw => false
    | _ =>
      if a == .zw then true
      else if b == .cl || b == .cp || b == .ex || b == .is || b == .sy then false
      else if a == .op then false
      else if a == .qu && b == .op then false
      else if (a == .cl || a == .cp) && b == .ns then false
      else if a == .b2 && b == .b2 then false
      else if b == .wj then false
      else if before.spaces then true
      else !(staysAlways before a b) &&
        (a == .cb || b == .cb || !(staysTogether before next a b))

/-- Whether a mark attaches to what is before it. -/
def attaches (before : Before) (next : Glyph) : Bool :=
  next.kind.isMark && !before.spaces && !before.base.kind.standsAlone

/-- What is known of the text once `next` has been added to it. -/
def Before.add (before : Before) (next : Glyph) : Before :=
  let joins := next.kind == .zwj
  if attaches before next then { before with joins }
  else if next.kind == .sp then
    if before.base.kind.standsAlone && before.base.kind != .zw then
      ⟨next, some before.base.kind, true, 0, false⟩
    else { before with spaces := true, joins := false }
  else
    let base := if next.kind.isMark then { next with kind := .al } else next
    let earlier := if before.spaces then some .sp else some before.base.kind
    let indicators :=
      if base.kind != .ri then 0
      else if before.spaces then 1
      else before.indicators + 1
    ⟨base, earlier, false, indicators, joins⟩

/-- What is known of a text that starts with `first`. -/
def Before.start (first : Glyph) : Before :=
  let base := if first.kind.isMark then { first with kind := .al } else first
  ⟨base, none, first.kind == .sp, if base.kind == .ri then 1 else 0, first.kind == .zwj⟩

/-- Cuts a text at its opportunities, given the part read since the last one, in
reverse. -/
def piecesFrom (before : Before) : List Char → List Char → List (List Char)
  | piece, [] => [piece.reverse]
  | piece, c :: rest =>
    let next := Glyph.ofChar c
    if !attaches before next && mayBreak before next then
      piece.reverse :: piecesFrom (before.add next) [c] rest
    else piecesFrom (before.add next) (c :: piece) rest

/-- The pieces of a text between its line breaking opportunities. -/
def pieces : List Char → List (List Char)
  | [] => []
  | c :: rest => piecesFrom (.start (.ofChar c)) [c] rest

end Packrat.LineBreak
