import Packrat.Text.Property
import Packrat.Text.WidthTable

/-!
# Widths

How many columns of a terminal a text takes.  Most characters take the columns that
they take alone; a few go by what follows them, so a text is measured from its end.
-/

namespace Packrat

/-- The columns that a character takes alone. -/
def charWidth (c : Char) : Nat :=
  if zeroWidth.contains c then 0 else if doubleWidth.contains c then 2 else 1

/-- What the width of a character may depend on: what comes after it. -/
inductive Following where
  | ordinary
  | lineFeed
  /-- An alef, perhaps with marks before it, which a lam forms one letter with. -/
  | alef
  /-- A skin tone. -/
  | skinTone
  /-- A picture. -/
  | picture
  /-- A joiner and a picture. -/
  | joinedPicture
  /-- A request to be shown as a picture, which a joined picture may follow. -/
  | asPicture (joined : Bool)
  /-- A request to be shown as text. -/
  | asText
deriving DecidableEq

def isRegionalIndicator (c : Char) : Bool := 0x1F1E6 ≤ c.toNat && c.toNat ≤ 0x1F1FF

def isSkinTone (c : Char) : Bool := 0x1F3FB ≤ c.toNat && c.toNat ≤ 0x1F3FF

/-- Whether a character can be shown as a picture. -/
def isPicturable (c : Char) : Bool :=
  emoji.contains c && !isRegionalIndicator c && !isSkinTone c

/-- Whether a character is shown as a picture by itself. -/
def isPicture (c : Char) : Bool := emojiPresentation.contains c && isPicturable c

/-- The width of a character, and what it is to the one before it, by what follows. -/
def widthBefore (c : Char) (next : Following) : Nat × Following :=
  match next with
  | .asPicture joined =>
    if isPicturable c then (if joined then 0 else 2, .picture) else alone c
  | .asText => if isPicture c then (1, .ordinary) else alone c
  | .lineFeed => if c = '\r' then (0, .ordinary) else alone c
  | .alef =>
    if lamLetters.contains c then (0, .ordinary)
    else if joiningTransparent.contains c && charWidth c == 0 then (0, .alef)
    else alone c
  | .skinTone => if emojiModifierBase.contains c then (0, .picture) else alone c
  | .picture => if c = '\u200d' then (0, .joinedPicture) else alone c
  | .joinedPicture =>
    if c = '\ufe0f' then (0, .asPicture true)
    else if isSkinTone c then (0, .skinTone)
    else if isPicture c then (0, .picture)
    else alone c
  | .ordinary => alone c
where
  /-- The width of a character that what follows does not change. -/
  alone (c : Char) : Nat × Following :=
    if c ≤ '\u00a0' then (1, if c = '\n' then .lineFeed else .ordinary)
    else if c = '\ufe0f' then (0, .asPicture false)
    else if c = '\ufe0e' then (0, .asText)
    else (charWidth c,
      if alefLetters.contains c then .alef
      else if isSkinTone c then .skinTone
      else if isPicture c then .picture
      else .ordinary)

/-- The columns that a text takes. -/
def textWidth (chars : List Char) : Nat :=
  (chars.foldr (fun c (width, next) =>
    let (columns, here) := widthBefore c next
    (columns + width, here)) (0, .ordinary)).1

end Packrat
