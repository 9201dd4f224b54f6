import LetLens.Text.Cluster
import LetLens.Text.Wide

/-! The width of a text on a screen of cells. It is the sum of the widths of its characters, except
that emoji with a selector, a skin tone or a joiner take the room of one emoji, and that a carriage
return and a line feed together take none. -/

namespace LetLens

/-- Signs without a width that are neither marks nor ignorable. -/
def zeroWidthSigns : CharSet :=
  [⟨0x605, 0x605⟩, ⟨0x70f, 0x70f⟩, ⟨0x890, 0x891⟩, ⟨0x8e2, 0x8e2⟩, ⟨0xd4e, 0xd4e⟩, ⟨0xa8fa, 0xa8fa⟩,
   ⟨0x111c2, 0x111c3⟩, ⟨0x1193f, 0x1193f⟩, ⟨0x11941, 0x11941⟩, ⟨0x11a3a, 0x11a3a⟩,
   ⟨0x11a84, 0x11a89⟩, ⟨0x11d46, 0x11d46⟩, ⟨0x11f02, 0x11f02⟩]

def isZeroWidth (c : Char) : Bool :=
  combining.has c || ignorable.has c || Hangul.vowels.has c || Hangul.endings.has c ||
  zeroWidthSigns.has c

/-- The number of cells that a character takes by itself. A control character takes one, a line
feed none. -/
def charWidth (c : Char) : Nat :=
  if c = '\n' then 0
  else if c ≤ '\u00a0' then 1
  else if c = '\u17d8' then 3
  else if c = '\u115f' || c = '\u17a4' then 2
  else if c = '\u2d7f' then 1
  else if isZeroWidth c then 0
  else if wide.has c then 2
  else 1

/-- What follows a character, as far as its width depends on it. The emoji before a selector is
`joined` if a joiner and another emoji come after the selector, and it then adds no width. -/
inductive Follower
  | other
  | lineFeed
  | textSelector
  | emojiSelector (joined : Bool)
  | skinTone
  | emoji
  | joinedEmoji
deriving DecidableEq

namespace Follower

def ofChar (c : Char) : Follower :=
  if c = '\n' then lineFeed
  else if c = Emoji.asText then textSelector
  else if c = Emoji.asEmoji then emojiSelector false
  else if Emoji.isSkinTone c then skinTone
  else if Emoji.byDefault.has c then emoji
  else other

/-- The width of `c` before `f` and what it is there to the character before it, if that is not as
it would be without `f`. -/
def meet? (f : Follower) (c : Char) : Option (Nat × Follower) :=
  match f with
  | other => none
  | lineFeed => if c = '\r' then some (0, other) else none
  | textSelector => if Emoji.withTextForm.has c then some (1, other) else none
  | emojiSelector joined =>
    if Emoji.byDefault.has c || Emoji.bySelector.has c then some (if joined then 0 else 2, emoji)
    else none
  | skinTone => if Emoji.skinToneBases.has c then some (0, emoji) else none
  | emoji => if c = Emoji.joiner then some (0, joinedEmoji) else none
  | joinedEmoji =>
    if c = Emoji.asEmoji then some (0, emojiSelector true)
    else if Emoji.isSkinTone c then some (0, skinTone)
    else if Emoji.byDefault.has c then some (0, emoji)
    else none

/-- Puts `c` before a text of which the width is known and what it is to the character before
it. -/
def measure (c : Char) (rest : Nat × Follower) : Nat × Follower :=
  let (width, f) := (rest.2.meet? c).getD (charWidth c, ofChar c)
  (width + rest.1, f)

end Follower

/-- The number of cells that a text takes. -/
def textWidth (cs : List Char) : Nat := (cs.foldr Follower.measure (0, .other)).1

end LetLens
