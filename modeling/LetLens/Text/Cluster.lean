import LetLens.Text.Emoji
import LetLens.Text.Mark
import LetLens.Text.Syllable

/-! Clusters: what a reader takes for one character, such as a letter with its accents, a syllable,
a flag or several emoji joined to one. `clusters` cuts a text into them by the rules of Unicode for
extended grapheme clusters. -/

namespace LetLens

/-- Line ends, controls and formatting characters, which are clusters of their own. -/
def standalone : CharSet :=
  [⟨0x0, 0x1f⟩, ⟨0x7f, 0x9f⟩, ⟨0xad, 0xad⟩, ⟨0x61c, 0x61c⟩, ⟨0x180e, 0x180e⟩, ⟨0x200b, 0x200b⟩,
   ⟨0x200e, 0x200f⟩, ⟨0x2028, 0x202e⟩, ⟨0x2060, 0x206f⟩, ⟨0xfeff, 0xfeff⟩, ⟨0xfff0, 0xfffb⟩,
   ⟨0x13430, 0x1343f⟩, ⟨0x1bca0, 0x1bca3⟩, ⟨0x1d173, 0x1d17a⟩, ⟨0xe0000, 0xe001f⟩,
   ⟨0xe0080, 0xe00ff⟩, ⟨0xe01f0, 0xe0fff⟩]

/-- Signs that belong to the character after them. -/
def prepended : CharSet :=
  [⟨0x600, 0x605⟩, ⟨0x6dd, 0x6dd⟩, ⟨0x70f, 0x70f⟩, ⟨0x890, 0x891⟩, ⟨0x8e2, 0x8e2⟩, ⟨0xd4e, 0xd4e⟩,
   ⟨0x110bd, 0x110bd⟩, ⟨0x110cd, 0x110cd⟩, ⟨0x111c2, 0x111c3⟩, ⟨0x113d1, 0x113d1⟩,
   ⟨0x1193f, 0x1193f⟩, ⟨0x11941, 0x11941⟩, ⟨0x11a84, 0x11a89⟩, ⟨0x11d46, 0x11d46⟩,
   ⟨0x11f02, 0x11f02⟩]

/-- Characters that change the one before them. -/
def isModifier (c : Char) : Bool := combining.has c || Emoji.isSkinTone c

/-- The text that ends with `back`, read backwards, ends with a consonant and a virama. -/
def endsWithVirama (back : List Char) : Bool :=
  let isMark := fun c => c = Emoji.joiner || combining.has c && c ≠ '\u200c'
  (back.takeWhile isMark).any viramas.has && (back.dropWhile isMark).head?.any consonants.has

/-- The text that ends with `back`, read backwards, ends with an emoji and a joiner. -/
def endsWithJoiner : List Char → Bool
  | [] => false
  | c :: back => c = Emoji.joiner && (back.dropWhile isModifier).head?.any Emoji.pictographs.has

/-- Whether `d` belongs to the cluster of `c`; before `c` the cluster has `back`, read backwards. -/
def joins (back : List Char) (c d : Char) : Bool :=
  if standalone.has c || standalone.has d then c = '\r' && d = '\n'
  else
    isModifier d || d = Emoji.joiner || spacing.has d || prepended.has c ||
    Hangul.continues c d ||
    consonants.has d && endsWithVirama (c :: back) ||
    Emoji.pictographs.has d && endsWithJoiner (c :: back) ||
    Emoji.isFlagLetter d && ((c :: back).takeWhile Emoji.isFlagLetter).length % 2 = 1

/-- The clusters of a text from its character `c` on, whose cluster has begun with `back`, read
backwards. -/
def clustersFrom (back : List Char) (c : Char) : List Char → List (List Char)
  | [] => [(c :: back).reverse]
  | d :: ds =>
    if joins back c d then clustersFrom (c :: back) d ds
    else (c :: back).reverse :: clustersFrom [] d ds

def clusters : List Char → List (List Char)
  | [] => []
  | c :: cs => clustersFrom [] c cs

end LetLens
