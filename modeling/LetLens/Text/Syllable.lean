import LetLens.Text.CharSet

/-! Letters that are written together as one syllable: Hangul letters, which stand for the start,
the middle or the end of a syllable, and the consonants of some scripts of India, which a virama
ties to the next one. -/

namespace LetLens

namespace Hangul

def starts : CharSet := [⟨0x1100, 0x115f⟩, ⟨0xa960, 0xa97c⟩]

def vowels : CharSet := [⟨0x1160, 0x11a7⟩, ⟨0xd7b0, 0xd7c6⟩]

def endings : CharSet := [⟨0x11a8, 0x11ff⟩, ⟨0xd7cb, 0xd7fb⟩]

def syllables : CharSet := [⟨0xac00, 0xd7a3⟩]

/-- A whole syllable without an ending; every vowel is followed by its 27 syllables with one. -/
def isOpen (c : Char) : Bool := syllables.has c && (c.toNat - 0xac00) % 28 = 0

/-- Whether `d` goes on with the syllable that `c` is the last character of. -/
def continues (c d : Char) : Bool :=
  starts.has c && (starts.has d || vowels.has d || syllables.has d) ||
  (vowels.has c || isOpen c) && vowels.has d ||
  (vowels.has c || endings.has c || syllables.has c) && endings.has d

end Hangul

/-- Consonants of Devanagari, Bengali, Gujarati, Oriya, Telugu and Malayalam. -/
def consonants : CharSet :=
  [⟨0x915, 0x939⟩, ⟨0x958, 0x95f⟩, ⟨0x978, 0x97f⟩, ⟨0x995, 0x9a8⟩, ⟨0x9aa, 0x9b0⟩, ⟨0x9b2, 0x9b2⟩,
   ⟨0x9b6, 0x9b9⟩, ⟨0x9dc, 0x9dd⟩, ⟨0x9df, 0x9df⟩, ⟨0x9f0, 0x9f1⟩, ⟨0xa95, 0xaa8⟩, ⟨0xaaa, 0xab0⟩,
   ⟨0xab2, 0xab3⟩, ⟨0xab5, 0xab9⟩, ⟨0xaf9, 0xaf9⟩, ⟨0xb15, 0xb28⟩, ⟨0xb2a, 0xb30⟩, ⟨0xb32, 0xb33⟩,
   ⟨0xb35, 0xb39⟩, ⟨0xb5c, 0xb5d⟩, ⟨0xb5f, 0xb5f⟩, ⟨0xb71, 0xb71⟩, ⟨0xc15, 0xc28⟩, ⟨0xc2a, 0xc39⟩,
   ⟨0xc58, 0xc5a⟩, ⟨0xd15, 0xd3a⟩]

def viramas : CharSet :=
  [⟨0x94d, 0x94d⟩, ⟨0x9cd, 0x9cd⟩, ⟨0xacd, 0xacd⟩, ⟨0xb4d, 0xb4d⟩, ⟨0xc4d, 0xc4d⟩, ⟨0xd4d, 0xd4d⟩]

end LetLens
