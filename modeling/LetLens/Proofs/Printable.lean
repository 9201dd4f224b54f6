import LetLens.Screen.Row
import LetLens.Text.Padding
import LetLens.Token.Basic

/-! Printable text: the space and the visible characters of ASCII. Each of them is a cluster of its
own and takes one cell, so a row shows such a text character by character, as far as it goes. -/

namespace LetLens

def IsPrintable (c : Char) : Prop := 0x20 ≤ c.toNat ∧ c.toNat < 0x7f

instance (c : Char) : Decidable (IsPrintable c) := by
  unfold IsPrintable
  infer_instance

/-- There are so few of them that a property can be tried on each. -/
theorem IsPrintable.of_forall {P : Char → Prop} (h : ∀ n < 0x7f, 0x20 ≤ n → P (.ofNat n)) {c : Char}
    (hc : IsPrintable c) : P c := by
  rw [← Char.ofNat_toNat c]
  exact h c.toNat hc.2 hc.1

theorem isPrintable_of_isAlphanum {c : Char} (h : c.isAlphanum) : IsPrintable c := by
  unfold Char.isAlphanum Char.isAlpha Char.isUpper Char.isLower Char.isDigit at h
  simp only [Bool.or_eq_true, Bool.and_eq_true, decide_eq_true_eq, ge_iff_le,
    UInt32.le_iff_toNat_le] at h
  change ((65 ≤ c.toNat ∧ c.toNat ≤ 90) ∨ 97 ≤ c.toNat ∧ c.toNat ≤ 122) ∨
    48 ≤ c.toNat ∧ c.toNat ≤ 57 at h
  simp only [IsPrintable]
  omega

theorem isDigit_of_mem_repr {n : Nat} : ∀ c ∈ n.repr.toList, c.isDigit := by
  rw [Nat.toList_repr]
  exact fun c => Nat.isDigit_of_mem_toDigits (by decide) (by decide)

/-! ### Printable texts -/

def Printable (text : String) : Prop := ∀ c ∈ text.toList, IsPrintable c

instance (text : String) : Decidable (Printable text) := List.decidableBAll _ _

namespace Printable

theorem append {a b : String} (ha : Printable a) (hb : Printable b) : Printable (a ++ b) := by
  intro c hc
  rw [String.toList_append] at hc
  rcases List.mem_append.mp hc with hc | hc
  · exact ha c hc
  · exact hb c hc

theorem repr (n : Nat) : Printable n.repr := by
  intro c hc
  have hDigit := isDigit_of_mem_repr c hc
  exact isPrintable_of_isAlphanum (by simp [Char.isAlphanum, hDigit])

theorem spaces (n : Nat) : Printable (String.ofList (List.replicate n ' ')) := by
  intro c hc
  rw [String.toList_ofList] at hc
  rw [List.eq_of_mem_replicate hc]
  decide

theorem alignRight {text : String} (h : Printable text) (width : Nat) :
    Printable (alignRight width text) := (spaces _).append h

theorem alignLeft {text : String} (h : Printable text) (width : Nat) :
    Printable (alignLeft width text) := h.append (spaces _)

theorem location (l : Location) : Printable l.text :=
  ((repr l.line).append (by decide)).append (repr l.column)

theorem spelling (k : TokenKind) : Printable k.spelling := by
  cases k <;> decide

theorem of_join {texts : List String} (h : Printable (String.join texts)) {text : String}
    (hText : text ∈ texts) : Printable text := by
  intro c hc
  apply h c
  rw [String.toList_join]
  exact List.mem_flatMap.mpr ⟨text, hText, hc⟩

end Printable

/-! ### Clusters and widths -/

theorem clusters_cons_of_apart {c d : Char} (h : joins [] c d = false) (ds : List Char) :
    clusters (c :: d :: ds) = [c] :: clusters (d :: ds) := by
  simp [clusters, clustersFrom, h]

theorem joins_of_isPrintable {c d : Char} (hc : IsPrintable c) (hd : IsPrintable d) :
    joins [] c d = false := by
  have hBefore : (standalone.has c || prepended.has c || Hangul.starts.has c) = false := by
    apply hc.of_forall
    decide +kernel
  have hBehind : (standalone.has d || isModifier d || d = Emoji.joiner || spacing.has d ||
      Hangul.vowels.has d || Hangul.endings.has d || consonants.has d || Emoji.pictographs.has d ||
      Emoji.isFlagLetter d) = false := by
    apply hd.of_forall
    decide +kernel
  simp only [Bool.or_eq_false_iff] at hBefore hBehind
  simp [joins, Hangul.continues, hBefore, hBehind]

theorem clusters_of_isPrintable {cs : List Char} (h : ∀ c ∈ cs, IsPrintable c) :
    clusters cs = cs.map ([·]) := by
  induction cs with
  | nil => rfl
  | cons c cs ih =>
    obtain ⟨hFirst, hLater⟩ := List.forall_mem_cons.mp h
    cases cs with
    | nil => rfl
    | cons d ds =>
      rw [clusters_cons_of_apart (joins_of_isPrintable hFirst (hLater d List.mem_cons_self)),
        ih hLater]
      rfl

theorem textWidth_of_isPrintable {c : Char} (h : IsPrintable c) : textWidth [c] = 1 := by
  apply h.of_forall
  decide +kernel

theorem Span.glyphs_of_printable {s : Span} (h : Printable s.text) :
    s.glyphs = s.text.toList.map fun c => ⟨String.ofList [c], 1, s.style⟩ := by
  have hShown : ∀ cluster ∈ s.text.toList.map ([·]), cluster ≠ ['\n'] := by
    intro cluster hCluster
    obtain ⟨c, hc, rfl⟩ := List.mem_map.mp hCluster
    rintro ⟨⟩
    exact absurd (h '\n' hc) (by decide)
  rw [glyphs, clusters_of_isPrintable h, List.filter_eq_self.mpr (by simpa using hShown),
    List.map_map]
  refine List.map_congr_left fun c hc => ?_
  rw [Function.comp, textWidth_of_isPrintable (h c hc)]

/-! ### Rows of narrow glyphs -/

section Narrow

variable {gs : List Glyph} (h : ∀ g ∈ gs, g.width = 1)
include h

theorem Glyph.fit_of_narrow (room : Nat) : fit room gs = gs.take room := by
  induction gs generalizing room with
  | nil => simp [fit]
  | cons g gs ih =>
    obtain ⟨hFirst, hLater⟩ := List.forall_mem_cons.mp h
    cases room with
    | zero => simp [fit, hFirst]
    | succ room => simp [fit, hFirst, ih hLater]

theorem Glyph.totalWidth_of_narrow : totalWidth gs = gs.length := by
  induction gs with
  | nil => rfl
  | cons g gs ih =>
    obtain ⟨hFirst, hLater⟩ := List.forall_mem_cons.mp h
    have hSum : totalWidth (g :: gs) = g.width + totalWidth gs := rfl
    rw [hSum, hFirst, ih hLater, List.length_cons, Nat.add_comm]

theorem Glyph.withMarks_of_narrow : withMarks gs = ("", gs.map (·, "")) := by
  induction gs with
  | nil => rfl
  | cons g gs ih =>
    obtain ⟨hFirst, hLater⟩ := List.forall_mem_cons.mp h
    simp [withMarks, hFirst, ih hLater]

end Narrow

/-- The slot of a glyph of one cell. -/
def Glyph.slot (g : Glyph) : Slot := .symbol g.symbol g.style

theorem Glyph.entrySlots_of_narrow {g : Glyph} (h : g.width = 1) : g.entrySlots "" = [g.slot] := by
  simp [entrySlots, slot, h]

theorem Span.entrySlots_of_narrow {s : Span} (h : ∀ g ∈ s.glyphs, g.width = 1) (room : Nat) :
    s.entrySlots room = (s.glyphs.take room).map Glyph.slot := by
  have hTaken : ∀ g ∈ s.glyphs.take room, g.width = 1 := fun g hg => h g (List.mem_of_mem_take hg)
  rw [entrySlots, Glyph.fit_of_narrow h, Glyph.withMarks_of_narrow hTaken]
  cases hGlyphs : s.glyphs.take room with
  | nil => rfl
  | cons g gs =>
    obtain ⟨hFirst, hLater⟩ := List.forall_mem_cons.mp (hGlyphs ▸ hTaken)
    have hRest : gs.flatMap (·.entrySlots "") = gs.map Glyph.slot := by
      rw [List.map_eq_flatMap, List.flatMap_def, List.flatMap_def]
      exact congrArg List.flatten (List.map_congr_left fun g hg =>
        Glyph.entrySlots_of_narrow (hLater g hg))
    simp only [List.map_cons, List.flatMap_map, String.empty_append,
      Glyph.entrySlots_of_narrow hFirst, hRest, List.singleton_append]

/-- The slots of an entry of narrow glyphs are these glyphs, as far as there is room. -/
theorem Row.slots_entry_of_narrow {spans : List Span}
    (h : ∀ g ∈ spans.flatMap Span.glyphs, g.width = 1) (width : Nat) (style : Style) :
    (entry width style spans).slots =
      ((spans.flatMap Span.glyphs).take width).map Glyph.slot := by
  have hSlots : ∀ room, entrySlots room spans =
      ((spans.flatMap Span.glyphs).take room).map Glyph.slot := by
    induction spans with
    | nil => simp [entrySlots]
    | cons s spans ih =>
      rw [List.flatMap_cons, List.forall_mem_append] at h
      obtain ⟨hFirst, hLater⟩ := h
      intro room
      rw [entrySlots, List.flatMap_cons, List.take_append, List.map_append, ih hLater,
        Span.entrySlots_of_narrow hFirst, Glyph.totalWidth_of_narrow hFirst]
      by_cases hRoom : room = 0 <;> simp [hRoom]
  rw [entry, hSlots, Glyph.totalWidth_of_narrow h]
  split
  · next hNone => rw [List.length_eq_zero_iff.mp hNone, List.take_nil, List.map_nil]
  · rfl

/-- An entry of narrow glyphs shows one of them in each column, all of the row in its style. -/
theorem Row.onto_entry_of_narrow {line : List Span}
    (h : ∀ g ∈ line.flatMap Span.glyphs, g.width = 1) (style : Style) {width x : Nat}
    (hx : x < width) (c : Cell) :
    (entry width style line).onto x c =
      (line.flatMap Span.glyphs)[x]?.elim (c.tint style) fun g =>
        ⟨g.symbol, g.style.onto (style.onto c.style)⟩ := by
  rw [onto, slots_entry_of_narrow h, List.getElem?_map, List.getElem?_take_of_lt hx]
  cases (line.flatMap Span.glyphs)[x]? <;> rfl

/-- An entry of printable text shows it character by character, all of the row in its style. -/
theorem Row.onto_entry_of_printable {text : String} (h : Printable text) (style : Style)
    {width x : Nat} (hx : x < width) :
    (entry width style [⟨text, .plain⟩]).onto x .blank =
      ⟨text.toList[x]?.elim " " fun c => String.ofList [c], style⟩ := by
  let line : List Span := [⟨text, .plain⟩]
  have hGlyphs : line.flatMap Span.glyphs =
      text.toList.map fun c => ⟨String.ofList [c], 1, .plain⟩ := by
    rw [List.flatMap_singleton, Span.glyphs_of_printable h]
  have hNarrow : ∀ g ∈ line.flatMap Span.glyphs, g.width = 1 := by
    simp [hGlyphs]
  rw [onto_entry_of_narrow hNarrow style hx, hGlyphs, List.getElem?_map]
  cases text.toList[x]? <;> simp [Cell.tint, Cell.blank]

/-! ### Printable lines -/

section Line

variable {line : List Span} (h : Printable (String.join (line.map (·.text))))
include h

/-- However a printable text is divided into spans, it has a glyph for each character. -/
theorem Span.width_of_mem_printable : ∀ g ∈ line.flatMap glyphs, g.width = 1 := by
  intro g hg
  obtain ⟨s, hs, hg⟩ := List.mem_flatMap.mp hg
  rw [glyphs_of_printable (h.of_join (List.mem_map_of_mem hs)), List.mem_map] at hg
  obtain ⟨c, -, rfl⟩ := hg
  rfl

theorem Span.map_symbol_of_printable : (line.flatMap glyphs).map (·.symbol) =
    (String.join (line.map (·.text))).toList.map fun c => String.ofList [c] := by
  rw [String.toList_join, List.flatMap_map, List.map_flatMap, List.map_flatMap]
  rw [List.flatMap_def, List.flatMap_def]
  refine congrArg List.flatten (List.map_congr_left fun s hs => ?_)
  rw [glyphs_of_printable (h.of_join (List.mem_map_of_mem hs)), List.map_map]
  rfl

end Line

end LetLens
