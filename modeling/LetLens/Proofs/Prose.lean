import LetLens.Proofs.Printable

/-! Rows of prose, column by column. The glyphs that a row shows stand side by side from the left, so
a column holds the first cell of one of them, or another cell of a wide one, or nothing. The row
changes the cell in the first case alone. -/

namespace LetLens

/-! ### Glyphs side by side -/

namespace Glyph

/-- The glyph whose first cell is in column `x` when `gs` are set side by side. -/
def atColumn? : List Glyph → Nat → Option Glyph
  | [], _ => none
  | g :: _, 0 => some g
  | g :: gs, x + 1 => if x + 1 < g.width then none else atColumn? gs (x + 1 - g.width)

theorem mem_of_atColumn? {gs : List Glyph} {x : Nat} {g : Glyph} (h : atColumn? gs x = some g) :
    g ∈ gs := by
  induction gs generalizing x with
  | nil => exact nomatch h
  | cons g' gs ih =>
    cases x with
    | zero =>
      obtain rfl : g' = g := Option.some.inj h
      exact List.mem_cons_self
    | succ x =>
      rw [atColumn?] at h
      split at h
      · exact nomatch h
      · exact List.mem_cons_of_mem _ (ih h)

theorem fit_prefix (room : Nat) (gs : List Glyph) : fit room gs <+: gs := by
  induction gs generalizing room with
  | nil => exact List.prefix_rfl
  | cons g gs ih =>
    rw [fit]
    split
    · exact (List.prefix_cons_inj g).mpr (ih _)
    · exact List.nil_prefix

/-- The slots of glyphs that all have a width, told by the columns that the glyphs start in. -/
theorem getD_proseSlots {gs : List Glyph} (hWidths : ∀ g ∈ gs, 0 < g.width) (x : Nat) :
    (gs.flatMap proseSlots)[x]?.getD .keep = (atColumn? gs x).elim .keep slot := by
  induction gs generalizing x with
  | nil => rfl
  | cons g gs ih =>
    obtain ⟨hFirst, hLater⟩ := List.forall_mem_cons.mp hWidths
    have hLength : g.proseSlots.length = g.width := by
      simp only [proseSlots, List.length_cons, List.length_replicate]
      omega
    rw [List.flatMap_cons]
    cases x with
    | zero => rfl
    | succ x =>
      rw [atColumn?]
      split
      · next hCovered =>
        rw [List.getElem?_append_left (by omega), proseSlots, List.getElem?_cons_succ,
          List.getElem?_replicate_of_lt (by omega)]
        rfl
      · next hBehind =>
        rw [List.getElem?_append_right (by omega), hLength]
        exact ih hLater _

section SameWidths

variable {f : Glyph → Glyph} (hf : ∀ g, (f g).width = g.width) (gs : List Glyph)
include hf

theorem fit_map (room : Nat) : fit room (gs.map f) = (fit room gs).map f := by
  induction gs generalizing room with
  | nil => rfl
  | cons g gs ih =>
    rw [List.map_cons, fit, fit, hf, ih]
    split <;> rfl

theorem atColumn?_map (x : Nat) : atColumn? (gs.map f) x = (atColumn? gs x).map f := by
  induction gs generalizing x with
  | nil => rfl
  | cons g gs ih =>
    cases x with
    | zero => rfl
    | succ x =>
      rw [List.map_cons, atColumn?, atColumn?, hf, ih]
      split <;> rfl

end SameWidths

section Narrow

variable {gs : List Glyph} (h : ∀ g ∈ gs, g.width = 1) (hs : List Glyph)
include h

theorem atColumn?_append_of_narrow (x : Nat) :
    atColumn? (gs ++ hs) x = if x < gs.length then gs[x]? else atColumn? hs (x - gs.length) := by
  induction gs generalizing x with
  | nil => rfl
  | cons g gs ih =>
    obtain ⟨hFirst, hLater⟩ := List.forall_mem_cons.mp h
    cases x with
    | zero => rfl
    | succ x => simp [atColumn?, hFirst, ih hLater]

theorem atColumn?_of_narrow (x : Nat) : atColumn? gs x = gs[x]? := by
  have hColumn := atColumn?_append_of_narrow h [] x
  rw [List.append_nil] at hColumn
  rw [hColumn]
  split
  · rfl
  · exact (List.getElem?_eq_none (by omega)).symm

/-- They are not left out of any row. -/
theorem filter_of_narrow {width : Nat} (hWidth : 0 < width) :
    gs.filter (fun g => 0 < g.width && g.width ≤ width) = gs := by
  refine List.filter_eq_self.mpr fun g hg => ?_
  simp only [h g hg, Bool.and_eq_true, decide_eq_true_eq]
  omega

/-- In front of glyphs that all have a width, as in a row. -/
theorem fit_append_of_narrow (hWidths : ∀ g ∈ hs, 0 < g.width) (room : Nat) :
    fit room (gs ++ hs) = gs.take room ++ fit (room - gs.length) hs := by
  induction gs generalizing room with
  | nil => simp
  | cons g gs ih =>
    obtain ⟨hFirst, hLater⟩ := List.forall_mem_cons.mp h
    cases room with
    | zero =>
      -- No glyph with a width has room behind the others either.
      have hFull : fit 0 hs = [] := by
        cases hs with
        | nil => rfl
        | cons g' hs => simp [fit, Nat.ne_of_gt (hWidths g' List.mem_cons_self)]
      simp [fit, hFirst, hFull]
    | succ room => simp [fit, hFirst, ih hLater]

end Narrow

end Glyph

/-! ### Rows -/

namespace Row

/-- The glyphs of a line that a row of `width` cells does not leave out, as far as there is room. -/
def kept (width : Nat) (line : List Span) : List Glyph :=
  (line.flatMap Span.glyphs).filter fun g => 0 < g.width && g.width ≤ width

theorem shown_eq (width : Nat) (line : List Span) :
    shown width line = Glyph.fit width (kept width line) := rfl

theorem width_pos_of_mem_kept {width : Nat} {line : List Span} {g : Glyph}
    (hg : g ∈ kept width line) : 0 < g.width := by
  have hKept := (List.mem_filter.mp hg).2
  rw [Bool.and_eq_true] at hKept
  exact of_decide_eq_true hKept.1

/-- A row of prose sets the cells in which its glyphs start, and keeps all others. -/
theorem onto_prose_eq (width : Nat) (line : List Span) (x : Nat) (c : Cell) :
    (prose width line).onto x c = (Glyph.atColumn? (shown width line) x).elim c fun g =>
      ⟨g.symbol, g.style.onto c.style⟩ := by
  have hWidths : ∀ g ∈ shown width line, 0 < g.width := fun g hg =>
    width_pos_of_mem_kept ((Glyph.fit_prefix _ _).mem hg)
  rw [onto, prose, Glyph.getD_proseSlots hWidths, Cell.tint_plain]
  cases Glyph.atColumn? (shown width line) x <;> rfl

/-- A row of prose of narrow glyphs shows one of them in each column. -/
theorem onto_prose_of_narrow {line : List Span} (h : ∀ g ∈ line.flatMap Span.glyphs, g.width = 1)
    {width x : Nat} (hx : x < width) (c : Cell) :
    (prose width line).onto x c = (line.flatMap Span.glyphs)[x]?.elim c fun g =>
      ⟨g.symbol, g.style.onto c.style⟩ := by
  have hTaken : ∀ g ∈ (line.flatMap Span.glyphs).take width, g.width = 1 :=
    fun g hg => h g (List.mem_of_mem_take hg)
  rw [onto_prose_eq, shown_eq, kept, Glyph.filter_of_narrow h (Nat.zero_lt_of_lt hx),
    Glyph.fit_of_narrow h, Glyph.atColumn?_of_narrow hTaken, List.getElem?_take_of_lt hx]

/-- A text without a style of its own leaves the styles of the cells as they are. -/
theorem style_onto_prose_plain (width : Nat) (text : String) (x : Nat) (c : Cell) :
    ((prose width [⟨text, .plain⟩]).onto x c).style = c.style := by
  rw [onto_prose_eq]
  cases hGlyph : Glyph.atColumn? (shown width [⟨text, .plain⟩]) x with
  | none => rfl
  | some g =>
    have hKept := (Glyph.fit_prefix _ _).mem (Glyph.mem_of_atColumn? hGlyph)
    have hMem := (List.mem_filter.mp hKept).1
    rw [List.flatMap_singleton, Span.glyphs, List.mem_map] at hMem
    obtain ⟨cluster, -, rfl⟩ := hMem
    exact Style.plain_onto c.style

end Row

end LetLens
