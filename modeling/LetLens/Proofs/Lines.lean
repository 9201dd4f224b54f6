import LetLens.Proofs.Encoding
import LetLens.Text.Lines

/-! Lists cut after the elements of a class, and the lines of texts. `IsCut` says what the pieces of
such a cut look like, and `cutAfter_eq_iff` that a list has no other cut than the one `cutAfter`
makes. In UTF-8 a line feed is one byte, and no other character has that byte in its encoding, so
the lines of an encoded text are its lines encoded, and lines that are each an encoded text are
together an encoded text. -/

namespace LetLens

/-! ### Cuts -/

section Cuts

variable {α β : Type} {p : α → Bool}

/-- Pieces that each end with their only element of the class. Only the last one may go without,
and then it is not empty. -/
inductive IsCut (p : α → Bool) : List (List α) → Prop
  | nil : IsCut p []
  | rest {l : List α} (hNil : l ≠ []) (hl : ∀ a ∈ l, p a = false) : IsCut p [l]
  | piece {l : List α} {a : α} {ls : List (List α)} (hl : ∀ b ∈ l, p b = false) (ha : p a)
      (later : IsCut p ls) : IsCut p ((l ++ [a]) :: ls)

theorem isCut_cutAfter (p : α → Bool) (l : List α) : IsCut p (cutAfter p l) := by
  induction l with
  | nil => exact .nil
  | cons a as ih =>
    unfold cutAfter
    by_cases ha : p a
    · rw [if_pos ha]
      exact .piece (l := []) (by simp) ha ih
    · -- The element joins the first piece of what follows.
      rw [if_neg ha]
      rw [Bool.not_eq_true] at ha
      generalize cutAfter p as = pieces at ih
      cases ih with
      | nil => exact .rest (by simp) (by simpa using ha)
      | rest hNil hl => exact .rest (by simp) (List.forall_mem_cons.mpr ⟨ha, hl⟩)
      | @piece l b ls hl hb later =>
        exact .piece (l := a :: l) (List.forall_mem_cons.mpr ⟨ha, hl⟩) hb later

theorem cutAfter_of_forall {l : List α} (hNil : l ≠ []) (hl : ∀ a ∈ l, p a = false) :
    cutAfter p l = [l] := by
  induction l with
  | nil => exact absurd rfl hNil
  | cons a as ih =>
    obtain ⟨ha, has⟩ := List.forall_mem_cons.mp hl
    by_cases hLast : as = []
    · simp [hLast, cutAfter, ha]
    · simp [cutAfter, ha, ih hLast has]

theorem cutAfter_append_cons {l : List α} {a : α} (hl : ∀ b ∈ l, p b = false) (ha : p a)
    (r : List α) : cutAfter p (l ++ a :: r) = (l ++ [a]) :: cutAfter p r := by
  induction l with
  | nil => simp [cutAfter, ha]
  | cons b bs ih =>
    obtain ⟨hb, hbs⟩ := List.forall_mem_cons.mp hl
    simp [cutAfter, hb, ih hbs]

theorem IsCut.cutAfter_flatten {ls : List (List α)} (h : IsCut p ls) :
    cutAfter p ls.flatten = ls := by
  induction h with
  | nil => rfl
  | rest hNil hl => simpa using cutAfter_of_forall hNil hl
  | piece hl ha later ih =>
    rw [List.flatten_cons, List.append_assoc, List.singleton_append, cutAfter_append_cons hl ha, ih]

/-- A list is cut in one way only. -/
theorem cutAfter_eq_iff {l : List α} {ls : List (List α)} :
    cutAfter p l = ls ↔ IsCut p ls ∧ ls.flatten = l := by
  constructor
  · rintro rfl
    exact ⟨isCut_cutAfter p l, flatten_cutAfter p l⟩
  · rintro ⟨h, rfl⟩
    exact h.cutAfter_flatten

theorem IsCut.left {ls ms : List (List α)} (h : IsCut p (ls ++ ms)) : IsCut p ls := by
  induction ls with
  | nil => exact .nil
  | cons l ls ih =>
    rw [List.cons_append] at h
    generalize hAll : ls ++ ms = all at h ih
    cases h with
    | rest hNil hl =>
      obtain ⟨rfl, -⟩ := List.append_eq_nil_iff.mp hAll
      exact .rest hNil hl
    | piece hl ha later => exact .piece hl ha (ih later)

/-- There is a piece for each element of the class, and one more if something stands behind the last
of them. -/
theorem IsCut.length_eq {ls : List (List α)} (h : IsCut p ls) :
    ls.length = ls.flatten.countP p + if ls.flatten.getLast?.all p then 0 else 1 := by
  induction h with
  | nil => rfl
  | @rest l hNil hl =>
    have hLast : p (l.getLast hNil) = false := hl _ (List.getLast_mem hNil)
    have hNone : l.countP p = 0 := List.countP_eq_zero.mpr fun a ha => by simp [hl a ha]
    simp [hNone, List.getLast?_eq_some_getLast hNil, hLast]
  | @piece l a ls hl ha later ih =>
    have hNone : l.countP p = 0 := List.countP_eq_zero.mpr fun a ha => by simp [hl a ha]
    have hLast : ((l ++ [a]) ++ ls.flatten).getLast?.all p = ls.flatten.getLast?.all p := by
      rw [List.getLast?_append]
      cases ls.flatten.getLast? <;> simp [ha]
    rw [List.length_cons, ih, List.flatten_cons, hLast, List.countP_append, List.countP_append,
      hNone, List.countP_singleton, if_pos ha]
    omega

/-- Elements may be spelled out in other elements, as long as those of the class become single
elements of the new class and the others have none of it in their spelling. -/
theorem IsCut.flatMap {q : β → Bool} {f : α → List β}
    (hIn : ∀ a, p a → ∃ b, f a = [b] ∧ q b)
    (hOut : ∀ a, p a = false → f a ≠ [] ∧ ∀ b ∈ f a, q b = false)
    {ls : List (List α)} (h : IsCut p ls) : IsCut q (ls.map (List.flatMap f)) := by
  have hApart {l : List α} (hl : ∀ a ∈ l, p a = false) : ∀ b ∈ l.flatMap f, q b = false := by
    intro b hb
    obtain ⟨a, ha, hb⟩ := List.mem_flatMap.mp hb
    exact (hOut a (hl a ha)).2 b hb
  induction h with
  | nil => exact .nil
  | @rest l hNil hl =>
    obtain ⟨a, as, rfl⟩ := List.exists_cons_of_ne_nil hNil
    refine .rest ?_ (hApart hl)
    simp [(hOut a (hl a List.mem_cons_self)).1]
  | @piece l a ls hl ha later ih =>
    obtain ⟨b, hb, hq⟩ := hIn a ha
    rw [List.map_cons, List.flatMap_append, List.flatMap_singleton, hb]
    exact .piece (hApart hl) hq ih

end Cuts

/-! ### Lines -/

/-- The lines of a text with their line ends. -/
def fullLines (text : String) : List String :=
  (cutAfter (· = '\n') text.toList).map String.ofList

/-- Lines that make up a text. Each ends with its only line feed, but what stands behind the last
line feed is a line too unless it is empty. -/
structure AreLines (text : String) (lines : List String) : Prop where
  join : String.join lines = text
  cut : IsCut (· = '\n') (lines.map String.toList)

theorem areLines_iff {text : String} {lines : List String} :
    AreLines text lines ↔ fullLines text = lines := by
  have hChars : fullLines text = lines ↔
      cutAfter (· = '\n') text.toList = lines.map String.toList := by
    constructor
    · rintro rfl
      simp [fullLines, Function.comp_def]
    · intro h
      simp [fullLines, h, Function.comp_def]
  rw [hChars, cutAfter_eq_iff, ← List.flatMap_def, ← String.toList_join, String.toList_inj]
  exact ⟨fun h => ⟨h.cut, h.join⟩, fun h => ⟨h.2, h.1⟩⟩

theorem areLines_fullLines (text : String) : AreLines text (fullLines text) :=
  areLines_iff.mpr rfl

/-- The number of the lines that a text is cut into for showing it. -/
theorem length_linesOf (text : String) :
    (linesOf text).length =
      text.toList.count '\n' + if text.toList.getLast?.all (· = '\n') then 0 else 1 := by
  have hCut := (isCut_cutAfter (· = '\n') text.toList).length_eq
  rw [flatten_cutAfter] at hCut
  rw [linesOf, List.length_map, hCut]
  rfl

/-- A text without line feeds is a single line. -/
theorem linesOf_of_lineFeed_not_mem {text : String} (hNil : text.toList ≠ [])
    (h : '\n' ∉ text.toList) : linesOf text = [text] := by
  have hPlain : ∀ c ∈ text.toList, decide (c = '\n') = false := by
    intro c hc
    exact decide_eq_false fun hFeed => h (hFeed ▸ hc)
  have hLine : dropLineEnd text.toList = text.toList := by
    unfold dropLineEnd
    split
    · next hBack => exact absurd (List.mem_reverse.mp (by simp [hBack])) h
    · next hBack => exact absurd (List.mem_reverse.mp (by simp [hBack])) h
    · rfl
  rw [linesOf, cutAfter_of_forall hNil hPlain, List.map_singleton, hLine, String.ofList_toList]

/-! ### Lines of bytes -/

theorem eq_lineFeed_of_mem_utf8EncodeChar {c : Char} (h : 0x0a ∈ String.utf8EncodeChar c) :
    c = '\n' := by
  apply Char.toNat_inj.mp
  exact (toNat_of_mem_utf8EncodeChar h (by decide)).symm

/-- The lines of an encoded text are its lines, encoded. -/
theorem cutAfter_encode (text : String) :
    cutAfter (· = 0x0a) (encode text) = (fullLines text).map encode := by
  obtain ⟨hJoin, hCut⟩ := areLines_fullLines text
  refine cutAfter_eq_iff.mpr ⟨?_, by rw [← encode_join, hJoin]⟩
  have hBytes : (fullLines text).map encode =
      ((fullLines text).map String.toList).map (List.flatMap String.utf8EncodeChar) := by
    simp [encode_eq_flatMap]
  rw [hBytes]
  refine hCut.flatMap (fun c hc => ?_) (fun c hc => ⟨String.utf8EncodeChar_ne_nil, fun b hb => ?_⟩)
  · obtain rfl : c = '\n' := by simpa using hc
    exact ⟨0x0a, rfl, rfl⟩
  · rw [decide_eq_false_iff_not] at hc ⊢
    rintro rfl
    exact hc (eq_lineFeed_of_mem_utf8EncodeChar hb)

end LetLens
