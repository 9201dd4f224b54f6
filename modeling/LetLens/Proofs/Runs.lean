import LetLens.Proofs.Span

/-! Runs: the stretches of a list, as long as they can be, whose elements are all of one class. In a
list that is put together from stretches inside and outside of the class, these are the stretches
inside. -/

namespace LetLens

variable {α : Type} {p : α → Bool} {cs run : List α} {start : Nat}

/-- `run` stands in `cs` behind `start` elements, all of it is of the class, and what stands next to
it on either side is not. -/
structure IsRun (p : α → Bool) (cs : List α) (start : Nat) (run : List α) : Prop where
  ne_nil : run ≠ []
  all : ∀ a ∈ run, p a
  exists_eq : ∃ before after, cs = before ++ run ++ after ∧ before.length = start ∧
    (∀ a ∈ before.getLast?, p a = false) ∧ ∀ a ∈ after.head?, p a = false

theorem IsRun.congr {q : α → Bool} (hSame : ∀ a ∈ cs, p a = q a) (h : IsRun p cs start run) :
    IsRun q cs start run := by
  obtain ⟨hNil, hAll, before, after, rfl, hStart, hBefore, hAfter⟩ := h
  have hIn {a : α} (ha : a ∈ before ∨ a ∈ run ∨ a ∈ after) : p a = q a := by
    apply hSame
    rwa [List.append_assoc, List.mem_append, List.mem_append]
  refine ⟨hNil, fun a ha => ?_, before, after, rfl, hStart, fun a ha => ?_, fun a ha => ?_⟩
  · rw [← hIn (.inr (.inl ha)), hAll a ha]
  · rw [← hIn (.inl (List.mem_of_getLast? ha)), hBefore a ha]
  · rw [← hIn (.inr (.inr (List.mem_of_head? ha))), hAfter a ha]

theorem isRun_of_forall {l : List α} (hl : ∀ a ∈ l, p a) :
    IsRun p l start run ↔ l ≠ [] ∧ start = 0 ∧ run = l := by
  constructor
  · rintro ⟨hNil, -, before, after, rfl, rfl, hBefore, hAfter⟩
    have hFront : before = [] := by
      rcases List.eq_nil_or_concat before with hNone | ⟨before, a, rfl⟩
      · exact hNone
      · exact absurd (hBefore a (by simp)) (by simp [hl a (by simp)])
    have hBack : after = [] := by
      cases after with
      | nil => rfl
      | cons a after => exact absurd (hAfter a rfl) (by simp [hl a (by simp)])
    subst hFront hBack
    simpa using hNil
  · rintro ⟨hNil, rfl, rfl⟩
    exact ⟨hNil, hl, [], [], by simp, rfl, by simp, by simp⟩

theorem not_isRun_of_forall_not {l : List α} (hl : ∀ a ∈ l, p a = false) :
    ¬IsRun p l start run := by
  rintro ⟨hNil, hAll, before, after, rfl, -⟩
  obtain ⟨a, as, rfl⟩ := List.exists_cons_of_ne_nil hNil
  have hIn := hAll a List.mem_cons_self
  rw [hl a (by simp)] at hIn
  exact Bool.noConfusion hIn

section Append

variable {l : List α} (hApart : ∀ a ∈ l.getLast?, ∀ b ∈ cs.head?, p a = false ∨ p b = false)
include hApart

theorem IsRun.append_left (h : IsRun p l start run) : IsRun p (l ++ cs) start run := by
  obtain ⟨hNil, hAll, before, after, rfl, hStart, hBefore, hAfter⟩ := h
  refine ⟨hNil, hAll, before, after ++ cs, List.append_assoc .., hStart, hBefore, ?_⟩
  cases after with
  | cons a after => exact hAfter
  | nil =>
    -- The run ends where `l` does.
    obtain ⟨r, a, rfl⟩ := List.eq_nil_or_concat run |>.resolve_left hNil
    intro b hb
    exact (hApart a (by simp) b hb).resolve_left (by simp [hAll a (by simp)])

theorem IsRun.append_right (h : IsRun p cs start run) :
    IsRun p (l ++ cs) (l.length + start) run := by
  obtain ⟨hNil, hAll, before, after, rfl, hStart, hBefore, hAfter⟩ := h
  refine ⟨hNil, hAll, l ++ before, after, by simp, by rw [List.length_append, hStart], ?_, hAfter⟩
  rcases List.eq_nil_or_concat before with rfl | ⟨before, a, rfl⟩
  · -- The run starts right behind `l`.
    obtain ⟨b, r, rfl⟩ := List.exists_cons_of_ne_nil hNil
    intro a ha
    rw [List.append_nil] at ha
    exact (hApart a ha b rfl).resolve_right (by simp [hAll b List.mem_cons_self])
  · simpa using hBefore

/-- If the elements on both sides of a place are not both of the class, no run goes over it. -/
theorem isRun_append_iff : IsRun p (l ++ cs) start run ↔
    IsRun p l start run ∨ ∃ k, start = l.length + k ∧ IsRun p cs k run := by
  constructor
  · rintro ⟨hNil, hAll, before, after, hList, hStart, hBefore, hAfter⟩
    rw [List.append_assoc] at hList
    rcases List.append_eq_append_iff.mp hList with ⟨x, rfl, rfl⟩ | ⟨x, rfl, hRest⟩
    · refine .inr ⟨x.length, by rw [← hStart, List.length_append], hNil, hAll, x, after,
        (List.append_assoc ..).symm, rfl, fun a ha => ?_, hAfter⟩
      exact hBefore a (by rw [List.getLast?_append, ha]; rfl)
    rcases List.append_eq_append_iff.mp hRest with ⟨y, rfl, rfl⟩ | ⟨y, rfl, rfl⟩
    · refine .inl ⟨hNil, hAll, before, y, (List.append_assoc ..).symm, hStart, hBefore,
        fun a ha => ?_⟩
      exact hAfter a (by rw [List.head?_append, ha]; rfl)
    -- Now `x` is the part of the run in front of the place, and `y` the part behind it.
    rcases List.eq_nil_or_concat x with rfl | ⟨x, a, rfl⟩
    · exact .inr ⟨0, by simpa using hStart.symm, hNil, hAll, [], after, by simp, rfl, by simp,
        hAfter⟩
    cases y with
    | nil => exact .inl ⟨hNil, hAll, before, [], by simp, hStart, hBefore, by simp⟩
    | cons b y =>
      rcases hApart a (by simp) b rfl with hOut | hOut
      · simp [hAll a (by simp)] at hOut
      · simp [hAll b (by simp)] at hOut
  · rintro (hRun | ⟨k, rfl, hRun⟩)
    · exact hRun.append_left hApart
    · exact hRun.append_right hApart

end Append

end LetLens
