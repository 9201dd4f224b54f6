/-! Rectangles of cells, and how they are divided in two. A split tells both parts. They lie side by
side, in this order, and leave a hole behind them only if their shares do not make up the whole. -/

namespace LetLens

/-- `percent` hundredths of `n`, a half rounded up. -/
def portion (percent n : Nat) : Nat := (n * percent + 50) / 100

theorem portion_hundred (n : Nat) : portion 100 n = n := by
  unfold portion
  omega

theorem portion_mono {percent more : Nat} (h : percent ≤ more) (n : Nat) :
    portion percent n ≤ portion more n := by
  have hMore : n * percent ≤ n * more := Nat.mul_le_mul_left n h
  unfold portion
  omega

/-- How cells are divided in two. -/
inductive Split
  /-- Each part has so many hundredths of the cells. -/
  | shares (first second : Nat) (total_le : first + second ≤ 100 := by decide)
  /-- The second part has `size` cells, as far as the first one keeps `least`, and the first one
  takes the rest. -/
  | rest (least size : Nat)

namespace Split

def halves : Split := .shares 50 50

/-- The sizes of the parts of `n` cells. Of shares it is the places where they end that are
rounded. -/
def sizes (n : Nat) : Split → Nat × Nat
  | shares first second _ =>
    (portion first n, portion (first + second) n - portion first n)
  | rest least size =>
    let last := min size (n - least)
    (n - last, last)

/-- Whether the parts make up the whole. -/
def Full : Split → Prop
  | shares first second _ => first + second = 100
  | rest _ _ => True

theorem sizes_le (s : Split) (n : Nat) : (s.sizes n).1 + (s.sizes n).2 ≤ n := by
  cases s with
  | shares first second total_le =>
    have hWhole := portion_mono total_le n
    rw [portion_hundred] at hWhole
    have hFirst := portion_mono (Nat.le_add_right first second) n
    simp only [sizes]
    omega
  | rest least size =>
    simp only [sizes]
    omega

/-- Shares that add up to a hundred leave no hole, and neither does a rest. -/
theorem sizes_of_full {s : Split} (h : s.Full) (n : Nat) : (s.sizes n).1 + (s.sizes n).2 = n := by
  cases s with
  | shares first second total_le =>
    have hHundred : first + second = 100 := h
    have hWhole : portion (first + second) n = n := by
      rw [hHundred, portion_hundred]
    have hFirst := portion_mono (Nat.le_add_right first second) n
    simp only [sizes]
    omega
  | rest least size =>
    simp only [sizes]
    omega

end Split

structure Area where
  left : Nat
  top : Nat
  width : Nat
  height : Nat
deriving DecidableEq

namespace Area

def Covers (a : Area) (x y : Nat) : Prop :=
  (a.left ≤ x ∧ x < a.left + a.width) ∧ a.top ≤ y ∧ y < a.top + a.height

instance (a : Area) (x y : Nat) : Decidable (a.Covers x y) := by
  unfold Covers
  infer_instance

/-- The part on top, and the one below it. -/
def splitRows (s : Split) (a : Area) : Area × Area :=
  let (first, second) := s.sizes a.height
  ({ a with height := first }, { a with top := a.top + first, height := second })

/-- The part on the left, and the one beside it. -/
def splitColumns (s : Split) (a : Area) : Area × Area :=
  let (first, second) := s.sizes a.width
  ({ a with width := first }, { a with left := a.left + first, width := second })

def dropColumns (n : Nat) (a : Area) : Area :=
  { a with left := a.left + min n a.width, width := a.width - n }

/-- What a frame of one cell on each side leaves of the area. -/
def inside (a : Area) : Area := ⟨a.left + 1, a.top + 1, a.width - 2, a.height - 2⟩

/-- What of the area lies on a screen of `width` columns and `height` rows. -/
def clip (width height : Nat) (a : Area) : Area :=
  { a with width := min a.width (width - a.left), height := min a.height (height - a.top) }

theorem covers_splitRows {s : Split} (h : s.Full) (a : Area) (x y : Nat) :
    a.Covers x y ↔ (a.splitRows s).1.Covers x y ∨ (a.splitRows s).2.Covers x y := by
  have hWhole := Split.sizes_of_full h a.height
  simp only [Covers, splitRows]
  omega

theorem covers_splitColumns {s : Split} (h : s.Full) (a : Area) (x y : Nat) :
    a.Covers x y ↔ (a.splitColumns s).1.Covers x y ∨ (a.splitColumns s).2.Covers x y := by
  have hWhole := Split.sizes_of_full h a.width
  simp only [Covers, splitColumns]
  omega

end Area

end LetLens
