import LetLens.Screen.Area

/-! Scroll offsets: how many items of a list have moved out of sight at the top. An offset is a
number of 64 bits, and moving it stops at either end of that range. `settle` brings it back to where
the last page is full, or to zero when everything fits. -/

namespace LetLens

structure Offset where
  value : Nat
  value_lt : value < UInt64.size
deriving DecidableEq

namespace Offset

def zero : Offset := ⟨0, by decide⟩

def ofNat (n : Nat) : Offset :=
  ⟨min n (UInt64.size - 1), by simp only [UInt64.size]; omega⟩

def up (n : Nat) (o : Offset) : Offset := ⟨o.value - n, by have := o.value_lt; omega⟩

def down (n : Nat) (o : Offset) : Offset := ofNat (o.value + n)

def atMost (bound : Nat) (o : Offset) : Offset :=
  ⟨min o.value bound, by have := o.value_lt; omega⟩

@[ext] theorem ext {a b : Offset} (h : a.value = b.value) : a = b := by
  cases a
  cases b
  simpa using h

end Offset

/-- The number of items that a framed area has room for; a smaller area counts as one row. -/
def visibleRows (a : Area) : Nat := max (a.height - 2) 1

/-- The offset at which `total` items are shown in `a`. -/
def Offset.settle (total : Nat) (a : Area) (o : Offset) : Offset := o.atMost (total - visibleRows a)

theorem Offset.settle_settle (total : Nat) (a : Area) (o : Offset) :
    (o.settle total a).settle total a = o.settle total a := by
  ext
  simp only [settle, atMost]
  omega

/-- The items of `l` that `a` shows. -/
def Offset.window {α : Type} (o : Offset) (a : Area) (l : List α) : List α :=
  (l.drop o.value).take (visibleRows a)

end LetLens
