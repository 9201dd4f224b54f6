import LetLens.Proofs.Endings
import LetLens.Text.Quoted

/-! Quoted texts. What stands in a quoted text can all be seen, so none of it breaks a line. How a
character is written tells which one it is and where its writing ends: `readEscaped` reads it back,
whatever is written behind it. So no two texts look the same when they are quoted. -/

namespace LetLens

/-! ### Numbers in base sixteen -/

/-- The digits of a number are those of the values below the base. -/
theorem exists_digitChar_of_mem_toDigits {b n : Nat} (hBase : 1 < b) :
    ∀ d ∈ Nat.toDigits b n, ∃ v < b, d = v.digitChar := by
  induction n using Nat.strongRecOn with
  | ind n ih =>
    intro d hd
    by_cases hLast : n < b
    · rw [Nat.toDigits_of_lt_base hLast, List.mem_singleton] at hd
      exact ⟨n, hLast, hd⟩
    · rw [Nat.toDigits_of_base_le hBase (Nat.le_of_not_lt hLast), List.mem_append,
        List.mem_singleton] at hd
      rcases hd with hd | hd
      · exact ih (n / b) (Nat.div_lt_self (by omega) hBase) d hd
      · exact ⟨n % b, Nat.mod_lt n (by omega), hd⟩

def hexDigitValue (d : Char) : Nat :=
  if d.isDigit then d.toNat - '0'.toNat else d.toNat - 'a'.toNat + 10

def ofHexDigits (ds : List Char) : Nat := ds.foldl (fun n d => 16 * n + hexDigitValue d) 0

theorem hexDigitValue_digitChar {v : Nat} (h : v < 16) : hexDigitValue v.digitChar = v := by
  revert v
  decide

theorem ofHexDigits_toDigits (n : Nat) : ofHexDigits (Nat.toDigits 16 n) = n := by
  induction n using Nat.strongRecOn with
  | ind n ih =>
    by_cases hLast : n < 16
    · rw [Nat.toDigits_of_lt_base hLast]
      show 16 * 0 + hexDigitValue n.digitChar = n
      rw [hexDigitValue_digitChar hLast]
      omega
    · have hFront := ih (n / 16) (by omega)
      rw [Nat.toDigits_of_base_le (by decide) (Nat.le_of_not_lt hLast), ofHexDigits,
        List.foldl_append, ← ofHexDigits, hFront]
      show 16 * (n / 16) + hexDigitValue (n % 16).digitChar = n
      rw [hexDigitValue_digitChar (Nat.mod_lt n (by decide))]
      omega

theorem isPrintable_of_mem_toDigits {n : Nat} :
    ∀ d ∈ Nat.toDigits 16 n, IsPrintable d ∧ d ≠ '\x7d' := by
  have hAll : ∀ v < 16, IsPrintable v.digitChar ∧ v.digitChar ≠ '\x7d' := by decide
  intro d hd
  obtain ⟨v, hv, rfl⟩ := exists_digitChar_of_mem_toDigits (by decide) d hd
  exact hAll v hv

theorem isVisible_of_isPrintable {c : Char} (h : IsPrintable c) : isVisible c := by
  apply h.of_forall
  decide +kernel

/-! ### Escapes -/

/-- The characters that have a letter or a sign to stand for them behind a backslash. -/
def escapeLetters : List (Char × Char) :=
  [('"', '"'), ('\\', '\\'), ('\n', 'n'), ('\r', 'r'), ('\t', 't'), ('\x00', '0')]

/-- The ways in which a character is written: behind a backslash by a letter or by its code point,
and otherwise as it is, if it can be seen. -/
inductive Escape : Char → List Char → Prop
  | letter {c l : Char} (h : (c, l) ∈ escapeLetters) : Escape c ['\\', l]
  | code (c : Char) : Escape c (['\\', 'u', '\x7b'] ++ Nat.toDigits 16 c.toNat ++ ['\x7d'])
  | plain {c : Char} (hSeen : isVisible c) (hMark : c ≠ '\\') : Escape c [c]

theorem escape_escapeChar (c : Char) : Escape c (escapeChar c) := by
  unfold escapeChar
  split
  case h_7 hMark _ _ _ _ =>
    split
    · next hSeen => exact .plain hSeen hMark
    · exact .code c
  all_goals exact .letter (by decide)

/-- Reads the character that is written at the head of a text, and gives what follows it. -/
def readEscaped : List Char → Option (Char × List Char)
  | [] => none
  | '\\' :: 'u' :: '\x7b' :: cs =>
    some (.ofNat (ofHexDigits (cs.takeWhile (· ≠ '\x7d'))), (cs.dropWhile (· ≠ '\x7d')).drop 1)
  | '\\' :: cs => do
    let l ← cs.head?
    let e ← escapeLetters.find? (·.2 = l)
    some (e.1, cs.drop 1)
  | c :: cs => some (c, cs)

namespace Escape

theorem readEscaped_append {c : Char} {cs : List Char} (h : Escape c cs) (r : List Char) :
    readEscaped (cs ++ r) = some (c, r) := by
  cases h with
  | letter h =>
    simp only [escapeLetters, List.mem_cons, List.not_mem_nil, or_false, Prod.mk.injEq] at h
    rcases h with ⟨rfl, rfl⟩ | ⟨rfl, rfl⟩ | ⟨rfl, rfl⟩ | ⟨rfl, rfl⟩ | ⟨rfl, rfl⟩ | ⟨rfl, rfl⟩
    all_goals rfl
  | code =>
    have hDigits : ∀ d ∈ Nat.toDigits 16 c.toNat, decide (d ≠ '\x7d') := fun d hd =>
      decide_eq_true (isPrintable_of_mem_toDigits d hd).2
    have hStop : ∀ d ∈ ('\x7d' :: r).head?, decide (d ≠ '\x7d') = false := by simp
    simp only [List.cons_append, List.append_assoc, List.nil_append, readEscaped]
    rw [takeWhile_append_of_stop hDigits hStop, dropWhile_append_of_stop hDigits hStop,
      ofHexDigits_toDigits, Char.ofNat_toNat]
    rfl
  | plain hSeen hMark =>
    rw [List.singleton_append, readEscaped]
    · exact fun _ hBackslash _ => hMark hBackslash
    · exact hMark

theorem forall_isVisible {c : Char} {cs : List Char} (h : Escape c cs) :
    ∀ d ∈ cs, isVisible d := by
  cases h with
  | letter h =>
    have hLetters : escapeLetters.all fun e => IsPrintable e.2 := by decide
    have hLetter : IsPrintable _ := of_decide_eq_true (List.all_eq_true.mp hLetters _ h)
    simp only [List.forall_mem_cons, List.not_mem_nil, false_imp_iff, implies_true, and_true]
    constructor
    · exact isVisible_of_isPrintable (by decide)
    · exact isVisible_of_isPrintable hLetter
  | code =>
    have hFront : ['\\', 'u', '\x7b'].all IsPrintable := by decide
    intro d hd
    apply isVisible_of_isPrintable
    rw [List.mem_append, List.mem_append, List.mem_singleton] at hd
    rcases hd with (hd | hd) | rfl
    · exact of_decide_eq_true (List.all_eq_true.mp hFront d hd)
    · exact (isPrintable_of_mem_toDigits d hd).1
    · decide
  | plain hSeen => simpa using hSeen

end Escape

theorem ends_escapeChar : Ends (fun _ => True) escapeChar := by
  intro c d _ _ r s h
  have hRead := (escape_escapeChar c).readEscaped_append r
  rw [h, (escape_escapeChar d).readEscaped_append] at hRead
  obtain ⟨hSame, hRest⟩ := Prod.mk.inj (Option.some.inj hRead)
  exact ⟨hSame.symm, hRest.symm⟩

theorem escapeChar_ne_nil (c : Char) : escapeChar c ≠ [] := by
  intro hNil
  have hRead := (escape_escapeChar c).readEscaped_append []
  rw [hNil] at hRead
  cases hRead

/-! ### Quoted texts -/

theorem toList_quoted (text : String) :
    (quoted text).toList = '"' :: (text.toList.flatMap escapeChar ++ ['"']) := by
  simp [quoted]

theorem isVisible_of_mem_quoted {text : String} : ∀ c ∈ (quoted text).toList, isVisible c := by
  have hQuote : isVisible '"' := isVisible_of_isPrintable (by decide)
  intro c hc
  rw [toList_quoted, List.mem_cons, List.mem_append, List.mem_singleton] at hc
  rcases hc with rfl | hc | rfl
  · exact hQuote
  · obtain ⟨d, -, hd⟩ := List.mem_flatMap.mp hc
    exact (escape_escapeChar d).forall_isVisible c hd
  · exact hQuote

theorem quoted_inj {a b : String} (h : quoted a = quoted b) : a = b := by
  have hChars := congrArg String.toList h
  rw [toList_quoted, toList_quoted] at hChars
  have hEscaped := List.append_cancel_right (List.cons.inj hChars).2
  exact String.toList_inj.mp (ends_escapeChar.flatMap_inj escapeChar_ne_nil (fun _ _ => trivial)
    (fun _ _ => trivial) hEscaped)

end LetLens
