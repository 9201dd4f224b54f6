import LetLens.Proofs.Settling

/-! What keys and renders do to an inspector, in any number and order. `Pressed` and `Rendered` say
all that one of them can change, and what a whole run keeps follows from the two by induction on the
events. Nothing that was read from the text ever changes, the focus goes round as the tab keys turn
it, and an offset comes no further down than keys have moved it while its pane had the focus. -/

namespace LetLens

/-! ### What a key does -/

namespace Key

/-- The pane that has the focus after a key. -/
def turn : Key → Pane → Pane
  | tab, p => p.next
  | backTab, p => p.previous
  | _, p => p

/-- Where a key moves an offset, which stops at both ends of the numbers of 64 bits. -/
def move : Key → Nat → Nat
  | up, n => n - 1
  | down, n => min (n + 1) (UInt64.size - 1)
  | pageUp, n => n - 10
  | pageDown, n => min (n + 10) (UInt64.size - 1)
  | home, _ => 0
  | _, n => n

def Quits (k : Key) : Prop := k = char 'q' ∨ k = char 'Q' ∨ k = escape

instance (k : Key) : Decidable k.Quits := by
  unfold Quits
  infer_instance

end Key

namespace Inspector

/-- `j` has the text of `i`, all that was read from it, and the status of `i`. -/
structure Keeps (i j : Inspector) : Prop where
  source : j.source = i.source
  tokens : j.tokens = i.tokens
  program : j.program = i.program
  diagnostics : j.diagnostics = i.diagnostics
  status : j.status = i.status

theorem Keeps.refl (i : Inspector) : Keeps i i := ⟨rfl, rfl, rfl, rfl, rfl⟩

theorem Keeps.trans {i j k : Inspector} (h : Keeps i j) (h' : Keeps j k) : Keeps i k :=
  ⟨h'.source.trans h.source, h'.tokens.trans h.tokens, h'.program.trans h.program,
    h'.diagnostics.trans h.diagnostics, h'.status.trans h.status⟩

/-- `j` is `i` after a key. -/
structure Pressed (k : Key) (i j : Inspector) : Prop where
  keeps : Keeps i j
  focus : j.focus = k.turn i.focus
  quit : j.quit = (i.quit || k.Quits)
  moved : (j.offsets.get i.focus).value = k.move (i.offsets.get i.focus).value
  others : ∀ p, p ≠ i.focus → j.offsets.get p = i.offsets.get p

/-- `j` is `i` after a render. -/
structure Rendered (i j : Inspector) : Prop where
  keeps : Keeps i j
  focus : j.focus = i.focus
  quit : j.quit = i.quit
  lower : ∀ p, (j.offsets.get p).value ≤ (i.offsets.get p).value

theorem pressed_scroll (k : Key) (move : Offset → Offset) (i : Inspector)
    (hTurn : k.turn i.focus = i.focus) (hQuits : ¬k.Quits)
    (hMove : ∀ o, (move o).value = k.move o.value) : Pressed k i (i.scroll move) where
  keeps := ⟨rfl, rfl, rfl, rfl, rfl⟩
  focus := hTurn.symm
  quit := by simp [scroll, hQuits]
  moved := by
    rw [scroll, Offsets.get_set, if_pos rfl]
    exact hMove _
  others := by
    intro p hp
    rw [scroll, Offsets.get_set, if_neg hp]

theorem pressed_turn (k : Key) (i : Inspector) (hQuits : ¬k.Quits) (hMove : ∀ n, k.move n = n) :
    Pressed k i { i with focus := k.turn i.focus } where
  keeps := ⟨rfl, rfl, rfl, rfl, rfl⟩
  focus := rfl
  quit := by simp [hQuits]
  moved := (hMove _).symm
  others := fun _ _ => rfl

theorem pressed_quit (k : Key) (i : Inspector) (hTurn : k.turn i.focus = i.focus) (hQuits : k.Quits)
    (hMove : ∀ n, k.move n = n) : Pressed k i { i with quit := true } where
  keeps := ⟨rfl, rfl, rfl, rfl, rfl⟩
  focus := hTurn.symm
  quit := by simp [hQuits]
  moved := (hMove _).symm
  others := fun _ _ => rfl

theorem press_char_of_not_quits {c : Char} (h : ¬(Key.char c).Quits) (modifiers : List Modifier)
    (i : Inspector) : i.press ⟨.char c, modifiers⟩ = i := by
  unfold press
  split <;> simp_all [Key.Quits]

/-- One key, with any modifiers. -/
theorem pressed (k : KeyPress) (i : Inspector) : Pressed k.key i (i.press k) := by
  obtain ⟨key, modifiers⟩ := k
  cases key with
  | tab => exact pressed_turn .tab i (by decide) fun _ => rfl
  | backTab => exact pressed_turn .backTab i (by decide) fun _ => rfl
  | up => exact pressed_scroll .up (.up 1) i rfl (by decide) fun _ => rfl
  | down => exact pressed_scroll .down (.down 1) i rfl (by decide) fun _ => rfl
  | pageUp => exact pressed_scroll .pageUp (.up 10) i rfl (by decide) fun _ => rfl
  | pageDown => exact pressed_scroll .pageDown (.down 10) i rfl (by decide) fun _ => rfl
  | home => exact pressed_scroll .home (fun _ => .zero) i rfl (by decide) fun _ => rfl
  | escape => exact pressed_quit .escape i rfl (by decide) fun _ => rfl
  | char c =>
    by_cases hQuits : (Key.char c).Quits
    · obtain hc | hc | hc := hQuits
      · cases hc
        exact pressed_quit (.char 'q') i rfl (by decide) fun _ => rfl
      · cases hc
        exact pressed_quit (.char 'Q') i rfl (by decide) fun _ => rfl
      · cases hc
    · rw [press_char_of_not_quits hQuits]
      exact pressed_turn (.char c) i hQuits fun _ => rfl
  | _ => exact pressed_turn _ i (by simp [Key.Quits]) fun _ => rfl

theorem rendered (w h : Nat) (i : Inspector) : Rendered i (i.render w h).1 := by
  obtain ⟨offsets, hSettled⟩ := exists_settle_eq w h i
  have hLower (p : Pane) : (offsets.get p).value ≤ (i.offsets.get p).value := by
    have hOffset := offset_settle w h i p
    rw [hSettled] at hOffset
    rw [show offsets.get p = _ from hOffset]
    exact View.value_settle_le _ _ _
  rw [render, hSettled]
  exact ⟨⟨rfl, rfl, rfl, rfl, rfl⟩, rfl, rfl, hLower⟩

/-! ### What a run does -/

end Inspector

inductive Event
  | press (k : KeyPress)
  | render (width height : Nat)

def Event.key? : Event → Option Key
  | press k => some k.key
  | render _ _ => none

/-- The keys among events, in order. -/
def keysOf (es : List Event) : List Key := es.filterMap Event.key?

/-- Where a pane stands in the order in which the focus goes round. -/
def Pane.place : Pane → Nat
  | source => 0
  | diagnostics => 1
  | tokens => 2
  | tree => 3

theorem Pane.getElem?_place (p : Pane) :
    [source, diagnostics, tokens, tree][p.place]? = some p := by
  cases p <;> rfl

theorem Pane.place_lt (p : Pane) : p.place < 4 := by
  cases p <;> decide

theorem Key.place_turn (k : Key) (p : Pane) :
    ((k.turn p).place : Int) =
      (p.place + ((if k = .tab then 1 else 0) - (if k = .backTab then 1 else 0))) % 4 := by
  cases k <;> cases p <;> rfl

theorem Key.move_le (k : Key) (n : Nat) :
    k.move n ≤ n + ((if k = .down then 1 else 0) + 10 * (if k = .pageDown then 1 else 0)) := by
  cases k <;> simp only [move, reduceCtorEq, ↓reduceIte] <;> omega

theorem keysOf_press (k : KeyPress) (es : List Event) :
    keysOf (.press k :: es) = k.key :: keysOf es := rfl

theorem keysOf_render (w h : Nat) (es : List Event) : keysOf (.render w h :: es) = keysOf es := rfl

namespace Inspector

def step (i : Inspector) : Event → Inspector
  | .press k => i.press k
  | .render w h => (i.render w h).1

def run (i : Inspector) (es : List Event) : Inspector := es.foldl step i

/-- The keys that come while `p` has the focus, in order. -/
def keysOn (p : Pane) (i : Inspector) : List Event → List Key
  | [] => []
  | e :: es => (if i.focus = p then e.key?.toList else []) ++ (i.step e).keysOn p es

theorem run_cons (i : Inspector) (e : Event) (es : List Event) :
    i.run (e :: es) = (i.step e).run es := rfl

theorem run_append (i : Inspector) (es es' : List Event) :
    i.run (es ++ es') = (i.run es).run es' :=
  List.foldl_append

theorem keeps_step (i : Inspector) (e : Event) : Keeps i (i.step e) := by
  cases e with
  | press k => exact (pressed k i).keeps
  | render w h => exact (rendered w h i).keeps

theorem keeps_run (i : Inspector) (es : List Event) : Keeps i (i.run es) := by
  induction es generalizing i with
  | nil => exact .refl i
  | cons e es ih => exact (keeps_step i e).trans (ih (i.step e))

theorem quit_run (i : Inspector) (es : List Event) :
    (i.run es).quit = true ↔ i.quit = true ∨ ∃ k ∈ keysOf es, k.Quits := by
  induction es generalizing i with
  | nil => simp [run, keysOf]
  | cons e es ih =>
    rw [run_cons, ih]
    cases e with
    | press k =>
      show (i.press k).quit = true ∨ _ ↔ _
      rw [(pressed k i).quit]
      simp [keysOf, Event.key?, or_assoc]
    | render w h =>
      show (i.render w h).1.quit = true ∨ _ ↔ _
      rw [(rendered w h i).quit]
      simp [keysOf, Event.key?]

theorem place_focus_run (i : Inspector) (es : List Event) :
    ((i.run es).focus.place : Int) =
      (i.focus.place + ((keysOf es).count .tab - (keysOf es).count .backTab)) % 4 := by
  induction es generalizing i with
  | nil =>
    have hPlace := i.focus.place_lt
    simp only [run, keysOf, List.foldl_nil, List.filterMap_nil, List.count_nil]
    omega
  | cons e es ih =>
    rw [run_cons, ih]
    cases e with
    | press k =>
      have hTurn := k.key.place_turn i.focus
      show (((i.press k).focus.place : Int) + _) % 4 = _
      rw [(pressed k i).focus, hTurn, keysOf_press, List.count_cons, List.count_cons]
      simp only [beq_iff_eq]
      split <;> split <;> omega
    | render w h =>
      show (((i.render w h).1.focus.place : Int) + _) % 4 = _
      rw [(rendered w h i).focus, keysOf_render]

theorem value_offset_run_le (i : Inspector) (es : List Event) (p : Pane) :
    ((i.run es).offsets.get p).value ≤ (i.offsets.get p).value +
      ((keysOn p i es).count .down + 10 * (keysOn p i es).count .pageDown) := by
  induction es generalizing i with
  | nil => exact Nat.le_refl _
  | cons e es ih =>
    rw [run_cons]
    have hLater := ih (i.step e)
    cases e with
    | press k =>
      by_cases hFocus : i.focus = p
      case neg =>
        have hOther := (pressed k i).others p (Ne.symm hFocus)
        simp only [keysOn, if_neg hFocus, List.nil_append]
        simp only [step] at hLater ⊢
        rw [hOther] at hLater
        exact hLater
      subst hFocus
      have hMoved := (pressed k i).moved
      have hMove := k.key.move_le (i.offsets.get i.focus).value
      simp only [keysOn, Event.key?, if_pos, Option.toList_some, List.singleton_append,
        List.count_cons, beq_iff_eq]
      simp only [step] at hLater ⊢
      omega
    | render w h =>
      have hLower := (rendered w h i).lower p
      simp only [keysOn, Event.key?, Option.toList_none, ite_self, List.nil_append]
      simp only [step] at hLater ⊢
      omega

/-- How an event may move the offsets. A key moves that of the focused pane and no other one, and a
render moves none of them down. -/
def Moves (i : Inspector) : Event → Inspector → Prop
  | .press k, j => (j.offsets.get i.focus).value = k.key.move (i.offsets.get i.focus).value ∧
      ∀ p, p ≠ i.focus → j.offsets.get p = i.offsets.get p
  | .render _ _, j => ∀ p, (j.offsets.get p).value ≤ (i.offsets.get p).value

theorem moves_step (i : Inspector) (e : Event) : Moves i e (i.step e) := by
  cases e with
  | press k => exact ⟨(pressed k i).moved, (pressed k i).others⟩
  | render w h => exact (rendered w h i).lower

/-- An inspector of a text after any keys and renders. All that was read from the text is there as
it was. The tab keys have turned the focus, and one of the quitting keys is what it takes to quit.
Every event on the way has moved the offsets within its bounds, and none of them is further down
than the keys have moved it that came while its pane had the focus. -/
theorem run_ofText (source : String) (es : List Event) :
    Keeps (ofText source) ((ofText source).run es) ∧
    [Pane.source, .diagnostics, .tokens, .tree][
        (((keysOf es).count .tab - (keysOf es).count .backTab : Int) % 4).toNat]? =
      some ((ofText source).run es).focus ∧
    (((ofText source).run es).quit = true ↔
      ∃ k ∈ keysOf es, k = .char 'q' ∨ k = .char 'Q' ∨ k = .escape) ∧
    (∀ p, (((ofText source).run es).offsets.get p).value ≤
      (keysOn p (ofText source) es).count .down +
        10 * (keysOn p (ofText source) es).count .pageDown) ∧
    ∀ before e after, es = before ++ e :: after →
      Moves ((ofText source).run before) e ((ofText source).run (before ++ [e])) := by
  refine ⟨keeps_run _ es, ?_, ?_, ?_, ?_⟩
  · have hPlace := place_focus_run (ofText source) es
    have hStart : ((ofText source).focus.place : Int) = 0 := rfl
    rw [hStart, Int.zero_add] at hPlace
    rw [← hPlace, Int.toNat_natCast]
    exact Pane.getElem?_place _
  · have hQuit := quit_run (ofText source) es
    simpa [ofText, Key.Quits] using hQuit
  · intro p
    have hOffset := value_offset_run_le (ofText source) es p
    have hStart : ((ofText source).offsets.get p).value = 0 := by
      cases p <;> rfl
    omega
  · intro before e after _
    rw [run_append]
    exact moves_step _ e

end Inspector

end LetLens
