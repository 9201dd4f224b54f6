import LetLens.Inspector.Basic

/-! The keys of the inspector. Tab and back tab move the focus; the arrows, the page keys and home
scroll the focused pane; `q` and escape quit. Every other key does nothing, and modifiers make no
difference. A page is ten items. -/

namespace LetLens

inductive Key
  | char (c : Char)
  | tab | backTab | up | down | left | right | pageUp | pageDown | home | endKey
  | enter | backspace | delete | insert | null | escape
  | function (n : Nat)
  /-- A key that stands for no character and no move, such as a lock or a media key. -/
  | other (code : Nat)
deriving DecidableEq

inductive Modifier
  | control | shift | alt | superKey | hyper | metaKey
deriving DecidableEq

structure KeyPress where
  key : Key
  modifiers : List Modifier
deriving DecidableEq

def pageSize : Nat := 10

namespace Inspector

def press (k : KeyPress) (i : Inspector) : Inspector :=
  match k.key with
  | .char 'q' | .char 'Q' | .escape => { i with quit := true }
  | .tab => { i with focus := i.focus.next }
  | .backTab => { i with focus := i.focus.previous }
  | .up => i.scroll (.up 1)
  | .down => i.scroll (.down 1)
  | .pageUp => i.scroll (.up pageSize)
  | .pageDown => i.scroll (.down pageSize)
  | .home => i.scroll fun _ => .zero
  | _ => i

end Inspector

end LetLens
