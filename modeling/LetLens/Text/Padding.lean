/-! Columns of text: a text that is shorter than its column is filled up with spaces, a longer one
stays whole. -/

namespace LetLens

/-- Fills up with spaces on the left, to `width` characters. -/
def alignRight (width : Nat) (text : String) : String :=
  String.ofList (List.replicate (width - text.length) ' ') ++ text

/-- Fills up with spaces on the right, to `width` characters. -/
def alignLeft (width : Nat) (text : String) : String :=
  text ++ String.ofList (List.replicate (width - text.length) ' ')

end LetLens
