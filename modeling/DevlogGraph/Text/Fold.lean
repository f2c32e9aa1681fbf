import DevlogGraph.Text.FoldTable

/-! Caseless comparison by simple case folding, one character against one character. -/
namespace DevlogGraph.Text

def fold (c : Char) : Char := Char.ofNat (shifted foldShifts c.toNat)

def sameFold (a b : Char) : Bool := fold a == fold b

end DevlogGraph.Text
