import DevlogGraph.Text.AlphanumericTable
import DevlogGraph.Text.Span
import DevlogGraph.Text.WordTable

/-! Word characters, letters and numerals of every script. -/
namespace DevlogGraph.Text

def isWord (c : Char) : Bool := inSpans wordSpans c.toNat

def isAlphanumeric (c : Char) : Bool := inSpans alphanumericSpans c.toNat

def isNumeral (c : Char) : Bool := inSpans numeralSpans c.toNat

end DevlogGraph.Text
