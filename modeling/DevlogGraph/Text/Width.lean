/-! The size of a text in bytes. -/
namespace DevlogGraph.Text

def byteCount (text : List Char) : Nat := text.foldr (fun c total => c.utf8Size + total) 0

end DevlogGraph.Text
