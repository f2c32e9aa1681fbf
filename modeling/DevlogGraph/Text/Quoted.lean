import DevlogGraph.Text.Blank
import DevlogGraph.Text.EscapedTable

/-! Text shown inside a message: in double quotes, with escapes for what would not be visible. -/
namespace DevlogGraph.Text

def quotedChar (c : Char) : List Char :=
  match c with
  | '"' => ['\\', '"']
  | '\\' => ['\\', '\\']
  | '\n' => ['\\', 'n']
  | '\r' => ['\\', 'r']
  | '\t' => ['\\', 't']
  | '\x00' => ['\\', '0']
  | c =>
      if inSpans escapedSpans c.toNat then
        '\\' :: 'u' :: '\x7b' :: Nat.toDigits 16 c.toNat ++ ['\x7d']
      else [c]

def quoted (text : String) : String :=
  String.ofList ('"' :: text.toList.flatMap quotedChar ++ ['"'])

end DevlogGraph.Text
