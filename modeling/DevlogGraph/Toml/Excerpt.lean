import DevlogGraph.Text.Lines
import DevlogGraph.Text.Width
import DevlogGraph.Toml.Document

/-! Errors shown with the line they are in. -/
namespace DevlogGraph.Toml

/-- Whether a byte starts a line, starts another character, or lies inside one. -/
inductive ByteKind where
  | lineFeed
  | alone
  | first
  | inner
  | last
  deriving DecidableEq

def byteKinds (c : Char) : List ByteKind :=
  if c = '\n' then [.lineFeed]
  else if c.utf8Size = 1 then [.alone]
  else .first :: List.replicate (c.utf8Size - 2) .inner ++ [.last]

/-- A line and a column, both counted from zero. -/
structure Place where
  line : Nat
  column : Nat

def startsCharacter (kind : ByteKind) : Bool := kind = .alone || kind = .first

/-- Where a byte stands: columns count characters, or bytes if it only begins a character. A place
behind the text belongs to its last line. -/
def placeOf (text : List Char) (offset : Nat) : Place :=
  let kinds := text.flatMap byteKinds
  if kinds.isEmpty then ⟨0, offset⟩
  else
    let last := min offset (kinds.length - 1)
    let before := kinds.take last
    let line := (before.filter (· = .lineFeed)).length
    let inLine := before.reverse.takeWhile (· ≠ .lineFeed)
    let column := match kinds[last]? with
      | some .first => inLine.length
      | some .inner => inLine.length
      | some .last => (inLine.filter startsCharacter).length - 1
      | _ => (inLine.filter startsCharacter).length
    ⟨line, column + (offset - last)⟩

/-- The message under the line, with carets under the bytes that show it. -/
def Error.render (error : Error) (text : List Char) : String :=
  match error.span with
  | none => error.message ++ "\n"
  | some span =>
      let place := placeOf text span.start
      let number := Decimal.digits (place.line + 1)
      let content := ((Text.pieces '\n' text)[place.line]?).getD []
      let width := Text.byteCount content - place.column
      let carets := max 1 (min (span.stop - span.start) width)
      let gutter := List.replicate (number.length + 1) ' '
      String.ofList (
        "TOML parse error at line ".toList ++ number ++ ", column ".toList ++
        Decimal.digits (place.column + 1) ++ '\n' :: gutter ++ '|' :: '\n' ::
        number ++ " | ".toList ++ content ++ '\n' :: gutter ++ '|' ::
        List.replicate (place.column + 1) ' ' ++ List.replicate carets '^' ++ ['\n']) ++
        error.message ++ "\n"

end DevlogGraph.Toml
