import DevlogGraph.Toml.Number

/-! Values with the places where they stand. -/
namespace DevlogGraph.Toml

open Scanner

structure Key where
  name : String
  span : Span

/-- The entries of a table over values of type `ν`, in the order in which they came. -/
structure Entries (ν : Type) where
  entries : List (Key × ν) := []
  /-- The table was only passed through by a longer name. -/
  isImplicit : Bool := false
  /-- The table comes from a dotted key. -/
  isDotted : Bool := false
  span : Option Span := none

inductive Node where
  | text (value : String) (span : Span)
  | integer (value : Int) (span : Span)
  | real (value : Float) (span : Span)
  | flag (value : Bool) (span : Span)
  | moment (span : Span)
  | array (items : List Node) (span : Span)
  | inlineTable (table : Entries Node)
  /-- A table with a header of its own, or one passed through by a header. -/
  | table (table : Entries Node)
  | tables (items : List (Entries Node))

abbrev Table := Entries Node

/-- The bytes of a value; a table that was only passed through has none. -/
def Node.span? : Node → Option Span
  | text _ span => some span
  | integer _ span => some span
  | real _ span => some span
  | flag _ span => some span
  | moment span => some span
  | array _ span => some span
  | inlineTable held => held.span
  | table held => held.span
  | tables items =>
      match items.head?.bind (·.span), items.getLast?.bind (·.span) with
      | some first, some last => some ⟨first.start, last.stop⟩
      | _, _ => none

def Node.typeName : Node → String
  | text .. => "string"
  | integer .. => "integer"
  | real .. => "float"
  | flag .. => "boolean"
  | moment _ => "datetime"
  | array .. => "array"
  | inlineTable _ => "inline table"
  | table _ => "table"
  | tables _ => "array of tables"

/-- Why entries cannot stand together. -/
inductive Conflict where
  /-- A name is given twice; the table is named if it is known. -/
  | duplicate (key : String) (table : Option (List Key))
  | notATable (path : List Key) (actual : String)
  | tooDeep

def isBareChar (c : Char) : Bool :=
  ('a' ≤ c && c ≤ 'z') || ('A' ≤ c && c ≤ 'Z') || ('0' ≤ c && c ≤ '9') || c == '-' || c == '_'

def quotedKeyChar (c : Char) : List Char :=
  match c with
  | '\x08' => ['\\', 'b']
  | '\t' => ['\\', 't']
  | '\n' => ['\\', 'n']
  | '\x0c' => ['\\', 'f']
  | '\r' => ['\\', 'r']
  | '"' => ['\\', '"']
  | '\\' => ['\\', '\\']
  | c =>
      if c.toNat < 0x20 || c.toNat = 0x7F then
        let digits := (Nat.toDigits 16 c.toNat).map Char.toUpper
        '\\' :: 'u' :: List.replicate (4 - digits.length) '0' ++ digits
      else [c]

/-- A key as a document would write it: bare if it can be. -/
def keyText (name : String) : String :=
  if !name.isEmpty && name.toList.all isBareChar then name
  else String.ofList ('"' :: name.toList.flatMap quotedKeyChar ++ ['"'])

def pathText (path : List Key) : String := ".".intercalate (path.map fun key => keyText key.name)

def Conflict.message : Conflict → String
  | duplicate key none => s!"duplicate key `{key}`"
  | duplicate key (some []) => s!"duplicate key `{key}` in document root"
  | duplicate key (some path) => s!"duplicate key `{key}` in table `{pathText path}`"
  | notATable path actual =>
      s!"dotted key `{pathText path}` attempted to extend non-table type ({actual})"
  | tooDeep => "recursion limit exceeded"

/-- Replace the value of a name that is there. -/
def replaceEntry (name : String) (value : ν) : List (Key × ν) → List (Key × ν)
  | [] => []
  | (key, old) :: later =>
      if key.name = name then (key, value) :: later else (key, old) :: replaceEntry name value later

def lookupEntry (name : String) (entries : List (Key × ν)) : Option ν :=
  (entries.find? fun entry => entry.1.name == name).map (·.2)

/-- The most keys that a dotted key may have, and the most arrays and inline tables that may be
nested. -/
def depthLimit : Nat := 79

def simpleKey : Scanner Key := do
  let (characters, span) ← withSpan do
    match ← peek with
    | '"' => basicText
    | '\'' => literalText
    | _ => takeSome isBareChar
  pure ⟨String.ofList characters, span⟩

/-- Names with dots between them. -/
def keyPath : Scanner (List Key) :=
  meaning (labelled "key" (separatedSome (do
    let _ ← blanks
    let key ← simpleKey
    let _ ← blanks
    pure key) (char '.'))) fun path =>
      if path.length ≤ depthLimit then .ok path else .error (Conflict.message .tooDeep)

def equals : Scanner Char := expecting ["`.`", "`=`"] (char '=')

/-- A name and its value, and the tables on the way to it. -/
structure Pair where
  path : List Key
  key : Key
  value : Node

def pairOf (path : List Key) (value : Node) : Option Pair :=
  path.getLast?.map fun key => ⟨path.dropLast, key, value⟩

/-- The insertion of a pair into an inline table. -/
def insertInline (pair : Pair) (dotted : Bool) (passed : List Key) :
    List Key → Table → Except Conflict Table
  | [], table =>
      if table.isDotted != dotted then .error (.duplicate pair.key.name none)
      else match lookupEntry pair.key.name table.entries with
        | some _ => .error (.duplicate pair.key.name none)
        | none => .ok { table with entries := table.entries ++ [(pair.key, pair.value)] }
  | key :: later, table =>
      let passed := passed ++ [key]
      match lookupEntry key.name table.entries with
      | none => do
          let inner ← insertInline pair dotted passed later { isImplicit := true, isDotted := true }
          pure { table with entries := table.entries ++ [(key, .inlineTable inner)] }
      | some (.inlineTable inner) =>
          if !inner.isImplicit then .error (.duplicate key.name none)
          else do
            let inner ← insertInline pair dotted passed later inner
            pure { table with entries := replaceEntry key.name (.inlineTable inner) table.entries }
      | some other => .error (.notATable passed other.typeName)

/-- An inline table from its pairs. -/
def inlineTableOf (pairs : List Pair) : Except Conflict Table :=
  pairs.foldlM (fun table pair => insertInline pair (!pair.path.isEmpty) [] pair.path table) {}

/-- An array, given how its items are read. -/
def arrayOf (item : Scanner Node) : Scanner (List Node) := do
  let _ ← char '['
  let items ← must do
    let items ← separated (do
      betweenItems
      let value ← item
      betweenItems
      pure value) (char ',')
    if !items.isEmpty then
      let _ ← optional (char ',')
    betweenItems
    pure items
  let _ ← expecting ["`]`"] (labelled "array" (must (char ']')))
  pure items

/-- An inline table, given how its values are read. -/
def inlineTable (item : Scanner Node) : Scanner Table := do
  let _ ← char '\x7b'
  let table ← must (meaning (do
    let pairs ← separated (do
      let path ← keyPath
      must do
        let _ ← equals
        let _ ← blanks
        let value ← item
        let _ ← blanks
        pure (pairOf path value)) (char ',')
    let _ ← blanks
    pure pairs) fun pairs =>
      (inlineTableOf (pairs.filterMap id)).mapError Conflict.message)
  let _ ← expecting ["`\x7d`"] (labelled "inline table" (must (char '\x7d')))
  pure table

def ofInline (table : Table) (span : Span) : Node := .inlineTable { table with span := some span }

def spanned (make : α → Span → Node) (scanner : Scanner α) : Scanner Node := do
  let (value, span) ← withSpan scanner
  pure (make value span)

/-- A word that is not in quotes, which is most likely a text without its quotes. -/
def bareWord (scanner : Scanner α) : Scanner α :=
  expecting ["`\"`", "`'`"] (labelled "string" scanner)

def tooDeep : Scanner α := fun cursor => .missed ⟨cursor, [], some (Conflict.message .tooDeep)⟩

/-- A value whose items are read by `inner`; without it, arrays and tables are too deep. -/
def valueWith (inner : Option (Scanner Node)) : Scanner Node := do
  match ← peek with
  | '"' => spanned .text (String.ofList <$> text)
  | '\'' => spanned .text (String.ofList <$> text)
  | '[' =>
      match inner with
      | none => tooDeep
      | some item => spanned .array (arrayOf item)
  | '\x7b' =>
      match inner with
      | none => tooDeep
      | some item => spanned ofInline (inlineTable item)
  | '_' => expecting ["leading digit"] (spanned .integer integer)
  | '.' => expecting ["leading digit"] (spanned .real real)
  | 't' => spanned .flag (bareWord (must (do word "true"; pure true)))
  | 'f' => spanned .flag (bareWord (must (do word "false"; pure false)))
  | 'i' => spanned .real (bareWord infinity)
  | 'n' => spanned .real (bareWord notANumber)
  | c =>
      if isSign c || Decimal.isDigit c then
        orElse (spanned (fun _ span => .moment span) moment)
          (orElse (spanned .real real) (spanned .integer integer))
      else bareWord fail

/-- A value in which arrays and inline tables nest at most `depth` deep. -/
def value : Nat → Scanner Node
  | 0 => valueWith none
  | depth + 1 => valueWith (some (value depth))

end DevlogGraph.Toml
