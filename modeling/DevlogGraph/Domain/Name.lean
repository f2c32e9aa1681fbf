import DevlogGraph.Domain.Direction
import DevlogGraph.Domain.Joining
import DevlogGraph.Domain.Punycode
import DevlogGraph.Domain.Spelling
import DevlogGraph.Text.Lines

/-! Domain names of every script, and how they are written in plain characters. -/
namespace DevlogGraph.Domain

open Text

/-- Plain characters that would not stay inside a name. -/
def isForbidden (c : Char) : Bool :=
  c.toNat ≤ 0x20 || c.toNat = 0x7F ||
    ['%', '#', '/', ':', '<', '>', '?', '@', '[', '\\', ']', '^', '|'].contains c

/-- How labels begin that are written as numbers. -/
def codedStart : List Char := ['x', 'n', '-', '-']

/-- The label that stands behind a coded one; it must be one that had to be coded, in its one
spelling. -/
def decoded? (label : List Char) : Option (List Char) :=
  if codedStart.isPrefixOf label then do
    let found ← Punycode.decode? (label.drop codedStart.length)
    if !found.all Punycode.isPlain && spelling? found = some found then some found else none
  else some label

def isSound (label : List Char) : Bool :=
  label.all (fun c => !isForbidden c) && !label.head?.any isMark && joinersFit [] label

/-- A label in plain characters. -/
def coded (label : List Char) : List Char :=
  if label.all Punycode.isPlain then label else codedStart ++ Punycode.encode label

/-- The name in plain characters, or nothing if it is no domain name. -/
def plain? (name : List Char) : Option (List Char) := do
  let labels ← (pieces '.' (← spelling? name)).mapM decoded?
  if labels.all isSound && directionsFit labels then
    some (List.intercalate ['.'] (labels.map coded))
  else none

end DevlogGraph.Domain
