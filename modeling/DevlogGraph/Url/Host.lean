import DevlogGraph.Domain.Name
import DevlogGraph.Text.Utf8
import DevlogGraph.Url.Address4
import DevlogGraph.Url.Address6
import DevlogGraph.Url.Fault
import DevlogGraph.Url.Percent

/-! Hosts of web addresses. -/
namespace DevlogGraph.Url

open Text

inductive Host where
  | name (text : List Char)
  | address4 (value : Nat)
  | address6 (groups : List Nat)
  deriving DecidableEq

namespace Host

/-- A host in brackets. -/
def bracketed (text : List Char) : Except Fault Host :=
  match Address6.read? (text.drop 1).dropLast with
  | some groups =>
      if text.getLast? = some ']' then .ok (.address6 groups) else .error .address6
  | none => .error .address6

/-- A host by its name in plain characters. -/
def ofPlain (plain : List Char) : Except Fault Host :=
  if plain.isEmpty then .error .emptyHost
  else if Address4.claims plain then
    match Address4.read? plain with
    | some value => .ok (.address4 value)
    | none => .error .address4
  else .ok (.name plain)

def read (text : List Char) : Except Fault Host :=
  if text.head? = some '[' then bracketed text
  else match decodeUtf8? (unescaped text) >>= Domain.plain? with
    | some plain => ofPlain plain
    | none => .error .domain

/-- A host of a scheme whose hosts are not looked into. -/
def checkForeign (text : List Char) : Except Fault Unit :=
  if text.head? = some '[' then (bracketed text).map fun _ => ()
  else if text.any fun c => ['\x00', '\t', '\n', '\r', ' ', '#', '/', ':', '<', '>', '?', '@', '[',
      '\\', ']', '^', '|'].contains c then .error .hostCharacter
  else .ok ()

def text : Host → List Char
  | name text => text
  | address4 value => Address4.text value
  | address6 groups => ['['] ++ Address6.text groups ++ [']']

end Host

end DevlogGraph.Url
