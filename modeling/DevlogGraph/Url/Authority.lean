import DevlogGraph.Decimal.Digits
import DevlogGraph.Url.Host
import DevlogGraph.Url.Path

/-! The part of an address between the two slashes and the path: a user, a host and a port. -/
namespace DevlogGraph.Url

/-- Cut a text in front of the first character that passes the test. -/
def cutBefore (test : Char → Bool) (text : List Char) : List Char × List Char :=
  (text.takeWhile (!test ·), text.dropWhile (!test ·))

namespace Authority

/-- What ends an authority; a backslash counts as a slash in the schemes of the web. -/
def endsWith (web : Bool) (c : Char) : Bool := ['/', '?', '#'].contains c || (web && c = '\\')

/-- A user and a password, which is left out if it is empty. -/
def userText (text : List Char) : List Char :=
  let (name, rest) := cutBefore (· = ':') text
  let password := rest.drop 1
  escaped hiddenInUser name ++
    if password.isEmpty then [] else ':' :: escaped hiddenInUser password

/-- The user before the last at sign, if there is one, and all that follows it. -/
def splitUser (web : Bool) (text : List Char) : Except Fault (List Char × List Char) :=
  let area := text.takeWhile fun c => !endsWith web c
  if !area.contains '@' then .ok ([], text)
  else
    let size := area.length - (area.reverse.takeWhile (· != '@')).length
    let rest := text.drop size
    if size = 1 && rest.head?.any (endsWith web) then .error .emptyHost
    else .ok (userText (area.take (size - 1)), rest)

/-- A host up to a colon that is not in brackets. -/
def splitHost (web : Bool) : Bool → List Char → List Char × List Char
  | _, [] => ([], [])
  | bracketed, c :: rest =>
      if (c = ':' && !bracketed) || endsWith web c then ([], c :: rest)
      else
        let inside := if c = '[' then true else if c = ']' then false else bracketed
        let (host, after) := splitHost web inside rest
        (c :: host, after)

def portLimit : Nat := 65536

/-- A port after a colon; none if no digit follows. -/
def readPort : List Char → Except Fault (Option Nat × List Char)
  | ':' :: text =>
      let (digits, rest) := cutBefore (fun c => !Decimal.isDigit c) text
      if portLimit ≤ Decimal.ofDigits digits then .error .port
      else if rest.head?.any fun c => !endsWith true c then .error .port
      else if digits.isEmpty then .ok (none, rest)
      else .ok (some (Decimal.ofDigits digits), rest)
  | rest => .ok (none, rest)

end Authority

structure Authority where
  /-- Empty if there is none. -/
  user : List Char
  host : Host
  port : Option Nat

namespace Authority

/-- The authority of a web address, and what follows it. -/
def read (text : List Char) : Except Fault (Authority × List Char) := do
  let (user, rest) ← splitUser true text
  let (host, rest) := splitHost true false rest
  if host.isEmpty then .error .emptyHost
  else
    let host ← Host.read host
    let (port, rest) ← readPort rest
    pure (⟨user, host, port⟩, rest)

/-- The authority of an address of a foreign scheme, which may have no host. -/
def checkForeign (text : List Char) : Except Fault Unit := do
  let (user, rest) ← splitUser false text
  let (host, rest) := splitHost false false rest
  Host.checkForeign host
  if host.isEmpty && rest.head? = some ':' then .error .emptyHost
  else
    let _ ← readPort rest
    if host.isEmpty && !user.isEmpty then .error .emptyHost else pure ()

/-- The authority of a file, which has a host only. -/
def checkFile (text : List Char) : Except Fault Unit :=
  let host := text.takeWhile fun c => !endsWith true c
  if host.isEmpty || Path.isDrive host then .ok () else (Host.read host).map fun _ => ()

end Authority

end DevlogGraph.Url
