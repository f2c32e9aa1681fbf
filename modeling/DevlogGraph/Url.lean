import DevlogGraph.Url.Authority
import DevlogGraph.Url.Path

/-! Web addresses. -/
namespace DevlogGraph

inductive Url.Scheme where
  | http
  | https
  deriving DecidableEq, Repr

structure Url where
  scheme : Url.Scheme
  /-- A user with a password perhaps, escaped; empty if there is none. -/
  user : List Char
  host : Url.Host
  /-- Left out if it is the usual one of the scheme. -/
  port : Option Nat
  path : List (List Char)
  query : Option (List Char)
  fragment : Option (List Char)
  deriving DecidableEq

namespace Url

def Scheme.text : Scheme → List Char
  | http => ['h', 't', 't', 'p']
  | https => ['h', 't', 't', 'p', 's']

def Scheme.usualPort : Scheme → Nat
  | http => 80
  | https => 443

def Scheme.ofText? (text : List Char) : Option Scheme :=
  [http, https].find? fun scheme => scheme.text == text

/-- Why a text cannot be used as a web address. -/
inductive Refusal where
  | malformed (fault : Fault)
  /-- An address, but not one of the web. -/
  | foreign
  deriving DecidableEq

/-- Blanks and controls around an address do not count, nor tabs and line breaks inside it. -/
def tidy (text : List Char) : List Char :=
  let inner := (((text.dropWhile (· ≤ ' ')).reverse).dropWhile (· ≤ ' ')).reverse
  inner.filter fun c => !(['\t', '\n', '\r'].contains c)

def isSchemeChar (c : Char) : Bool := c.isAlphanum || ['+', '-', '.'].contains c

/-- The scheme before the first colon, in lower case, and what follows the colon. -/
def splitScheme? (text : List Char) : Option (List Char × List Char) :=
  let (scheme, rest) := cutBefore (fun c => !isSchemeChar c) text
  if !scheme.head?.any Char.isAlpha then none
  else match rest with
    | ':' :: rest => some (scheme.map Char.toLower, rest)
    | _ => none

def isSlash (c : Char) : Bool := c = '/' || c = '\\'

/-- Other schemes whose addresses are read like those of the web. -/
def kindredSchemes : List (List Char) := [['w', 's'], ['w', 's', 's'], ['f', 't', 'p']]

def fileScheme : List Char := ['f', 'i', 'l', 'e']

/-- Whether an address of another scheme is well formed. -/
def checkOther (scheme rest : List Char) : Except Fault Unit :=
  if kindredSchemes.contains scheme then
    (Authority.read (rest.dropWhile isSlash)).map fun _ => ()
  else if scheme = fileScheme then
    match rest with
    | first :: second :: rest =>
        if isSlash first && isSlash second then Authority.checkFile rest else .ok ()
    | _ => .ok ()
  else match rest with
    | '/' :: '/' :: rest => Authority.checkForeign rest
    | _ => .ok ()

/-- What follows a mark, if the text starts with it. -/
def behindMark? (mark : Char) (text : List Char) : Option (List Char) :=
  match text with
  | [] => none
  | c :: rest => if c = mark then some rest else none

/-- The address of a scheme of the web, read from what follows the colon. -/
def ofRest (scheme : Scheme) (rest : List Char) : Except Fault Url := do
  let (authority, rest) ← Authority.read (rest.dropWhile isSlash)
  let (path, rest) := cutBefore (fun c => c = '?' || c = '#') rest
  let (query, rest) := cutBefore (· = '#') rest
  pure {
    scheme := scheme
    user := authority.user
    host := authority.host
    port := authority.port.filter (· ≠ scheme.usualPort)
    path := Path.read path
    query := (behindMark? '?' query).map (escaped hiddenInQuery)
    fragment := (behindMark? '#' rest).map (escaped hiddenInFragment) }

def read (text : List Char) : Except Refusal Url :=
  match splitScheme? (tidy text) with
  | none => .error (.malformed .noScheme)
  | some (scheme, rest) =>
      match Scheme.ofText? scheme with
      | some scheme => (ofRest scheme rest).mapError .malformed
      | none =>
          match checkOther scheme rest with
          | .ok () => .error .foreign
          | .error fault => .error (.malformed fault)

def text (url : Url) : List Char :=
  url.scheme.text ++ [':', '/', '/'] ++
    (if url.user.isEmpty then [] else url.user ++ ['@']) ++ url.host.text ++
    (match url.port with
      | none => []
      | some port => ':' :: Decimal.digits port) ++
    Path.text url.path ++
    (match url.query with
      | none => []
      | some query => '?' :: query) ++
    (match url.fragment with
      | none => []
      | some fragment => '#' :: fragment)

/-- The address that a relative path leads to: it takes the place of the last segment. -/
def join (url : Url) (relative : List (List Char)) : Url :=
  { url with path := Path.follow url.path.dropLast relative, query := none, fragment := none }

end Url

end DevlogGraph
