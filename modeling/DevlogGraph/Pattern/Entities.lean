import DevlogGraph.Entity
import DevlogGraph.Pattern.Rule

/-! The entity rules for devlogs, in the order in which they report. -/
namespace DevlogGraph.Pattern

open Rule

def sourceTag : String := "pattern"

def entityKind : String := "component"

def entityConfidence : Float := 0.8

/-- Occurrences of at most this many characters are not reported. -/
def longestIgnored : Nat := 3

private def capitalised : Rule := seq (one .upper) (atLeastOnce (one .lower))

private def wordTail : Rule := many (one .word)

/-- Several capitalised words in one. -/
def camelCase : Rule := seq capitalised (atLeastOnce capitalised)

def keyword : Rule :=
  either (caselessLiteral "modal") (either (caselessLiteral "hook")
    (either (caselessLiteral "endpoint")
      (either (caselessLiteral "migration") (caselessLiteral "service"))))

def kebabCase : Rule :=
  seq (atLeastOnce (one .lower)) (seq (one (.exactly '-')) (atLeastOnce (one .lower)))

def webServer : Rule := seq (literal "nginx") (many (one .wordOrDash))

def modal : Rule := seq (caselessLiteral "modal") wordTail

def clientService : Rule :=
  seq (either (literal "use") (literal "api"))
    (seq (atLeastOnce (one .word)) (literal "Service"))

def cloudHost : Rule := seq (literal "cloudron") wordTail

def toolServer : Rule := seq (literal "mcp") wordTail

def proxySetting : Rule := seq (literal "proxy_") wordTail

def numberedModal : Rule :=
  seq (atLeastOnce (one .digit)) (seq (atLeastOnce (one .word)) (literal "Modal"))

def hook : Rule := seq (literal "use") (atLeastOnce (one .word))

def rules : List Rule := [
  camelCase, keyword, kebabCase, webServer, modal, clientService, cloudHost, toolServer,
  proxySetting, numberedModal, hook]

/-- The reported words of one rule, from left to right. -/
def wordsOf (text : List Char) (rule : Rule) : List (List Char) :=
  (rule.occurrences text).filterMap fun occurrence =>
    if occurrence.text.length ≤ longestIgnored then none
    else some (Text.lowercase occurrence.text)

/-- Lower-case words in rule order, each at its first occurrence. -/
def words (text : List Char) : List (List Char) :=
  (rules.flatMap (wordsOf text)).eraseDups

def entities (text : String) : List Entity :=
  (words text.toList).map fun word =>
    .of (String.ofList word) entityKind entityConfidence sourceTag

end DevlogGraph.Pattern
