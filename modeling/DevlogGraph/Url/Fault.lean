/-! Why a text is no web address. -/
namespace DevlogGraph

inductive Url.Fault where
  | noScheme
  | emptyHost
  | domain
  /-- A host of a foreign scheme has a character that would end it. -/
  | hostCharacter
  | port
  | address4
  | address6
  deriving DecidableEq, Repr

def Url.Fault.message : Url.Fault → String
  | noScheme => "relative URL without a base"
  | emptyHost => "empty host"
  | domain => "invalid international domain name"
  | hostCharacter => "invalid domain character"
  | port => "invalid port number"
  | address4 => "invalid IPv4 address"
  | address6 => "invalid IPv6 address"

end DevlogGraph
