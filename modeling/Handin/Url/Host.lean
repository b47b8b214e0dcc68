import Handin.Url.Domain
import Handin.Url.Ipv4
import Handin.Url.Ipv6
import Handin.Url.Percent

namespace Handin

inductive Url.Fault
  | emptyHost
  | badName
  | badPort
  | badIpv4
  | badIpv6
  | badHostCharacter
  | noBase
  deriving DecidableEq, Repr

def Url.Fault.message : Url.Fault → String
  | emptyHost => "empty host"
  | badName => "invalid international domain name"
  | badPort => "invalid port number"
  | badIpv4 => "invalid IPv4 address"
  | badIpv6 => "invalid IPv6 address"
  | badHostCharacter => "invalid domain character"
  | noBase => "relative URL without a base"

namespace Url

inductive Host
  | name (text : String)
  | ipv4 (address : Nat)
  | ipv6 (groups : List Nat)
  deriving DecidableEq, Repr

namespace Host

def text : Host → String
  | name s => s
  | ipv4 a => String.ofList (Ipv4.text a)
  | ipv6 gs => String.ofList ('[' :: (Ipv6.text gs ++ [']']))

/-- An address between brackets, from its opening bracket on. -/
def bracketed (cs : List Char) : Except Fault Host :=
  if cs.getLast? = some ']' then
    match Ipv6.parse? cs.tail.dropLast with
    | some gs => .ok (.ipv6 gs)
    | none => .error .badIpv6
  else .error .badIpv6

def ofName (cs : List Char) : Except Fault Host :=
  if cs.head? = some '[' then bracketed cs
  else
    match (Text.ofUtf8? (percentDecode cs)).bind fun s => Domain.toAscii? s.toList with
    | none => .error .badName
    | some [] => .error .emptyHost
    | some ascii =>
      if Ipv4.endsInNumber ascii then
        match Ipv4.parse? ascii with
        | some a => .ok (.ipv4 a)
        | none => .error .badIpv4
      else .ok (.name (String.ofList ascii))

def isBarred (c : Char) : Bool :=
  c.toNat == 0 || ['\t', '\n', '\r', ' ', '#', '/', ':', '<', '>', '?', '@', '[', '\\', ']', '^',
    '|'].contains c

def plain (cs : List Char) : Except Fault Host :=
  if cs.head? = some '[' then bracketed cs
  else if cs.any isBarred then .error .badHostCharacter
  else .ok (.name (String.ofList (percentEncode (fun _ => false) cs)))

end Host

end Url

end Handin
