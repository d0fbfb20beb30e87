import HeatFeed.Http.Address
import HeatFeed.Http.Domain
import HeatFeed.Http.Percent

/-!
# Hosts

The host of a URL is a name or a numeric address. Hosts of web URLs are domain names, and those that
end in a number are addresses; hosts of other URLs are kept as they are written.
-/

namespace HeatFeed.Http

/-- Why a text is no host. -/
inductive HostFault where
  | empty
  | domain
  | character
  | address4
  | address6
  deriving DecidableEq

/-- The text of the fault. -/
def HostFault.message : HostFault → String
  | .empty => "empty host"
  | .domain => "invalid international domain name"
  | .character => "invalid domain character"
  | .address4 => "invalid IPv4 address"
  | .address6 => "invalid IPv6 address"

/-- A host. -/
inductive Host where
  | name (text : String)
  | address4 (address : Address4)
  | address6 (address : Address6)
  deriving DecidableEq

namespace Host

/-- The host whose name is empty. -/
def nameless : Host := .name ""

/-- The written form. -/
def text : Host → String
  | .name text => text
  | .address4 a => a.text
  | .address6 a => "[" ++ a.text ++ "]"

/-- The address that stands in brackets; the first one has been read. -/
def readBrackets (cs : List Char) : Except HostFault Host :=
  if cs.getLast? = some ']' then
    match Address6.ofChars? cs.dropLast with
    | some a => .ok (.address6 a)
    | none => .error .address6
  else .error .address6

/-- The host of a web URL. -/
def readWeb : List Char → Except HostFault Host
  | '[' :: cs => readBrackets cs
  | cs =>
    match (Percent.decode? (String.ofList cs)).bind fun s => Domain.toAscii? s.toList with
    | none => .error .domain
    | some [] => .error .empty
    | some ascii =>
      if Address4.endsInNumber ascii then
        match Address4.ofChars? ascii with
        | some a => .ok (.address4 a)
        | none => .error .address4
      else .ok (.name (String.ofList ascii))

/-- Characters that no host may have. -/
def isForbidden (c : Char) : Bool := "\x00\t\n\r #/:<>?@[\\]^|".toList.contains c

/-- The host of another URL. -/
def readOther : List Char → Except HostFault Host
  | '[' :: cs => readBrackets cs
  | cs =>
    if cs.any isForbidden then .error .character
    else .ok (.name (String.ofList (Percent.encode Percent.isControl cs)))

end Host

end HeatFeed.Http
