import AnsibleStaging.Domain.Ascii
import AnsibleStaging.Text.Utf8
import AnsibleStaging.Url.Address
import AnsibleStaging.Url.Percent

/-! The host of a URL. In the schemes that a browser knows it is a domain name in ASCII or an address; elsewhere it
    is kept as it is written. -/

namespace AnsibleStaging
namespace Url

inductive UrlError where
  | emptyHost
  | domain
  | port
  | ipv4
  | ipv6
  | hostCharacter
  | relative
deriving DecidableEq

def UrlError.message : UrlError → String
  | emptyHost => "empty host"
  | domain => "invalid international domain name"
  | port => "invalid port number"
  | ipv4 => "invalid IPv4 address"
  | ipv6 => "invalid IPv6 address"
  | hostCharacter => "invalid domain character"
  | relative => "relative URL without a base"

inductive Host where
  | domain (name : String)
  | ipv4 (a : Ipv4)
  | ipv6 (a : Ipv6)
deriving DecidableEq

namespace Host

def text : Host → String
  | domain name => name
  | ipv4 a => a.text
  | ipv6 a => "[" ++ a.text ++ "]"

/-- The host between brackets, if the text starts with one. --/
def bracketed? (cs : List Char) : Option (Except UrlError Host) :=
  match cs with
  | '[' :: rest =>
    some (match rest.getLast?, Ipv6.read? (String.ofList rest.dropLast) with
      | some ']', some a => .ok (.ipv6 a)
      | _, _ => .error .ipv6)
  | _ => none

/-- The host that a text names: an address, or a name whose ASCII form is taken. --/
def read (cs : List Char) : Except UrlError Host :=
  match bracketed? cs with
  | some r => r
  | none =>
    match Domain.ascii? (Utf8.lossy (Percent.decode (String.ofList cs))) with
    | none => .error .domain
    | some name =>
      if name.isEmpty then .error .emptyHost
      else if Ipv4.isMeant name then
        match Ipv4.read? name with
        | some a => .ok (.ipv4 a)
        | none => .error .ipv4
      else .ok (.domain name)

def isForbidden (c : Char) : Bool :=
  ['\x00', '\t', '\n', '\r', ' ', '#', '/', ':', '<', '>', '?', '@', '[', '\\', ']', '^', '|'].contains c

/-- The host of a scheme that says nothing about hosts; it may be empty. --/
def readOpaque (cs : List Char) : Except UrlError Host :=
  match bracketed? cs with
  | some r => r
  | none =>
    if cs.any isForbidden then .error .hostCharacter
    else .ok (.domain (String.ofList (Percent.encodeChars [] cs)))

end Host
end Url
end AnsibleStaging
