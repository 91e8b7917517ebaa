/-
  Admission.Network — the addresses that can be listened at.

  A host is an address or a name.  The ports below a bound need a privilege that the program does not
  have; that is found out before the address is looked at.
-/
import Admission.Text.Digit
import Admission.Text.Split

namespace Admission

/-- Where the program runs. -/
structure Network where
  /-- The hosts that it can listen at. -/
  localHosts : List String
  /-- The first port that needs no privilege. -/
  firstOpenPort : Nat := 1024
deriving DecidableEq

namespace Network

/-- Why an address cannot be listened at. -/
inductive Fault where
  | unknownHost
  | privilegedPort
  | foreignAddress
deriving DecidableEq

/-- The wording of each fault. -/
def Fault.message : Fault → String
  | .unknownHost => "failed to lookup address information: Name or service not known"
  | .privilegedPort => "Permission denied (os error 13)"
  | .foreignAddress => "Cannot assign requested address (os error 99)"

/-- One of the four parts of an address. -/
def isOctet (s : String) : Bool :=
  let cs := s.toList
  !cs.isEmpty && cs.length ≤ 3 && cs.all Char.isDigit &&
  Text.ofDigits 10 cs ≤ 255

/-- The host is an address and not a name. -/
def isAddress (host : String) : Bool :=
  host.toList.contains ':' ||
  (let parts := Text.split '.' host
   parts.length == 4 && parts.all isOctet)

/-- Listens at a port of a host; port 0 stands for any that is free. -/
def listen (n : Network) (host : String) (port : Nat) : Except Fault Unit :=
  if !isAddress host && !n.localHosts.contains host then .error .unknownHost
  else if port ≠ 0 ∧ port < n.firstOpenPort then .error .privilegedPort
  else if n.localHosts.contains host then .ok ()
  else .error .foreignAddress

end Network

end Admission
