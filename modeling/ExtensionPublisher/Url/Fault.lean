/-!
# Faults of addresses

Why a text is no absolute address.
-/
namespace ExtensionPublisher.Url

/-- Why a text is no absolute address. There is one reason for each place where
reading can end. -/
inductive UrlFault where
  /-- Nothing says how the address is meant. -/
  | relativeWithoutBase
  | emptyHost
  /-- The host has a character or a label that no domain has. -/
  | invalidDomain
  /-- The host of an unknown kind of address has a character that no host has. -/
  | invalidHostCharacter
  | invalidIpv4
  | invalidIpv6
  | invalidPort
  deriving DecidableEq, Repr

/-- The fault in words. -/
def UrlFault.message : UrlFault → String
  | .relativeWithoutBase => "relative URL without a base"
  | .emptyHost => "empty host"
  | .invalidDomain => "invalid international domain name"
  | .invalidHostCharacter => "invalid domain character"
  | .invalidIpv4 => "invalid IPv4 address"
  | .invalidIpv6 => "invalid IPv6 address"
  | .invalidPort => "invalid port number"

end ExtensionPublisher.Url
