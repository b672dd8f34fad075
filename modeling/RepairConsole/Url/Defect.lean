/-! # What can be wrong with a URL -/

namespace RepairConsole.Url

/-- Why a text is no URL. -/
inductive Defect where
  | noScheme
  | emptyHost
  | badPort
  | badIPv4
  | badIPv6
  | badDomain
  | badOpaqueHost
  deriving DecidableEq, Repr

def Defect.text : Defect → String
  | noScheme => "relative URL without a base"
  | emptyHost => "empty host"
  | badPort => "invalid port number"
  | badIPv4 => "invalid IPv4 address"
  | badIPv6 => "invalid IPv6 address"
  | badDomain => "invalid international domain name"
  | badOpaqueHost => "invalid domain character"

end RepairConsole.Url
