/-!
# PushNotice.Url.Error

**Why a text is no URL.**
-/

namespace PushNotice.Url

/-- The reasons for which a text is no absolute URL. -/
inductive ParseError where
  | emptyHost
  | badDomain
  | badPort
  | badIpv4
  | badIpv6
  | badHostCharacter
  | noScheme
deriving DecidableEq, Repr

/-- The wording of a reason. -/
def ParseError.message : ParseError → String
  | .emptyHost => "empty host"
  | .badDomain => "invalid international domain name"
  | .badPort => "invalid port number"
  | .badIpv4 => "invalid IPv4 address"
  | .badIpv6 => "invalid IPv6 address"
  | .badHostCharacter => "invalid domain character"
  | .noScheme => "relative URL without a base"

end PushNotice.Url
