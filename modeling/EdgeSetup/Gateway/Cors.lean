import EdgeSetup.Http.Message

/-!
# Cross-origin access

One other origin may be allowed to use the service from a browser, with credentials. The wildcard
origin can not be combined with credentials.
-/

namespace EdgeSetup

open Http

/-- What a configured origin amounts to. -/
inductive CorsPolicy where
  /-- No other origin is allowed, for want of one that can be named in a header. -/
  | off
  | allow (origin : String)
  /-- A service can not be started like this. -/
  | invalid
  deriving DecidableEq, Repr

namespace CorsPolicy

/-- The origin that stands for all origins. -/
def wildcard : String := "*"

/-- The policy for a configured origin. -/
def ofOrigin : Option String → CorsPolicy
  | none => off
  | some origin =>
    if !isLegalValue origin then off else if origin = wildcard then invalid else allow origin

/-- The headers of every response. -/
def responseHeaders (origin : String) : Headers :=
  [ ("access-control-allow-origin", origin),
    ("access-control-allow-credentials", "true"),
    ("vary", "origin, access-control-request-method, access-control-request-headers") ]

/-- The additional headers of the answer to a preflight request. -/
def preflightHeaders : Headers :=
  [ ("access-control-allow-methods", "GET,POST"),
    ("access-control-allow-headers", "authorization,content-type") ]

end CorsPolicy

end EdgeSetup
