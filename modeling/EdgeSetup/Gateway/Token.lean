import EdgeSetup.Http.Header
import EdgeSetup.Text.Split

/-!
# The caller's token

A caller shows its token in a cookie or, failing that, in the Authorization header.
-/

namespace EdgeSetup

open Http

/-- The cookie that holds the token. -/
def tokenCookie : String := "k8s-access-token-cookie"

/-- What comes before the token in the Authorization header. -/
def bearerMark : String := "Bearer "

/-- The name and value of one piece of a Cookie header; a piece without `=` is no cookie. -/
def cookie? (piece : List Char) : Option (List Char × List Char) :=
  Text.cutAt? '=' (Text.trim piece)

/-- The cookies of Cookie headers, in order. -/
def cookies (headers : List String) : List (List Char × List Char) :=
  headers.flatMap fun header => (Text.splitOn ';' header.toList).filterMap cookie?

/-- A trimmed text, unless it is empty. -/
def nonBlank? (text : List Char) : Option String :=
  match Text.trim text with
  | [] => none
  | chars => some (String.ofList chars)

/-- The token of the first cookie of the right name. -/
def cookieToken? (headers : Headers) : Option String := do
  let readable := (headers.getAll "cookie").filter isReadableValue
  let (_, value) ← (cookies readable).find? (fun cookie => cookie.1 == tokenCookie.toList)
  nonBlank? value

/-- The token of the Authorization header. -/
def bearerToken? (headers : Headers) : Option String := do
  let value ← headers.getText? "authorization"
  let token ← Text.stripStart? bearerMark.toList value.toList
  nonBlank? token

/-- The caller's token. -/
def extractToken? (headers : Headers) : Option String :=
  (cookieToken? headers).or (bearerToken? headers)

end EdgeSetup
