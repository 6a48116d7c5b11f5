import EdgeSetup.Http.Message
import EdgeSetup.Json.Writer
import EdgeSetup.Text.Digit
import EdgeSetup.Text.Split

/-!
# Messages on the wire

The texts that requests and responses are sent as: a first line, headers, an empty line and a body.
The body of a response is as long as its headers say, comes in chunks, or reaches to the end.
-/

namespace EdgeSetup.Http

/-! ## Requests -/

/-- The first line of a request for a path. -/
def requestLine (method : Method) (path : String) : String :=
  method.name ++ " " ++ path ++ " HTTP/1.1"

/-- The body of a request as a text. -/
def Request.bodyText (request : Request) : String := (request.body.map Json.Value.render).getD ""

/-! ## Responses -/

namespace Response

/-- A line at the front of a text, without its end. -/
def line? (text : List Char) : Option (List Char × List Char) :=
  (Text.cutAt? '\n' text).map fun (line, rest) => ((Text.stripEnd? ['\r'] line).getD line, rest)

/-- The status of a first line, such as `HTTP/1.1 200 OK`. -/
def statusOf? (line : List Char) : Option Nat := do
  let rest ← Text.stripStart? "HTTP/1.".toList line
  let (_, rest) ← Text.cutAt? ' ' rest
  let digits := rest.takeWhile Char.isDigit
  let after := rest.dropWhile Char.isDigit
  if digits.length = 3 && (after.isEmpty || after.head? = some ' ') then
    some (Nat.ofDigitChars 10 digits 0)
  else none

/-- Whether a character is a blank around the value of a header. -/
def isHeaderBlank (c : Char) : Bool := c = ' ' || c = '\t'

/-- The headers up to an empty line, and the text after it. `fuel` bounds their number. -/
def headersFuel? : Nat → List Char → Option (List (String × String) × List Char)
  | 0, _ => none
  | fuel + 1, text => do
    let (line, rest) ← line? text
    if line.isEmpty then some ([], rest)
    else
      let (name, value) ← Text.cutAt? ':' line
      let (headers, rest) ← headersFuel? fuel rest
      some ((String.ofList name, String.ofList (Text.trimWhile isHeaderBlank value)) :: headers,
        rest)

/-- The front of a text that takes so many bytes, and the text after it. -/
def takeBytes? : Nat → List Char → Option (List Char × List Char)
  | 0, text => some ([], text)
  | _ + 1, [] => none
  | size + 1, c :: rest =>
    if c.utf8Size ≤ size + 1 then
      (takeBytes? (size + 1 - c.utf8Size) rest).map fun (front, after) => (c :: front, after)
    else none
termination_by _ text => text.length

/-- The size that a chunk announces; what follows a semicolon does not count. -/
def chunkSize? (line : List Char) : Option Nat := do
  let digits := Text.trimWhile isHeaderBlank (line.takeWhile (· != ';'))
  if digits.isEmpty then none
  else (digits.mapM Text.hexValue?).map fun values => values.foldl (fun n v => 16 * n + v) 0

/-- A body in chunks, up to one of size zero. `fuel` bounds their number. -/
def chunksFuel? : Nat → List Char → Option (List Char)
  | 0, _ => none
  | fuel + 1, text => do
    let (line, rest) ← line? text
    let size ← chunkSize? line
    if size = 0 then some []
    else
      let (chunk, rest) ← takeBytes? size rest
      let (separator, rest) ← line? rest
      if separator.isEmpty then (chunksFuel? fuel rest).map (chunk ++ ·) else none

/-- Whether a response to a method has no body whatever its headers say. -/
def isBodiless (method : Method) (status : Nat) : Bool :=
  method = .head || status = 204 || status = 304 || status < 200

/-- The body of a response to a method, from the text after its headers. -/
def bodyOf? (method : Method) (status : Nat) (headers : Headers) (text : List Char) :
    Option (List Char) :=
  if isBodiless method status then some []
  else if (headers.get? "transfer-encoding").any (fun v => lowerCase v == "chunked") then
    chunksFuel? (text.length + 1) text
  else
    match headers.get? "content-length" with
    | none => some text
    | some length => do
      let (body, _) ← takeBytes? (← length.toNat?) text
      some body

/-- The response to a method that a text sends. -/
def ofWire? (method : Method) (text : String) : Option Response := do
  let chars := text.toList
  let (first, rest) ← line? chars
  let status ← statusOf? first
  let (headers, rest) ← headersFuel? (chars.length + 1) rest
  let headers := Headers.ofList headers
  let body ← bodyOf? method status headers rest
  some ⟨status, headers, String.ofList body⟩

end Response

end EdgeSetup.Http
