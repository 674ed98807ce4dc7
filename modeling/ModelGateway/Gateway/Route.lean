import ModelGateway.Http.Message
import ModelGateway.Http.Path

namespace ModelGateway

inductive Route where
  | health
  | analysis
  | prompt
  -- A path below the directory of assets, from its slash on.
  | asset (path : Bytes)
  | entry
  deriving DecidableEq, Repr

namespace Route

def assets : Bytes := "/static"

def assetPath? (path : Bytes) : Option Bytes :=
  (Bytes.dropStart? assets path).filter (Bytes.startsWith "/")

def find? (method path : Bytes) : Option Route :=
  if method == utf8 "GET" then
    if path == utf8 "/health" then some .health
    else if path == utf8 "/" then some .entry
    else (assetPath? path).map .asset
  else if method == utf8 "HEAD" then (assetPath? path).map .asset
  else if method == utf8 "POST" then
    if path == utf8 "/analyze" then some .analysis
    else if path == utf8 "/api/ai" then some .prompt
    else none
  else none

/-- The path with a slash more or less at its end, if that has a route and the
path itself has none. -/
def nearby? (method path : Bytes) : Option Bytes :=
  if (find? method path).isSome || path == utf8 "/" then none
  else if Bytes.endsWith "/" path then
    if (find? method path.dropLast).isSome then some path.dropLast else none
  else if (find? method (path ++ utf8 "/")).isSome then some (path ++ utf8 "/")
  else none

end Route

namespace Redirect

private def singleSlashes : Bytes → Bytes
  | 0x2f :: 0x2f :: rest => singleSlashes (0x2f :: rest)
  | b :: rest => b :: singleSlashes rest
  | [] => []

private def mount? (field : Bytes) : Option Bytes :=
  let path := Path.clean field
  if path == utf8 "." then none
  else
    some (singleSlashes (path.filter fun b => Bytes.isLetter b ||
      Bytes.isDigit b || b == 0x2f || b == 0x2d))

/-- Cleans a location but keeps a slash at its end. Two slashes at its start
name a host, and such a location stays as it is. -/
def tidy (location : Bytes) : Bytes :=
  if Bytes.startsWith "//" location && !Bytes.startsWith "///" location then
    location
  else
    let path := Path.clean location
    if Bytes.endsWith "/" location && !Bytes.endsWith "/" path then
      path ++ utf8 "/" else path

private def escapeByte (b : UInt8) : Bytes :=
  if b < 0x80 then [b] else 0x25 :: Bytes.hexByte b

private def escapeMarkup (b : UInt8) : Bytes :=
  if b == 0x26 then "&amp;"
  else if b == 0x3c then "&lt;"
  else if b == 0x3e then "&gt;"
  else if b == 0x22 then "&#34;"
  else if b == 0x27 then "&#39;"
  else [b]

def response (r : Request) (path : Bytes) : Response :=
  let mounted :=
    match mount? (r.header "X-Forwarded-Prefix") with
    | some mount => mount ++ utf8 "/" ++ path
    | none => path
  let query := (r.target.query.map (0x3f :: ·)).getD []
  let location := tidy mounted ++ query
  let isGet := r.method == utf8 "GET"
  { status := if isGet then 301 else 307
    headers := ("Location", location.flatMap escapeByte) ::
      if r.isRead then [("Content-Type", "text/html; charset=utf-8")] else []
    body :=
      if isGet then
        utf8 "<a href=\"" ++ location.flatMap escapeMarkup ++
          utf8 "\">Moved Permanently</a>.\n\n"
      else [] }

end Redirect

end ModelGateway
