import ModelGateway.Files.Tree
import ModelGateway.Http.ContentType
import ModelGateway.Http.Date
import ModelGateway.Http.Multipart
import ModelGateway.Http.Range

namespace ModelGateway.Serve

private def tag? (s : Bytes) : Option (Bytes × Bytes) :=
  let mark := if Bytes.startsWith "W/" s then s.take 2 else []
  match s.drop mark.length with
  | 0x22 :: rest =>
      let inner := rest.takeWhile fun b => b == 0x21 ||
        (0x23 ≤ b && b ≤ 0x7e) || 0x80 ≤ b
      match rest.drop inner.length with
      | 0x22 :: after => some (mark ++ [0x22] ++ inner ++ [0x22], after)
      | _ => none
  | _ => none

/-- Whether a list of tags names any version at all. Files bear no tags, so no
other entry matters. -/
def namesAny : (most : Nat) → Bytes → Bool
  | 0, _ => false
  | most + 1, s =>
      match s.dropWhile ByteRange.isBlank with
      | [] => false
      | b :: rest =>
          if b == 0x2c then namesAny most rest
          else if b == 0x2a then true
          else
            match tag? (b :: rest) with
            | some (_, after) => namesAny most after
            | none => false

def matching? (field : Bytes) : Option Bool :=
  if field.isEmpty then none else some (namesAny (field.length + 1) field)

def unchangedSince? (modified : Instant) (field : Bytes) : Option Bool :=
  (Date.read? field).map modified.le

def fails (r : Request) (modified : Instant) : Bool :=
  (matching? (r.header "If-Match")).or
    (unchangedSince? modified (r.header "If-Unmodified-Since")) ==
    some false

def isKnown (r : Request) (modified : Instant) : Bool :=
  match matching? (r.header "If-None-Match") with
  | some known => known
  | none => unchangedSince? modified (r.header "If-Modified-Since") == some true

def rangeField (r : Request) (modified : Instant) : Bytes :=
  let version := r.header "If-Range"
  if version.isEmpty then r.header "Range"
  else
    match tag? (version.dropWhile ByteRange.isBlank), Date.read? version with
    | none, some date =>
        if date.seconds == modified.seconds then r.header "Range" else []
    | _, _ => []

def lastModified (modified : Instant) : Bytes × Bytes :=
  ("Last-Modified", Date.write modified)

def content (r : Request) (status : Nat) (headers : Headers)
    (body : Bytes) : Response where
  status
  headers :=
    headers ++
    ([("Accept-Ranges", "bytes"), ("Content-Length", Bytes.ofNat body.length)] :
      Headers)
  body := if r.method == utf8 "HEAD" then [] else body

/-- A file under its name. `boundary` separates the parts if there are
several. -/
def file (r : Request) (boundary name : Bytes) (f : File) : Response :=
  let modified := lastModified f.modified
  if fails r f.modified then { status := 412, headers := [modified] }
  else if isKnown r f.modified then { status := 304, headers := [modified] }
  else
    let type := ContentType.ofFile (Path.extension name) f.content
    let size := f.content.length
    let whole := content r 200 [modified, ("Content-Type", type)] f.content
    match ByteRange.read size (rangeField r f.modified) with
    | .error fault =>
        if fault == .outside && size == 0 then whole
        else
          let refused := Response.plain 416 fault.message
          if fault == .outside then
            { refused with
              headers :=
                ("Content-Range", utf8 "bytes */" ++ Bytes.ofNat size) ::
                refused.headers }
          else refused
    | .ok ranges =>
        if ByteRange.isExcessive size ranges then whole
        else
          match ranges with
          | [] => whole
          | [range] =>
              content r 206 [modified, ("Content-Type", type),
                ("Content-Range", range.text size)]
                (range.slice f.content)
          | _ =>
              let parts := ranges.map fun range : ByteRange =>
                (⟨[("Content-Range", range.text size), ("Content-Type", type)],
                  range.slice f.content⟩ : Part)
              content r 206
                [modified,
                  ("Content-Type",
                    utf8 "multipart/byteranges; boundary=" ++ boundary)]
                (Multipart.write boundary parts)

def moved (r : Request) (place : Bytes) : Response :=
  let query := r.target.query.getD []
  { status := 301
    headers :=
      [("Location", if query.isEmpty then
        place else place ++ utf8 "?" ++ query)] }

def indexName : Bytes := "index.html"

def namesIndex (path : Bytes) : Bool :=
  Bytes.endsWith (0x2f :: indexName) path

def hidden (r : Request) (modified : Instant) : Response :=
  if unchangedSince? modified (r.header "If-Modified-Since") == some true then
    { status := 304 }
  else
    { status := 404
      headers :=
        [lastModified modified, ("Content-Type", "text/html; charset=utf-8")]
      body :=
        "<!doctype html>\n<meta name=\"viewport\" content=\"width=device-width\">\n<pre>\n</pre>\n" }

/-- The document at a path of the tree, whatever path the request names. -/
def document (r : Request) (boundary name : Bytes) (f : File) : Response :=
  if Path.climbs r.target.path then Response.plain 400 "invalid URL path"
  else if namesIndex r.target.path then moved r "./"
  else file r boundary name f

/-- What a request for a path below a directory gets; none if nothing is
there. -/
def below? (t : FileTree) (directory path : Bytes) (r : Request)
    (boundary : Bytes) : Option Response :=
  match t.findIn directory path with
  | .error _ => none
  | .ok node => some <|
      if namesIndex path then moved r "./"
      else
        match node with
        | .file f =>
            if !Bytes.endsWith "/" path then
              file r boundary (Path.base (Path.clean path)) f
            else if Path.base path == utf8 "." ||
                Path.base path == utf8 "/" then
              Response.plain 500 "http: attempting to traverse a non-directory"
            else moved r (utf8 "../" ++ Path.base path)
        | .directory modified =>
            if !Bytes.endsWith "/" path then
              moved r (Path.base path ++ utf8 "/")
            else
              match t.findIn directory (path ++ indexName) with
              | .ok (.file f) => file r boundary indexName f
              | _ => hidden r modified

end ModelGateway.Serve
