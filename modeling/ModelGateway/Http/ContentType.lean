import ModelGateway.Text.Bytes

namespace ModelGateway.ContentType

def byExtension : List (Bytes × Bytes) := [
  (".avif", "image/avif"),
  (".css", "text/css; charset=utf-8"),
  (".gif", "image/gif"),
  (".htm", "text/html; charset=utf-8"),
  (".html", "text/html; charset=utf-8"),
  (".jpeg", "image/jpeg"),
  (".jpg", "image/jpeg"),
  (".js", "text/javascript; charset=utf-8"),
  (".json", "application/json"),
  (".mjs", "text/javascript; charset=utf-8"),
  (".pdf", "application/pdf"),
  (".png", "image/png"),
  (".svg", "image/svg+xml"),
  (".wasm", "application/wasm"),
  (".webp", "image/webp"),
  (".xml", "text/xml; charset=utf-8")]

private def sampleSize : Nat := 512

def isBlank (b : UInt8) : Bool :=
  b == 0x09 || b == 0x0a || b == 0x0c || b == 0x0d || b == 0x20

def tags : List Bytes := [
  "<!DOCTYPE HTML", "<HTML", "<HEAD", "<SCRIPT", "<IFRAME", "<H1", "<DIV",
  "<FONT", "<TABLE", "<A", "<STYLE", "<TITLE", "<B", "<BODY", "<BR", "<P",
  "<!--"]

private def startsTag (tag s : Bytes) : Bool :=
  (s.take tag.length).map Bytes.upperByte == tag &&
    match s.drop tag.length with
    | b :: _ => b == 0x20 || b == 0x3e
    | [] => false

abbrev Signature := List (Option UInt8)

namespace Signature

def exactly (s : Bytes) : Signature := s.map some

def any (n : Nat) : Signature := List.replicate n none

def fits : Signature → Bytes → Bool
  | [], _ => true
  | _ :: _, [] => false
  | place :: rest, b :: s => (place.isNone || place == some b) && fits rest s

end Signature

open Signature in
private def earlySignatures : List (Signature × Bytes) := [
  (exactly "%PDF-", "application/pdf"),
  (exactly "%!PS-Adobe-", "application/postscript"),
  (exactly [0xfe, 0xff] ++ any 2, "text/plain; charset=utf-16be"),
  (exactly [0xff, 0xfe] ++ any 2, "text/plain; charset=utf-16le"),
  (exactly [0xef, 0xbb, 0xbf] ++ any 1, "text/plain; charset=utf-8"),
  (exactly [0, 0, 1, 0], "image/x-icon"),
  (exactly [0, 0, 2, 0], "image/x-icon"),
  (exactly "BM", "image/bmp"),
  (exactly "GIF87a", "image/gif"),
  (exactly "GIF89a", "image/gif"),
  (exactly "RIFF" ++ any 4 ++ exactly "WEBPVP", "image/webp"),
  (exactly [0x89, 0x50, 0x4e, 0x47, 0x0d, 0x0a, 0x1a, 0x0a], "image/png"),
  (exactly [0xff, 0xd8, 0xff], "image/jpeg"),
  (exactly "FORM" ++ any 4 ++ exactly "AIFF", "audio/aiff"),
  (exactly "ID3", "audio/mpeg"),
  (exactly [0x4f, 0x67, 0x67, 0x53, 0], "application/ogg"),
  (exactly [0x4d, 0x54, 0x68, 0x64, 0, 0, 0, 6], "audio/midi"),
  (exactly "RIFF" ++ any 4 ++ exactly "AVI ", "video/avi"),
  (exactly "RIFF" ++ any 4 ++ exactly "WAVE", "audio/wave")]

open Signature in
private def lateSignatures : List (Signature × Bytes) := [
  (exactly [0x1a, 0x45, 0xdf, 0xa3], "video/webm"),
  (any 34 ++ exactly "LP", "application/vnd.ms-fontobject"),
  (exactly [0, 1, 0, 0], "font/ttf"),
  (exactly "OTTO", "font/otf"),
  (exactly "ttcf", "font/collection"),
  (exactly "wOFF", "font/woff"),
  (exactly "wOF2", "font/woff2"),
  (exactly [0x1f, 0x8b, 0x08], "application/x-gzip"),
  (exactly [0x50, 0x4b, 0x03, 0x04], "application/zip"),
  (exactly [0x52, 0x61, 0x72, 0x21, 0x1a, 0x07, 0x00],
    "application/x-rar-compressed"),
  (exactly [0x52, 0x61, 0x72, 0x21, 0x1a, 0x07, 0x01, 0x00],
    "application/x-rar-compressed"),
  (exactly [0x00, 0x61, 0x73, 0x6d], "application/wasm")]

private def bySignature? (signatures : List (Signature × Bytes)) (s : Bytes) :
    Option Bytes :=
  signatures.findSome? fun (signature, type) => if signature.fits s then
    some type else none

/-- Whether one of the brands in the first box of a video is the one that is
looked for. The word after the first brand is a version and does not count. -/
def isBrandedVideo (s : Bytes) : Bool :=
  let size := (s.take 4).foldl (fun n b => n * 256 + b.toNat) 0
  12 ≤ s.length && size ≤ s.length && size % 4 == 0 &&
    (s.drop 4).take 4 == utf8 "ftyp" &&
    (List.range (size / 4)).any fun word =>
      (word == 2 || 3 < word) && Bytes.startsWith "mp4" (s.drop (word * 4))

private def isBinary (b : UInt8) : Bool :=
  b ≤ 0x08 || b == 0x0b || (0x0e ≤ b && b ≤ 0x1a) || (0x1c ≤ b && b ≤ 0x1f)

private def ofContent (content : Bytes) : Bytes :=
  let s := content.take sampleSize
  let text := s.dropWhile isBlank
  if tags.any (startsTag · text) then "text/html; charset=utf-8"
  else if Bytes.startsWith "<?xml" text then "text/xml; charset=utf-8"
  else
    match bySignature? earlySignatures s with
    | some type => type
    | none =>
        if isBrandedVideo s then "video/mp4"
        else
          match bySignature? lateSignatures s with
          | some type => type
          | none =>
              if text.all (!isBinary ·) then "text/plain; charset=utf-8"
              else "application/octet-stream"

def ofFile (extension content : Bytes) : Bytes :=
  (byExtension.lookup (Bytes.lower extension)).getD (ofContent content)

end ModelGateway.ContentType
