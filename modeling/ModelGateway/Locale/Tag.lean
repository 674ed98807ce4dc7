import ModelGateway.Locale.Registry

/-!
Language tags: a language, then optionally a script, a region, variants and
extensions. A tag counts only if it is well formed and its subtags are
registered.
-/

namespace ModelGateway.Locale

structure Tag where
  language : Bytes
  script : Option Bytes := none
  region : Option Bytes := none
  deriving DecidableEq, Repr

private def isAlphanumeric (b : UInt8) : Bool :=
  Bytes.isLetter b || Bytes.isDigit b

private def subtags? (s : Bytes) : Option (List Bytes) :=
  let parts := Bytes.splitOn 0x2d ((Bytes.lower s).map fun b =>
    if b == 0x5f then 0x2d else b)
  if parts.all fun p => 1 ≤ p.length && p.length ≤ 8 &&
      p.all isAlphanumeric then
    some parts
  else none

structure Extension where
  singleton : Bytes
  body : List Bytes
  deriving DecidableEq, Repr

private def extensions : List Bytes → List Bytes × List Extension
  | [] => ([], [])
  | subtag :: rest =>
      if subtag == utf8 "x" then
        ([], [⟨subtag, rest⟩])
      else
        let (body, later) := extensions rest
        if subtag.length == 1 then ([], ⟨subtag, body⟩ :: later)
        else (subtag :: body, later)

private def isLanguage (subtag : Bytes) : Bool :=
  subtag.all Bytes.isLetter && (subtag.length == 3 || languages.contains subtag)

private def startsWithLetter (subtag : Bytes) : Bool :=
  (subtag.head?.map Bytes.isLetter).getD false

/-- The language after its extended subtags of three letters, each of which
takes the place of what stands before it. -/
def extendedLanguage? (language : Bytes) :
    List Bytes → Option (Bytes × List Bytes)
  | [] => some (language, [])
  | subtag :: rest =>
      if subtag.length == 3 && startsWithLetter subtag then
        if isLanguage subtag then
          extendedLanguage? (if subtag == utf8 "und" then language else subtag)
            rest
        else
          none
      else
        some (language, subtag :: rest)

private def script? : List Bytes → Option (Option Bytes × List Bytes)
  | [] => some (none, [])
  | subtag :: rest =>
      if subtag.length == 4 && startsWithLetter subtag then
        if scripts.contains subtag then some (some subtag, rest) else none
      else
        some (none, subtag :: rest)

private def isRegion (subtag : Bytes) : Bool :=
  regions.contains subtag || longRegions.contains subtag ||
    regionNumbers.contains subtag

private def region? : List Bytes → Option (Option Bytes × List Bytes)
  | [] => some (none, [])
  | subtag :: rest =>
      if subtag.length == 2 || subtag.length == 3 then
        if isRegion subtag then some (some subtag, rest) else none
      else
        some (none, subtag :: rest)

private def variants? : List Bytes → Option (List Bytes)
  | [] => some []
  | subtag :: rest =>
      if subtag.length ≥ 4 then
        if variants.contains subtag then variants? rest else none
      else
        some (subtag :: rest)

private def Tag.readMain? : List Bytes → Option (Tag × List Bytes)
  | [] => none
  | language :: rest => do
      if !((language.length == 2 || language.length == 3) &&
        isLanguage language) then none
      let (language, rest) ← extendedLanguage? language rest
      let (script, rest) ← script? rest
      let (region, rest) ← region? rest
      let rest ← variants? rest
      return (⟨language, script, region⟩, rest)

private def keyValues : List Bytes → List (Bytes × List Bytes)
  | [] => []
  | subtag :: rest =>
      if subtag.length == 2 then
        (subtag, rest.takeWhile fun s => s.length > 2) :: keyValues rest
      else
        keyValues rest

private def keysAgree (pairs : List (Bytes × List Bytes)) : Bool :=
  pairs.all fun (key, value) => pairs.all fun (key', value') => key != key' ||
    value == value'

private def isTransformKey (subtag : Bytes) : Bool :=
  subtag.length == 2 && !((subtag.getLast?.map Bytes.isLetter).getD false)

private def dropTransform : Bool → List Bytes → List Bytes
  | _, [] => []
  | inValue, subtag :: rest =>
      if isTransformKey subtag || (inValue && subtag.length ≥ 3) then
        dropTransform true rest
      else subtag :: rest

/-- What follows a transformed tag and its keys, if the tag is registered and
there is one or the other. -/
def transform? (body : List Bytes) : Option (List Bytes) := do
  let first ← body.head?
  let second := (first.drop 1).head?
  let isTag := (first.length == 2 || first.length == 3) &&
    (second.map Bytes.isLetter).getD false
  let rest ← if isTag then (Tag.readMain? body).map Prod.snd else some body
  let rest := dropTransform false rest
  if rest.length == body.length then none else some rest

/-- Whether all extensions are well formed. What a transformed tag leaves over
ends the reading. -/
def extensionsValid : List Extension → Bool
  | [] => true
  | ⟨singleton, body⟩ :: later =>
      if singleton == utf8 "t" then
        match transform? body with
        | none => false
        | some [] => extensionsValid later
        | some (_ :: _) => true
      else
        !body.isEmpty && (singleton != utf8 "u" ||
          keysAgree (keyValues body)) && extensionsValid later

def Tag.read? (s : Bytes) : Option Tag := do
  let (main, exts) := extensions (← subtags? s)
  let (tag, rest) ← Tag.readMain? main
  if rest.isEmpty && extensionsValid exts then some tag else none

end ModelGateway.Locale
