import ModelGateway.Locale.Tag

namespace ModelGateway

inductive Language where
  | english
  | french
  deriving DecidableEq, Repr

namespace Language

/-- Whether a tag asks for French: by its language, or by its region if it names
no language. -/
def isFrench (tag : Locale.Tag) : Bool :=
  (tag.script == none || tag.script == some "latn") &&
    (Locale.frenchLanguages.contains tag.language ||
      (tag.language == utf8 "und" &&
        (tag.region.map Locale.frenchRegions.contains).getD false))

/-- The language of a locale; English unless the locale is a tag that asks for
French. -/
def ofLocale (locale : Bytes) : Language :=
  match Locale.Tag.read? locale with
  | some tag => if isFrench tag then .french else .english
  | none => .english

def tag : Language → Bytes
  | .english => "en"
  | .french => "fr"

def noImage : Language → Bytes
  | .english => "no image received"
  | .french => "Aucune image reçue"

def defaultInstruction : Language → Bytes
  | .english => "Analyze this image in detail"
  | .french => "Analyse cette image en détail."

end Language

end ModelGateway
