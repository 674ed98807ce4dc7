import ModelGateway.Json.Writer
import ModelGateway.Text.Blank

/-!
Log records. A record is one line holding one JSON object, its names in bytewise
order. The level, message and time of a record own their names; a field of one
of these names is kept under another one.
-/

namespace ModelGateway

namespace Text

private def lowerCode (code : Nat) : Nat :=
  if 0x41 ≤ code && code ≤ 0x5a then code + 32
  else if code == 0x130 then 0x69
  else if code == 0x212a then 0x6b
  else code

end Text

namespace Log

inductive Level where
  | debug
  | info
  | warning
  | error
  deriving DecidableEq, Repr

namespace Level

def name : Level → Bytes
  | .debug => "debug"
  | .info => "info"
  | .warning => "warning"
  | .error => "error"

private def rank : Level → Nat
  | .debug => 0
  | .info => 1
  | .warning => 2
  | .error => 3

def shows (level other : Level) : Bool :=
  level.rank ≤ other.rank

/-- The level that a setting names, in any letter case and with white space
around; otherwise `info`. -/
def ofText (s : Bytes) : Level :=
  let word := (Utf8.codes s.trim).map Text.lowerCode
  if word == Utf8.codes "debug" then .debug
  else if word == Utf8.codes "warn" || word == Utf8.codes "warning" then
    .warning
  else if word == Utf8.codes "error" then .error
  else .info

end Level

structure Record where
  level : Level
  message : Bytes
  fields : List (Bytes × Document)

def ownNames : List Bytes := ["time", "msg", "level", "logrus_error"]

def put (entries : List (Bytes × Document)) (name : Bytes) (value : Document) :
    List (Bytes × Document) :=
  entries.filter (·.1 != name) ++ [(name, value)]

/-- Moves a field that bears one of the record's own names out of the way. -/
def yieldName (entries : List (Bytes × Document)) (name : Bytes) :
    List (Bytes × Document) :=
  match Fields.get? name entries with
  | none => entries
  | some value =>
      put (entries.filter (·.1 != name)) (utf8 "fields." ++ name) value

def Record.entries (r : Record) (time : Option Bytes) :
    List (Bytes × Document) :=
  let fields := ownNames.foldl yieldName r.fields
  let stamped :=
    match time with
    | none => fields
    | some t => put fields "time" (.string t)
  Fields.sorted (put (put stamped "msg" (.string r.message)) "level"
    (.string r.level.name))

def Record.line (r : Record) (time : Option Bytes) : Bytes :=
  Document.write (.object (r.entries time))

def shown (level : Level) (records : List Record) : List Record :=
  records.filter fun r => level.shows r.level

end Log

end ModelGateway
