import ModelGateway.Generation.Catalog
import ModelGateway.Generation.Key
import ModelGateway.Generation.Mismatch

/-!
Options set from a document. Values of another kind are taken where their
meaning is plain: texts as numbers, numbers as texts, a single value as a list
of one. Every name has to address a field, and all mismatches are reported
together.
-/

namespace ModelGateway

namespace Bytes

def field (path name : Bytes) : Bytes :=
  if path.isEmpty then name else path ++ 0x2e :: name

def entry (path key : Bytes) : Bytes :=
  path ++ 0x5b :: key ++ [0x5d]

def item (path : Bytes) (i : Nat) : Bytes :=
  entry path (ofNat i)

end Bytes

namespace Binary

/-- A number as a word of sixty-four bits; one that does not fit becomes the
least word. -/
def toWord (x : Binary) : Int :=
  let n := x.trunc
  if -(0x8000000000000000) ≤ n && n < 0x8000000000000000 then n
  else -(0x8000000000000000)

end Binary

def narrow (isSigned : Bool) (bits : Nat) (n : Int) : Int :=
  if isSigned then Int.bmod n (Nat.pow 2 bits) else Int.emod n (Nat.pow 2 bits)

namespace Shape

def isByte : Shape → Bool
  | .integer _ isSigned bits => !isSigned && bits == 8
  | _ => false

def takesSingle (of : Shape) : Value → Bool
  | .array _ => false
  | .object fields => !fields.isEmpty
  | .string _ => !of.isByte
  | _ => true

/-- The shape that a value meets once options are opened and lists take it as
their only item. -/
def core : Shape → Value → Shape
  | .optional s, v => s.core v
  | .list s, v => if s.takesSingle v then s.core v else .list s
  | s, _ => s

def corePath (path : Bytes) : Shape → Value → Bytes
  | .optional s, v => corePath path s v
  | .list s, v => if s.takesSingle v then corePath (path.item 0) s v else path
  | _, _ => path

def listOf (of : Shape) (items : List Setting) : Setting :=
  if of.isByte then
    .bytes (items.map fun
      | .integer n => n.toNat.toUInt8
      | _ => 0)
  else
    .list items

def rebuild : Shape → Value → Setting → Setting
  | .optional s, v, x => .present (s.rebuild v x)
  | .list s, v, x => if s.takesSingle v then s.listOf [s.rebuild v x] else x
  | _, _, x => x

end Shape

namespace Decode

private def trueTexts : List Bytes := ["1", "t", "T", "TRUE", "true", "True"]

private def falseTexts : List Bytes :=
  ["0", "f", "F", "FALSE", "false", "False"]

def one (f : Format) : Floating := f.round false 1 1

private def ofBool (path : Bytes) (shape : Shape) (b : Bool) :
    Checked Setting :=
  match shape with
  | .bool => .ok (.bool b)
  | .text _ => .ok (.text (if b then "1" else "0"))
  | .integer _ _ _ => .ok (.integer (if b then 1 else 0))
  | .float _ f =>
      .ok (.float f (if b then one f else .finite ⟨false, 0, f.least⟩))
  | .any => .ok (.free (.bool b))
  | .table _ | .record _ => .error [.notAnObject path (.bool b)]
  | s => .error [.unconvertible path s.typeName (.bool b)]

def ofNumber (path : Bytes) (shape : Shape) (x : Binary) : Checked Setting :=
  match shape with
  | .bool => .ok (.bool !x.isZero)
  | .text _ => .ok (.text x.plain)
  | .integer _ isSigned bits =>
      if x.isWhole then .ok (.integer (narrow isSigned bits x.toWord))
      else .error [.fractional path x]
  | .float _ f => .ok (.float f (x.convert f))
  | .any => .ok (.free (.number x))
  | .table _ | .record _ => .error [.notAnObject path (.number x)]
  | s => .error [.unconvertible path s.typeName (.number x)]

def ofText (path : Bytes) (shape : Shape) (s : Bytes) : Checked Setting :=
  match shape with
  | .bool =>
      if trueTexts.contains s then .ok (.bool true)
      else if s.isEmpty || falseTexts.contains s then .ok (.bool false)
      else .error [.unreadable path .bool s .malformed]
  | .text _ => .ok (.text s)
  | .integer _ isSigned bits =>
      if isSigned then
        match Numeral.integer bits (if s.isEmpty then "0" else s) with
        | .ok n => .ok (.integer n)
        | .error fault => .error [.unreadable path .int s fault]
      else
        match Numeral.natural (Nat.pow 2 bits - 1)
          (if s.isEmpty then "0" else s) with
        | .ok n => .ok (.integer n)
        | .error fault => .error [.unreadable path .uint s fault]
  | .float _ f =>
      match f.read (if s.isEmpty then "0" else s) with
      | .ok x => .ok (.float f x)
      | .error fault => .error [.unreadable path .float s fault]
  | .any => .ok (.free (.string s))
  | .list _ => .ok (.bytes s)
  | .table _ | .record _ => .error [.notAnObject path (.string s)]
  | s' => .error [.unconvertible path s'.typeName (.string s)]

/-- The name by which an object addresses a field: the field's own, or else one
that differs from it in letter case only. -/
def chosenKey? (field : Field) (keys : List Bytes) : Option Bytes :=
  if keys.contains field.name then some field.name
  else keys.find? (Key.foldEq field.name)

def fieldOf? (record : Record) (keys : List Bytes) (key : Bytes) :
    Option Field :=
  record.fields.find? fun field => chosenKey? field keys == some key

/-- The names of an object that address no field of their own. -/
def unknownKeys (record : Record) (keys : List Bytes) : List Bytes :=
  keys.filter fun key => (fieldOf? record keys key).isNone

def checkKeys (path : Bytes) (record : Record) (keys : List Bytes) :
    Checked Unit :=
  match unknownKeys record keys with
  | [] => .ok ()
  | unknown => .error [.unknownKeys path unknown]

def arrange (record : Record) (settings : List (Bytes × Setting)) :
    List (Bytes × Setting) :=
  record.fields.filterMap fun field =>
    match settings.find? (·.1 == field.name) with
    | some (name, setting) =>
        if setting.isEmpty then none else some (name, setting)
    | none => none

def overlay (older newer : List (Bytes × Setting)) : List (Bytes × Setting) :=
  older.filter (fun entry => !newer.any (·.1 == entry.1)) ++ newer

mutual

def decode (path : Bytes) (shape : Shape) : Value → Checked Setting
  | .null => .ok shape.empty
  | .bool b =>
      (ofBool (shape.corePath path (.bool b)) (shape.core (.bool b)) b).map
        (shape.rebuild (.bool b))
  | .number x =>
      (ofNumber (shape.corePath path (.number x)) (shape.core (.number x))
        x).map (shape.rebuild (.number x))
  | .string s =>
      (ofText (shape.corePath path (.string s)) (shape.core (.string s)) s).map
        (shape.rebuild (.string s))
  | .array items =>
      let corePath := shape.corePath path (.array items)
      Except.map (shape.rebuild (.array items)) <|
        match shape.core (.array items) with
        | .list s => (decodeItems corePath s 0 items).map s.listOf
        | .table s =>
            if items.isEmpty then
              .ok (.table [])
            else
              (decodeLayers corePath s none 0 items).map fun
                | none => .absent
                | some entries => .table entries
        | .any => .ok (.free (.array items))
        | .record _ => .error [.notAnObject corePath (.array items)]
        | s => .error [.unconvertible corePath s.typeName (.array items)]
  | .object fields =>
      let corePath := shape.corePath path (.object fields)
      Except.map (shape.rebuild (.object fields)) <|
        match shape.core (.object fields) with
        | .list s => .ok (s.listOf [])
        | .table s => (decodeEntries corePath s fields).map .table
        | .record record =>
            let keys := Fields.keys fields
            Checked.both (fun settings _ => .record (arrange record settings))
              (decodeFields corePath record keys fields)
                (checkKeys corePath record keys)
        | .any => .ok (.free (.object fields))
        | s => .error [.unconvertible corePath s.typeName (.object fields)]

def decodeItems (path : Bytes) (shape : Shape) (i : Nat) :
    List Value → Checked (List Setting)
  | [] => .ok []
  | item :: rest =>
      Checked.both (· :: ·) (decode (path.item i) shape item)
        (decodeItems path shape (i + 1) rest)

def decodeEntries (path : Bytes) (shape : Shape) :
    List (Bytes × Value) → Checked (List (Bytes × Setting))
  | [] => .ok []
  | (key, value) :: rest =>
      Checked.both (fun setting entries => (key, setting) :: entries)
        (decode (path.entry key) shape value) (decodeEntries path shape rest)

/-- A table from a list of objects laid one over the other, up to the first that
does not fit. -/
def decodeLayers (path : Bytes) (shape : Shape)
    (entries : Option (List (Bytes × Setting))) (i : Nat) :
    List Value → Checked (Option (List (Bytes × Setting)))
  | [] => .ok entries
  | item :: rest => do
      let entries ← decodeLayer (path.item i) shape entries item
      decodeLayers path shape entries (i + 1) rest

def decodeLayer (path : Bytes) (shape : Shape)
    (entries : Option (List (Bytes × Setting))) :
    Value → Checked (Option (List (Bytes × Setting)))
  | .null => .ok entries
  | .object fields =>
      (decodeEntries path shape fields).map fun newer =>
        some (overlay (entries.getD []) newer)
  | .array [] => .ok (some (entries.getD []))
  | .array (item :: rest) => do
      let entries ← decodeLayer (path.item 0) shape entries item
      decodeLayers path shape entries 1 rest
  | value => .error [.notAnObject path value]

def decodeFields (path : Bytes) (record : Record) (keys : List Bytes) :
    List (Bytes × Value) → Checked (List (Bytes × Setting))
  | [] => .ok []
  | (key, value) :: rest =>
      match fieldOf? record keys key with
      | none => decodeFields path record keys rest
      | some field =>
          Checked.both (fun setting settings =>
            (field.name, setting) :: settings)
            (decode (path.field field.name) field.shape value)
              (decodeFields path record keys rest)

end

end Decode

end ModelGateway
