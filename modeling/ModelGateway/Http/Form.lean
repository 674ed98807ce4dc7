import ModelGateway.Http.MediaType
import ModelGateway.Http.Multipart
import ModelGateway.Http.Path
import ModelGateway.Http.QuotedPrintable

namespace ModelGateway

inductive FormFault where
  | notMultipart
  | noBoundary
  | multipart (fault : MultipartFault)
  | data (fault : QuotedPrintableFault)
  | query (fault : QueryFault)
  | noFile
  deriving DecidableEq, Repr

namespace FormFault

def message : FormFault → Bytes
  | .notMultipart => "request Content-Type isn't multipart/form-data"
  | .noBoundary => "no multipart boundary param in Content-Type"
  | .multipart fault => fault.message
  | .data fault => fault.message
  | .query fault => fault.message
  | .noFile => "http: no such file"

def isCut : FormFault → Bool
  | .multipart fault => fault.isCut
  | _ => false

end FormFault

structure Upload where
  filename : Bytes
  data : Bytes
  deriving DecidableEq, Repr

structure Form where
  values : List (Bytes × Bytes) := []
  files : List (Bytes × Upload) := []
  deriving DecidableEq, Repr

namespace Form

def value? (name : Bytes) (f : Form) : Option Bytes :=
  f.values.lookup name

def file? (name : Bytes) (f : Form) : Option Upload :=
  f.files.lookup name

def disposition? (headers : Headers) : Option MediaType :=
  (MediaType.read? (headers.get "Content-Disposition")).filter
    (·.name == utf8 "form-data")

/-- The name of a part; a part without one does not matter. -/
def nameOf? (headers : Headers) : Option Bytes :=
  ((disposition? headers).bind (MediaType.get? "name")).filter (!·.isEmpty)

def filenameOf? (headers : Headers) : Option Bytes :=
  (((disposition? headers).bind (MediaType.get? "filename")).filter
    (!·.isEmpty)).map Path.base

structure Label where
  name : Bytes
  filename : Option Bytes
  deriving DecidableEq, Repr

def label? (headers : Headers) : Option Label :=
  (nameOf? headers).map fun name => ⟨name, filenameOf? headers⟩

def isPrintable (headers : Headers) : Bool :=
  Bytes.lower (headers.get "Content-Transfer-Encoding") ==
    utf8 "quoted-printable"

/-- The header of a part without the field that has done its work. -/
def remaining (headers : Headers) : Headers :=
  if isPrintable headers then
    headers.filter fun (name, _) => name != utf8 "Content-Transfer-Encoding"
  else headers

/-- The data of a part before the first fault, and the fault. -/
def content (cut : Bool) (headers : Headers) (d : Multipart.Delivery) :
    Bytes × Option FormFault :=
  let printed : QuotedPrintable.Printed :=
    if isPrintable headers then QuotedPrintable.decode d.rest.isSome d.data
    else { data := d.data }
  let ending : Option FormFault :=
    if d.rest.isSome then none
    else some (.multipart (if cut then .cutOff else .unfinished))
  (printed.data, (printed.fault.map .data).or ending)

def tooLarge : FormFault := .multipart .tooLarge

def nameCost (name : Bytes) : Nat := name.length + 200

def fileCost (headers : Headers) : Nat :=
  400 + (remaining headers).weight + 200 + 100

def takeValue (a : Multipart.Allowance) (name data : Bytes)
    (fault? : Option FormFault) :
    Except FormFault (Form × Multipart.Allowance) :=
  let room := a.memory - nameCost name - data.length
  if room < 0 then .error tooLarge
  else
    match fault? with
    | some fault => .error fault
    | none => .ok ({ values := [(name, data)] }, { a with memory := room })

def takeFile (a : Multipart.Allowance) (headers : Headers)
    (name filename data : Bytes) (fault? : Option FormFault) :
    Except FormFault (Form × Multipart.Allowance) :=
  let room := a.memory - nameCost name - fileCost headers
  if room < 0 then .error tooLarge
  else
    match fault? with
    | some fault => .error fault
    | none =>
        let kept := if data.length ≤ a.files then data.length else 0
        .ok ({ files := [(name, ⟨filename, data⟩)] },
          { fields := a.fields - (remaining headers).length
            memory := room - kept
            files := a.files - kept })

def takePart (cut : Bool) (a : Multipart.Allowance) (headers : Headers)
    (label : Label) (d : Multipart.Delivery) :
    Except FormFault (Form × Multipart.Allowance) :=
  let (data, fault?) := content cut headers d
  match label.filename with
  | none => takeValue a label.name data fault?
  | some filename => takeFile a headers label.name filename data fault?

instance : Append Form :=
  ⟨fun f g => ⟨f.values ++ g.values, f.files ++ g.files⟩⟩

/-- The form that the parts from here on make up, at most `left` of them. A part
without a name does not matter and may be broken off. -/
def ofParts (boundary : Bytes) (cut : Bool) :
    (left : Nat) → Multipart.Allowance → Multipart.Seeking → Bytes →
      Except FormFault Form
  | left, a, state, s =>
      match Multipart.seek boundary cut state s with
      | .error fault => .error (.multipart fault)
      | .ok none => .ok {}
      | .ok (some (bare, s)) =>
          match Multipart.header a s with
          | .missing => if cut then .error (.multipart .cutOff) else .ok {}
          | .broken fault => .error (.multipart fault)
          | .complete headers s =>
              match left with
              | 0 => .error tooLarge
              | left + 1 =>
                  let d := Multipart.deliver boundary bare s
                  match label? headers, d.rest with
                  | none, none => .error (.multipart (.noDelimiter cut))
                  | none, some rest =>
                      ofParts boundary cut left a ⟨true, bare, false⟩ rest
                  | some label, rest =>
                      match takePart cut a headers label d with
                      | .error fault => .error fault
                      | .ok (taken, a) => do
                          let others ← ofParts boundary cut left a
                            ⟨true, bare, false⟩ (rest.getD [])
                          return taken ++ others

def ofIncoming (boundary : Bytes) (body : Incoming) : Except FormFault Form :=
  if boundary.isEmpty then .error (.multipart .emptyBoundary)
  else ofParts boundary body.cut Multipart.maxParts {}
    ⟨false, false, false⟩ body.bytes

def boundary (contentType : Bytes) : Except FormFault Bytes :=
  match (MediaType.read? contentType).filter
    (·.name == utf8 "multipart/form-data") with
  | none => .error .notMultipart
  | some type =>
      match type.get? "boundary" with
      | none => .error .noBoundary
      | some boundary => .ok boundary

/-- The form of a request, of whose body at most `limit` bytes may be read. The
query of the request has to be sound as well. -/
def ofRequest (limit : Int) (r : Request) : Except FormFault Form := do
  let boundary ← boundary (r.header "Content-Type")
  let form ← ofIncoming boundary (.limited limit r.body)
  match QueryFault.ofQuery? (r.target.query.getD []) with
  | some fault => .error (.query fault)
  | none => return form

def upload (name : Bytes) (form : Form) : Except FormFault Upload :=
  match form.file? name with
  | some upload => .ok upload
  | none => .error .noFile

end Form

end ModelGateway
