import ModelGateway.Event.Metrics
import ModelGateway.Files.Serve
import ModelGateway.Gateway.Client
import ModelGateway.Gateway.Route
import ModelGateway.Http.Form
import ModelGateway.Json.Reader
import ModelGateway.Service.Analysis
import ModelGateway.Service.Prompting
import ModelGateway.Settings.Basic

namespace ModelGateway

structure Gateway where
  settings : Settings
  analysis : AnalysisService
  prompts : PromptService
  files : FileTree

structure Arrival where
  peer : Bytes
  freshId : Bytes
  boundary : Bytes
  now : Instant
  -- How long the answer takes, in nanoseconds.
  elapsed : Int := 0

structure Exchange where
  response : Response
  trace : Trace := {}

namespace Gateway

def version : Bytes := "1.0.0"

def reply (status : Nat) (d : Document) : Response where
  status
  headers := [("Content-Type", "application/json; charset=utf-8")]
  body := Document.write d

def failed (failure : Failure) : Response :=
  reply failure.status
    (.object [Document.textField "error" failure.publicMessage])

def bodyTooLarge (cause : Bytes) : Failure :=
  .payloadTooLarge "request body too large" (some (.plain cause))

def notObject (cause : Option Failure) : Failure :=
  .validation "invalid JSON body" cause

/-- The object that the body of a request starts with. -/
def bodyObject (limit : Int) (r : Request) : Except Failure (Fields Bytes) :=
  let body := Incoming.limited limit r.body
  match Document.readFirst body.cut body.bytes with
  | .error .unfinished => .error (bodyTooLarge "http: request body too large")
  | .error .malformed =>
      .error (notObject (some (.plain "the body is not JSON")))
  | .ok .null => .error (notObject none)
  | .ok (.object fields) => .ok fields
  | .ok _ => .error (notObject (some (.plain "the body is not an object")))

/-- Answers a prompt. The configuration is checked before the body is looked
at. -/
def servePrompt (g : Gateway) (v : Visit) (r : Request) : Step Response := do
  let _ ← g.prompts.check v
  match bodyObject g.settings.maxBody r with
  | .error failure => Step.fail failure
  | .ok fields =>
      match PromptRequest.decode fields with
      | .error fault => Step.fail (.provider (some (.plain fault.message)))
      | .ok request => do
          let text ← g.prompts.generate v request
          return reply 200 (PromptService.document text)

def noImageRecord (v : Visit) (fault : FormFault) : Log.Record :=
  ⟨.debug, "No image in form",
    [Document.textField "error" fault.message,
      Document.textField "request_id" v.requestId]⟩

/-- What a request wants to have analyzed; a form that cannot be read holds no
image. -/
def analysisRequest (g : Gateway) (v : Visit) (r : Request) :
    Step AnalysisRequest :=
  let form := Form.ofRequest g.settings.maxBody r
  match form, form.bind (Form.upload "image") with
  | .ok form, .ok upload =>
      Step.done
        { image := some upload.data
          filename := upload.filename
          prompt := form.value? "prompt" }
  | _, .error fault =>
      if fault.isCut then Step.fail (bodyTooLarge fault.message)
      else do
        Step.write (noImageRecord v fault)
        return {}
  | .error _, .ok _ => Step.done {}

def serveAnalysis (g : Gateway) (v : Visit) (r : Request) : Step Response := do
  let _ ← g.analysis.check v
  let request ← g.analysisRequest v r
  let analysis ← g.analysis.analyze v request
  return reply 200 (AnalysisService.document analysis)

open Document in
def healthDocument (g : Gateway) (now : Instant) (metrics : Metrics) :
    Document :=
  .object <|
    [textField "status" "available", textField "version" version,
      textField "time" { now with nanosecond := 0 }.text,
      boolField "ai_configured" g.settings.aiConfigured] ++
    if metrics.isEmpty then [] else [(utf8 "metrics", metrics.document)]

def notFound (cause : Option Failure) : Step Response :=
  Step.fail (.notFound "not found" cause)

def serveEntry (g : Gateway) (a : Arrival) (r : Request) : Step Response :=
  let path := Path.join g.settings.templateDir Serve.indexName
  match g.files.find (Path.names path) with
  | .error fault =>
      notFound
        (some (.plain (utf8 "stat " ++ path ++ utf8 ": " ++ fault.message)))
  | .ok (.directory _) => notFound none
  | .ok (.file file) =>
      Step.done (Serve.document r a.boundary Serve.indexName file)

/-- Answers a request without a route: pages of the application start from the
entry, anything else is not found. -/
def serveRest (g : Gateway) (a : Arrival) (r : Request) : Step Response :=
  let path := r.target.path
  if !r.isRead || Bytes.startsWith "/api/" path ||
      Bytes.startsWith "/static/" path then
    notFound none
  else g.serveEntry a r

/-- Serves a file below the directory of assets. A path that spells the
directory with escapes leads nowhere. -/
def serveAsset (g : Gateway) (a : Arrival) (r : Request)
    (path : Bytes) : Step Response :=
  match Serve.below? g.files g.settings.staticDir path r a.boundary with
  | none => notFound none
  | some response =>
      Step.done <|
        if Bytes.startsWith Route.assets r.target.sent then response
        else Response.plain 404 "404 page not found"

def serve (g : Gateway) (metrics : Metrics) (a : Arrival)
    (v : Visit) (r : Request) : Step Response :=
  match Route.find? r.method r.target.path with
  | some .health => Step.done (reply 200 (g.healthDocument a.now metrics))
  | some .analysis => g.serveAnalysis v r
  | some .prompt => g.servePrompt v r
  | some (.asset path) => g.serveAsset a r path
  | some .entry => g.serveEntry a r
  | none => g.serveRest a r

open Document in
def failureRecord (a : Arrival) (v : Visit) (r : Request)
    (failure : Failure) : Log.Record :=
  ⟨.error, "Request failed",
    [textField "error" failure.text, textField "request_id" v.requestId,
      natField "status_code" failure.status, textField "path" r.target.path,
      textField "method" r.method, textField "ip" (Client.address a.peer r)]⟩

open Document in
def accessRecord (a : Arrival) (v : Visit) (r : Request)
    (status : Nat) : Log.Record :=
  ⟨if 500 ≤ status then .warning else .info, "Request completed",
    [textField "request_id" v.requestId, textField "method" r.method,
      textField "path" r.target.path, natField "status_code" status,
      intField "duration_ms" (Int.tdiv a.elapsed 1000000),
      textField "ip" (Client.address a.peer r),
      textField "user_agent" (r.header "User-Agent")]⟩

/-- The response that a step ends in, with the record of its failure. A
breakdown tells the client nothing. -/
def conclude (a : Arrival) (v : Visit) (r : Request) :
    Outcome Response → Response × List Log.Record
  | .value response => (response, [])
  | .failure failure => (failed failure, [failureRecord a v r failure])
  | .crash _ => ({ status := 500 }, [])

def handle (g : Gateway) (metrics : Metrics) (a : Arrival)
    (r : Request) : Exchange :=
  let v : Visit :=
    { requestId := r.identity a.freshId, now := a.now, elapsed := a.elapsed }
  let step := g.serve metrics a v r
  let (response, failures) := conclude a v r step.outcome
  { response :=
      { response with
        headers := ("X-Request-Id", v.requestId) :: response.headers }
    trace :=
      step.trace ++
        { records := failures ++ [accessRecord a v r response.status] } }

/-- Answers a request, given the counters so far. -/
def answer (g : Gateway) (metrics : Metrics) (a : Arrival)
    (r : Request) : Exchange :=
  match Route.nearby? r.method r.target.path with
  | some path => { response := Redirect.response r path }
  | none => g.handle metrics a r

end Gateway

end ModelGateway
