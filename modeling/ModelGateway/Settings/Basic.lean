import ModelGateway.Number.Numeral
import ModelGateway.Settings.Definitions
import ModelGateway.Time.Duration

namespace ModelGateway

structure Settings where
  host : Bytes := []
  port : Bytes := []
  readTimeout : Duration := 0
  maxBody : Int := 0
  geminiKey : Bytes := []
  googleKey : Bytes := []
  analysisModel : Bytes := []
  promptModel : Bytes := []
  locale : Bytes := []
  templateDir : Bytes := []
  staticDir : Bytes := []
  logLevel : Bytes := []
  deriving DecidableEq, Repr

inductive UnreadableSetting where
  | readTimeout (fault : DurationFault)
  | maxBody (text : Bytes) (fault : NumeralFault)

inductive InvalidSetting where
  | port (text : Bytes)
  | maxBody (n : Int)
  | readTimeout (d : Duration)
  | models

inductive SettingsFault where
  | unreadable (all : List UnreadableSetting)
  | invalid (setting : InvalidSetting)

def UnreadableSetting.message : UnreadableSetting → Bytes
  | .readTimeout fault =>
      utf8
        "parse error on field \"ReadTimeout\" of type \"time.Duration\": unable to parse duration: " ++
        fault.message
  | .maxBody text fault =>
      utf8 "parse error on field \"MaxRequestBodySize\" of type \"int64\": " ++
        fault.message "ParseInt" text

def InvalidSetting.message : InvalidSetting → Bytes
  | .port text => utf8 "invalid PORT: " ++ Text.quote text
  | .maxBody n =>
      utf8 "MAX_REQUEST_BODY_SIZE must be > 0 (got " ++
        Bytes.ofInt n ++ utf8 ")"
  | .readTimeout d =>
      utf8 "READ_TIMEOUT must be > 0 (got " ++ Duration.text d ++ utf8 ")"
  | .models => "ANALYSIS_MODEL and PROMPT_MODEL must not be empty"

def SettingsFault.message : SettingsFault → Bytes
  | .unreadable all =>
      utf8 "failed to parse environment: env: " ++
        Bytes.join "; " (all.map UnreadableSetting.message)
  | .invalid setting => setting.message

namespace Settings

private def port? (text : Bytes) : Option Nat :=
  match Numeral.decimalInteger 64 text.trim with
  | .ok n => if 1 ≤ n && n ≤ 65535 then some n.toNat else none
  | .error _ => none

/-- The first setting that is out of its range. -/
def invalid? (s : Settings) : Option InvalidSetting :=
  if (port? s.port).isNone then some (.port s.port)
  else if s.maxBody ≤ 0 then some (.maxBody s.maxBody)
  else if s.readTimeout ≤ 0 then some (.readTimeout s.readTimeout)
  else if s.analysisModel.trim.isEmpty || s.promptModel.trim.isEmpty then
    some .models
  else none

def address (s : Settings) : Bytes :=
  let host := s.host.trim
  (if host.contains 0x3a then utf8 "[" ++ host ++ utf8 "]" else host) ++
    utf8 ":" ++ s.port.trim

def apiKey (s : Settings) : Bytes :=
  let key := s.geminiKey.trim
  if key.isEmpty then s.googleKey.trim else key

def aiConfigured (s : Settings) : Bool :=
  !s.apiKey.isEmpty

/-- The environment with the variables that a file defines for names that it
does not have itself. -/
def withFile (environment : Variables) (file : Option Bytes) : Variables :=
  match file.bind Definitions.read? with
  | none => environment
  | some defined =>
      defined.filter (fun (name, value) =>
        (environment.get? name).isNone && !name.isEmpty && !value.contains 0 &&
          !name.contains 0) ++ environment

def textOf (environment : Variables) (name : Bytes) (default : Bytes) : Bytes :=
  (environment.get? name).getD default

private def readTimeoutOf (text : Bytes) : Except UnreadableSetting Duration :=
  if text.isEmpty then .ok 0
  else
    match Duration.read text with
    | .ok d => .ok d
    | .error fault => .error (.readTimeout fault)

private def maxBodyOf (text : Bytes) : Except UnreadableSetting Int :=
  if text.isEmpty then .ok 0
  else
    match Numeral.decimalInteger 64 text with
    | .ok n => .ok n
    | .error fault => .error (.maxBody text fault)

def parse (environment : Variables) :
    Except (List UnreadableSetting) Settings :=
  let text := fun (name default : String) => textOf environment name default
  let settings := fun readTimeout maxBody : Int =>
    { host := text "HOST" "0.0.0.0"
      port := text "PORT" "7860"
      readTimeout
      maxBody
      geminiKey := text "GEMINI_API_KEY" ""
      googleKey := text "GOOGLE_API_KEY" ""
      analysisModel := text "ANALYSIS_MODEL" "gemini-1.5-flash"
      promptModel := text "PROMPT_MODEL" "gemini-2.0-flash"
      locale := text "LOCALE" "en"
      templateDir := text "TEMPLATE_DIR" "templates"
      staticDir := text "STATIC_DIR" "static"
      logLevel := text "LOG_LEVEL" "info" : Settings }
  match readTimeoutOf (text "READ_TIMEOUT" "30s"),
    maxBodyOf (text "MAX_REQUEST_BODY_SIZE" "20971520") with
  | .ok readTimeout, .ok maxBody => .ok (settings readTimeout maxBody)
  | .error e, .ok _ => .error [e]
  | .ok _, .error e => .error [e]
  | .error e, .error e' => .error [e, e']

def load (environment : Variables) (file : Option Bytes) :
    Except SettingsFault Settings :=
  match parse (withFile environment file) with
  | .error all => .error (.unreadable all)
  | .ok settings =>
      match settings.invalid? with
      | some setting => .error (.invalid setting)
      | none => .ok settings

end Settings

end ModelGateway
