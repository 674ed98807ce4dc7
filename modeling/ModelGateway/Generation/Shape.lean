import ModelGateway.Json.Basic

namespace ModelGateway

inductive Record where
  | generation
  | httpOptions
  | content
  | schema
  | routing
  | modelSelectionConfig
  | safetySetting
  | tool
  | toolConfig
  | speechConfig
  | thinkingConfig
  | imageConfig
  | part
  | automaticRouting
  | manualRouting
  | functionDeclaration
  | retrieval
  | googleSearchRetrieval
  | computerUse
  | fileSearch
  | codeExecution
  | enterpriseWebSearch
  | googleMaps
  | googleSearch
  | urlContext
  | functionCallingConfig
  | retrievalConfig
  | voiceConfig
  | multiSpeakerVoiceConfig
  | partMediaResolution
  | codeExecutionResult
  | executableCode
  | fileData
  | functionCall
  | functionResponse
  | blob
  | videoMetadata
  | externalApi
  | vertexAiSearch
  | ragStore
  | dynamicRetrievalConfig
  | authConfig
  | interval
  | latLng
  | replicatedVoiceConfig
  | prebuiltVoiceConfig
  | speakerVoiceConfig
  | partialArg
  | functionResponsePart
  | apiAuth
  | elasticSearch
  | simpleSearch
  | dataStoreSpec
  | ragResource
  | ragRetrieval
  | apiKeyConfig
  | serviceAccountAuth
  | basicAuth
  | oauth
  | oidc
  | functionResponseBlob
  | functionResponseFileData
  | apiAuthKey
  | ragFilter
  | ragHybridSearch
  | ragRanking
  | ragLlmRanker
  | ragRankService
  | instant
  deriving DecidableEq, Repr

inductive Shape where
  | bool
  -- A text, or a choice among named texts; the name of its type shows in
  -- messages.
  | text (typeName : Bytes)
  | integer (typeName : Bytes) (isSigned : Bool) (bits : Nat)
  | float (typeName : Bytes) (format : Format)
  | any
  | callback
  | optional (of : Shape)
  | list (of : Shape)
  | table (of : Shape)
  | record (of : Record)
  deriving DecidableEq, Repr

structure Field where
  name : Bytes
  shape : Shape
  deriving DecidableEq, Repr

namespace Shape

def string : Shape := .text "string"

def int32 : Shape := .integer "int32" true 32

def int64 : Shape := .integer "int64" true 64

def duration : Shape := .integer "time.Duration" true 64

def byte : Shape := .integer "uint8" false 8

def float32 : Shape := .float "float32" .single

def float64 : Shape := .float "float64" .double

def typeName : Shape → Bytes
  | .bool => "bool"
  | .text name => name
  | .integer name _ _ => name
  | .float name _ => name
  | .callback =>
      "func(map[string]interface \x7b\x7d) map[string]interface \x7b\x7d"
  | _ => []

end Shape

/-- What an option holds. A record lists the fields that are not empty, in the
order of their declaration. -/
inductive Setting where
  -- No value: an option, list or table that is not there.
  | absent
  | bool (b : Bool)
  | text (s : Bytes)
  | integer (n : Int)
  | float (format : Format) (x : Floating)
  | free (value : Value)
  -- An option that is there, be its value empty or not.
  | present (setting : Setting)
  | bytes (data : Bytes)
  | list (items : List Setting)
  | table (entries : List (Bytes × Setting))
  | record (fields : List (Bytes × Setting))
  deriving Inhabited

def Shape.empty : Shape → Setting
  | .bool => .bool false
  | .text _ => .text []
  | .integer _ _ _ => .integer 0
  | .float _ f => .float f (.finite ⟨false, 0, f.least⟩)
  | .record _ => .record []
  | _ => .absent

def Setting.isEmpty : Setting → Bool
  | .absent => true
  | .bool b => !b
  | .text s => List.isEmpty s
  | .integer n => n == 0
  | .float _ (.finite x) => x.isZero && !x.neg
  | .record fields => List.isEmpty fields
  | _ => false

end ModelGateway
