import ModelGateway.Json.Writer

/-!
Failures: what the client is told, what the log keeps, and the status of the
answer. A failure may be wrapped, joined with others, or stand as the cause of
another one; its readers agree on the first categorised failure, outermost
first.
-/

namespace ModelGateway

inductive Category where
  | validation
  | payloadTooLarge
  | config
  | provider
  | notFound
  | internal
  deriving DecidableEq, Repr

namespace Category

def all : List Category :=
  [.config, .internal, .notFound, .payloadTooLarge, .provider, .validation]

def name : Category → Bytes
  | .validation => "validation"
  | .payloadTooLarge => "payload_too_large"
  | .config => "config"
  | .provider => "provider"
  | .notFound => "not_found"
  | .internal => "internal"

def status : Category → Nat
  | .validation => 400
  | .payloadTooLarge => 413
  | .notFound => 404
  | .config | .provider | .internal => 500

end Category

inductive Failure where
  -- A failure of the gateway: the client sees the message, the cause is kept
  -- for the log.
  | categorized (category : Category) (message : Bytes) (cause : Option Failure)
  | plain (message : Bytes)
  -- A text around a failure, or around none where one was meant.
  | around (text : Bytes) (cause : Option Failure)
  | aroundAll (text : Bytes) (causes : List Failure)
  | joined (causes : List Failure)

namespace Failure

mutual

def text : Failure → Bytes
  | .categorized category message cause =>
      let head := category.name ++ utf8 ": " ++ message
      match textOfCause cause with
      | none => head
      | some reason =>
          if reason == message then head
          else head ++ utf8 " (caused by: " ++ reason ++ utf8 ")"
  | .plain message => message
  | .around text _ => text
  | .aroundAll text _ => text
  | .joined causes => Bytes.join "\n" (texts causes)

private def textOfCause : Option Failure → Option Bytes
  | none => none
  | some failure => some failure.text

def texts : List Failure → List Bytes
  | [] => []
  | failure :: rest => failure.text :: texts rest

end

mutual

/-- The first categorised failure, outermost first and depth first, with its
message. -/
def first? : Failure → Option (Category × Bytes)
  | .categorized category message _ => some (category, message)
  | .plain _ => none
  | .around _ cause => firstOfCause? cause
  | .aroundAll _ causes => firstOf? causes
  | .joined causes => firstOf? causes

def firstOfCause? : Option Failure → Option (Category × Bytes)
  | none => none
  | some failure => failure.first?

def firstOf? : List Failure → Option (Category × Bytes)
  | [] => none
  | failure :: rest => failure.first?.or (firstOf? rest)

end

def category? (failure : Failure) : Option Category :=
  failure.first?.map Prod.fst

def isOf (failure : Failure) (category : Category) : Bool :=
  failure.category? == some category

def status (failure : Failure) : Nat :=
  match failure.category? with
  | some category => category.status
  | none => 500

def publicMessage (failure : Failure) : Bytes :=
  match failure.first? with
  | some (_, message) => message
  | none => failure.text

/-- The failure directly inside this one, if there is a single one. -/
def inner? : Failure → Option Failure
  | .categorized _ _ cause => cause
  | .around _ cause => cause
  | _ => none

def validation (message : Bytes) (cause : Option Failure) : Failure :=
  .categorized .validation message cause

def payloadTooLarge (message : Bytes) (cause : Option Failure) : Failure :=
  .categorized .payloadTooLarge message cause

def config : Failure :=
  .categorized .config "API Key not configured" none

def provider (cause : Option Failure) : Failure :=
  .categorized .provider ((cause.map text).getD "provider error") cause

def notFound (message : Bytes) (cause : Option Failure) : Failure :=
  .categorized .notFound message cause

def internal (message : Bytes) (cause : Option Failure) : Failure :=
  .categorized .internal message cause

def wrapped (message : Bytes) (cause : Option Failure) : Failure :=
  .around (message ++ utf8 ": " ++ (cause.map text).getD "%!w(<nil>)") cause

def join? (causes : List Failure) : Option Failure :=
  if causes.isEmpty then none else some (.joined causes)

def document? : Failure → Option Document
  | .categorized category message _ =>
      some (.object [
        ("type", .string category.name),
        ("message", .string message),
        ("status_code", Document.ofNat category.status)])
  | _ => none

end Failure

end ModelGateway
