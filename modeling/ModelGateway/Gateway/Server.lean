import ModelGateway.Event.Publisher
import ModelGateway.Gateway.Basic

/-!
A gateway that runs: events go to its listeners, and its counters grow from
request to request.
-/

namespace ModelGateway

inductive Listener where
  | counters
  | log
  deriving DecidableEq, Repr

structure Server where
  gateway : Gateway
  listeners : Publisher Listener := ⟨[.counters]⟩
  showsMetrics : Bool := true
  metrics : Metrics := []

inductive AssemblyFault where
  | noSettings
  deriving DecidableEq, Repr

def AssemblyFault.message : AssemblyFault → Bytes
  | .noSettings => "config is required"

namespace Server

def hear (listeners : Publisher Listener) (now : Instant) (metrics : Metrics)
    (event : Event) :
    Metrics × List Log.Record :=
  (listeners.notify now event).foldl
    (fun (metrics, records) delivery =>
      match delivery.subscriber with
      | .counters => (metrics.observe delivery.event, records)
      | .log => (metrics, records ++ [delivery.event.logRecord]))
    (metrics, [])

def hearAll (listeners : Publisher Listener) (now : Instant)
    (metrics : Metrics) :
    List Event → Metrics × List Log.Record
  | [] => (metrics, [])
  | event :: rest =>
      let (metrics, records) := hear listeners now metrics event
      let (metrics, more) := hearAll listeners now metrics rest
      (metrics, records ++ more)

/-- Answers a request; the records of the listeners come with those of the
gateway. -/
def step (s : Server) (a : Arrival) (r : Request) : Server × Exchange :=
  let exchange :=
    s.gateway.answer (if s.showsMetrics then s.metrics else []) a r
  let (metrics, heard) :=
    hearAll s.listeners a.now s.metrics exchange.trace.events
  ({ s with metrics },
    { exchange with
      trace :=
        { exchange.trace with records := exchange.trace.records ++ heard } })

def gatewayOf (settings : Settings) (generator : Option Generator)
    (configured : Bool) (files : FileTree) :
    Gateway :=
  let access : ModelAccess := { generator, configured }
  { settings
    files
    analysis :=
      { access
        model := settings.analysisModel
        language := .ofLocale settings.locale }
    prompts := { access, defaultModel := settings.promptModel } }

private def noKeyRecord : Log.Record :=
  ⟨.warning,
    "No GEMINI_API_KEY or GOOGLE_API_KEY set; AI routes will return a configuration error",
    []⟩

/-- Puts a server together, with what it logs at the start. `connect` makes a
generator of a key. Without a key there is none, and the routes that need it
answer with a failure. -/
def assemble (settings : Option Settings)
    (connect : Bytes → Generator)
    (files : FileTree) :
    Except AssemblyFault (Server × List Log.Record) :=
  match settings with
  | none => .error .noSettings
  | some settings =>
      let generator := if settings.aiConfigured then
        some (connect settings.apiKey) else none
      let server : Server :=
        { gateway := gatewayOf settings generator generator.isSome files
          listeners := ⟨[.log, .counters]⟩ }
      .ok (server, if generator.isSome then [] else [noKeyRecord])

end Server

end ModelGateway
