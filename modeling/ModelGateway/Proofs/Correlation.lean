import ModelGateway.Proofs.Legibility

/-!
The name of a request. The response, the events and the log show one and the
same name, and the log has one record of each request that is answered here.
-/

namespace ModelGateway

theorem Fields.get?_of_mem {fields : Fields Bytes} {name : Bytes}
    {value : Document} (distinct : (keys fields).Nodup)
    (member : (name, value) ∈ fields) :
    get? name fields = some value := by
  induction fields with
  | nil => cases member
  | cons field rest ih =>
      obtain ⟨absent, distinct⟩ := List.nodup_cons.1 distinct
      cases member with
      | head => simp [get?]
      | tail _ member =>
          have other : field.1 ≠ name := by
            intro equal
            exact absent (equal ▸ List.mem_map_of_mem member)
          rw [get?, beq_eq_false_iff_ne.2 other]
          exact ih distinct member

namespace Log.Record

/-- The record bears a name, and its line shows it as far as its bytes are
characters. -/
structure Bears (record : Record) (name : Bytes) : Prop where
  field : Fields.get? "request_id" record.fields = some (.string name)
  shown : ∀ time, ∃ fields, Document.read? (record.line time) =
    some (.object fields) ∧
    Fields.get? "request_id" fields = some (.string (Utf8.sanitize name)) ∧
    (Utf8.isValid name = true → Fields.get? "request_id" fields =
      some (.string name))

theorem IsPlain.bears {record : Record} {name : Bytes}
    (plain : record.IsPlain)
    (member : Document.textField "request_id" name ∈ record.fields) :
    record.Bears name := by
  constructor
  · exact Fields.get?_of_mem plain.names.1 member
  · intro time
    obtain ⟨fields, read, distinct, perm⟩ := (plain.isLegible time).read
    have found : Fields.get? "request_id" fields =
        some (.string (Utf8.sanitize name)) := by
      apply Fields.get?_of_mem distinct
      apply perm.mem_iff.2
      exact List.mem_map_of_mem (List.mem_append_left _ member)
    refine ⟨fields, read, found, ?_⟩
    intro valid
    rwa [Utf8.sanitize_of_isValid valid] at found

end Log.Record

theorem Request.identity_eq (r : Request) (fresh : Bytes) :
    r.identity fresh =
      if 1 ≤ (r.header "X-Request-Id").trim.length ∧
        (r.header "X-Request-Id").trim.length ≤ 128
        then (r.header "X-Request-Id").trim else fresh := by
  unfold identity
  generalize (r.header "X-Request-Id").trim = own
  have refused : (own.isEmpty || 128 < own.length) = true ↔
      ¬ (1 ≤ own.length ∧ own.length ≤ 128) := by
    rw [Bool.or_eq_true, List.isEmpty_iff, ← List.length_eq_zero_iff,
      decide_eq_true_eq]
    omega
  by_cases brought : 1 ≤ own.length ∧ own.length ≤ 128
  · rw [if_pos brought, if_neg fun drop => refused.1 drop brought]
  · rw [if_neg brought, if_pos (refused.2 brought)]

namespace Response

def fieldNames : List Bytes :=
  ["Content-Type", "Content-Length", "Content-Range", "Accept-Ranges",
    "Last-Modified", "Location", "X-Content-Type-Options"]

def IsNameless (response : Response) : Prop :=
  ∀ field ∈ response.headers, field.1 ∈ fieldNames

private theorem not_mem_fieldNames : utf8 "X-Request-Id" ∉ fieldNames := by
  decide +kernel

theorem isNameless_plain (status : Nat) (message : Bytes) :
    (plain status message).IsNameless := by
  simp [IsNameless, plain, fieldNames]

private theorem IsNameless.filter_named {response : Response}
    (nameless : response.IsNameless)
    (name : Bytes) :
    (response.named name).headers.filter (·.1 == utf8 "X-Request-Id") =
      [(utf8 "X-Request-Id", name)] := by
  have none_other :
      response.headers.filter (·.1 == utf8 "X-Request-Id") = [] := by
    rw [List.filter_eq_nil_iff]
    intro field member equal
    have known := nameless field member
    rw [eq_of_beq equal] at known
    exact not_mem_fieldNames known
  change ((utf8 "X-Request-Id", name) :: response.headers).filter _ = _
  rw [List.filter_cons, none_other, if_pos BEq.rfl]

end Response

namespace Serve

open Response

variable {r : Request} {boundary name : Bytes} {f : File}

theorem isNameless_content {status : Nat} {headers : Headers} {body : Bytes}
    (known : ∀ field ∈ headers, field.1 ∈ fieldNames) :
    (content r status headers body).IsNameless := by
  apply List.forall_mem_append.2 ⟨known, ?_⟩
  simp [fieldNames]

theorem isNameless_moved (place : Bytes) : (moved r place).IsNameless := by
  simp [IsNameless, moved, fieldNames]

private theorem isNameless_hidden (modified : Instant) :
    (hidden r modified).IsNameless := by
  unfold hidden
  split
  · nofun
  · simp [IsNameless, lastModified, fieldNames]

theorem isNameless_file : (file r boundary name f).IsNameless := by
  have whole : (content r 200
      [lastModified f.modified,
        ("Content-Type", ContentType.ofFile (Path.extension name) f.content)]
      f.content).IsNameless := by
    apply isNameless_content
    simp [lastModified, fieldNames]
  unfold file
  simp only
  split
  · simp [IsNameless, lastModified, fieldNames]
  · split
    · simp [IsNameless, lastModified, fieldNames]
    · split
      next fault read =>
        split
        · exact whole
        · split
          · refine List.forall_mem_cons.2
              ⟨?_, isNameless_plain 416 fault.message⟩
            simp [fieldNames]
          · exact isNameless_plain 416 fault.message
      next ranges read =>
        split
        · exact whole
        · split
          · exact whole
          · apply isNameless_content
            simp [lastModified, fieldNames]
          · apply isNameless_content
            simp [lastModified, fieldNames]

private theorem isNameless_document :
    (document r boundary name f).IsNameless := by
  unfold document
  split
  · exact isNameless_plain _ _
  · split
    · exact isNameless_moved _
    · exact isNameless_file

private theorem isNameless_below {t : FileTree} {directory path : Bytes}
    {response : Response}
    (found : below? t directory path r boundary = some response) :
    response.IsNameless := by
  unfold below? at found
  split at found
  next => cases found
  next node _ =>
    cases found
    split
    · exact isNameless_moved _
    · split
      next f =>
        split
        · exact isNameless_file
        · split
          · exact isNameless_plain _ _
          · exact isNameless_moved _
      next modified =>
        split
        · exact isNameless_moved _
        · split
          · exact isNameless_file
          · exact isNameless_hidden _

end Serve

namespace Gateway

variable {g : Gateway} {a : Arrival} {v : Visit} {r : Request}
    {metrics : Metrics}

theorem isNameless_reply (status : Nat) (d : Document) :
    (reply status d).IsNameless := by
  simp [Response.IsNameless, reply, Response.fieldNames]

theorem isNameless_failed (failure : Failure) : (failed failure).IsNameless :=
  isNameless_reply _ _

private theorem isNameless_course (course : Course)
    (document : Bytes → Document) :
    (course.outcome document).response.IsNameless := by
  match course with
  | .rejected => exact isNameless_failed _
  | .refused _ => exact isNameless_failed _
  | .undecodable _ => exact isNameless_failed _
  | .brokenDown _ => nofun
  | .asked _ (.value _) => exact isNameless_reply _ _
  | .asked _ (.failure _) => exact isNameless_failed _
  | .asked _ (.crash _) => nofun

theorem isNameless_serveEntry :
    (g.serveEntry a r).outcome.response.IsNameless := by
  simp only [serveEntry]
  split
  · exact isNameless_failed _
  · exact isNameless_failed _
  · exact Serve.isNameless_document

private theorem isNameless_serveAsset {path : Bytes} :
    (g.serveAsset a r path).outcome.response.IsNameless := by
  simp only [serveAsset]
  split
  next => exact isNameless_failed _
  next response found =>
    simp only [Step.done, Outcome.response]
    split
    · exact Serve.isNameless_below found
    · exact Response.isNameless_plain _ _

private theorem isNameless_serve :
    (g.serve metrics a v r).outcome.response.IsNameless := by
  have isModel (m : ModelRoute) (isFor : r.isFor m = true) :
      (g.serve metrics a v r).outcome.response.IsNameless := by
    rw [(leaves_serve isFor).outcome_eq]
    exact isNameless_course _ _
  cases found : Route.find? r.method r.target.path with
  | none =>
      simp only [serve, found, serveRest]
      split
      · exact isNameless_failed _
      · exact isNameless_serveEntry
  | some route =>
      obtain ⟨isAnalysis, isPrompt⟩ := isFor_of_find? found
      cases route with
      | health =>
          simp only [serve, found]
          exact isNameless_reply _ _
      | analysis => exact isModel .analysis (isAnalysis rfl)
      | prompt => exact isModel .prompt (isPrompt rfl)
      | asset path =>
          simp only [serve, found]
          exact isNameless_serveAsset
      | entry =>
          simp only [serve, found]
          exact isNameless_serveEntry

end Gateway

namespace Log.Record

variable {g : Gateway} {v : Visit} {record : Record}

def asides : List Bytes :=
  ["No image in form", "Sending image to provider", "llm call",
    "Generation started", "Generation completed", "Generation failed",
    "Request rejected", "Generation event occurred"]

theorem not_mem_asides :
    utf8 "Request completed" ∉ asides ∧ utf8 "Request failed" ∉ asides := by
  decide +kernel

/-- The record is written on the way, and it bears no name but the given one. -/
structure IsAside (record : Record) (name : Bytes) : Prop where
  message : record.message ∈ asides
  named : ∀ value, Fields.get? "request_id" record.fields = some value →
    value = .string name

private theorem isAside_noImage (fault : FormFault) :
    (Gateway.noImageRecord v fault).IsAside v.requestId := by
  constructor
  · simp [asides, Gateway.noImageRecord]
  · intro value found
    cases found
    rfl

private theorem isAside_sending (request : AnalysisRequest)
    (decoded : Decoded) :
    (AnalysisService.sendingRecord v request decoded).IsAside v.requestId := by
  constructor
  · simp [asides, AnalysisService.sendingRecord]
  · intro value found
    cases found
    rfl

private theorem isAside_call (request : GenerateRequest) (elapsed : Int)
    (usage : Option Usage) (name : Bytes) :
    (callRecord request elapsed usage).IsAside name := by
  constructor
  · simp [asides, callRecord]
  · intro value found
    cases usage with
    | none => cases found
    | some u => cases found

private theorem isAside_event (e : Event) :
    e.logRecord.IsAside e.requestId := by
  constructor
  · unfold Event.logRecord
    cases e.kind <;> simp [asides]
  · intro value found
    rw [fields_logRecord, Document.optionalText] at found
    split_ifs at found with unnamed fine fine
    · cases found
    · cases found
    · cases found
      rfl
    · cases found
      rfl

private theorem isAside_of_remarks (logs : g.LogsCalls)
    (remark : g.Remarks v record) :
    record.IsAside v.requestId := by
  cases remark with
  | noImage fault => exact isAside_noImage fault
  | sending request decoded => exact isAside_sending request decoded
  | generator request installed member =>
      obtain ⟨elapsed, usage, rfl⟩ := logs _ _ installed request record member
      exact isAside_call request elapsed usage v.requestId

theorem bears_access (a : Arrival) (v : Visit) (r : Request)
    (status : Nat) :
    (Gateway.accessRecord a v r status).Bears v.requestId :=
  (Logged.access a v r status).isPlain.bears (.head _)

private theorem bears_failure (a : Arrival) (v : Visit) (r : Request)
    (failure : Failure) :
    (Gateway.failureRecord a v r failure).Bears v.requestId :=
  (Logged.failure a v r failure).isPlain.bears (.tail _ (.head _))

def completes (record : Record) : Bool :=
  record.message == utf8 "Request completed"

def reportsFailure (record : Record) : Bool :=
  record.message == utf8 "Request failed"

private theorem IsAside.not_completes {name : Bytes}
    (aside : record.IsAside name) :
    ¬ record.completes = true := by
  intro equal
  exact not_mem_asides.1 (eq_of_beq equal ▸ aside.message)

theorem IsAside.not_reportsFailure {name : Bytes}
    (aside : record.IsAside name) :
    ¬ record.reportsFailure = true := by
  intro equal
  exact not_mem_asides.2 (eq_of_beq equal ▸ aside.message)

theorem filter_asides {p : Record → Bool} {before middle after : List Record}
    (others : ∀ record ∈ before ++ after, ¬ p record = true) :
    (before ++ (middle ++ after)).filter p = middle.filter p := by
  obtain ⟨earlier, later⟩ := List.forall_mem_append.1 others
  rw [List.filter_append, List.filter_append, List.filter_eq_nil_iff.2 earlier,
    List.filter_eq_nil_iff.2 later, List.nil_append, List.append_nil]

end Log.Record

/-- All that an exchange leaves behind shows one name. Exactly one record says
that the request was answered. It is a warning if the gateway is at fault, and a
log shows it if its level lets it. -/
structure Exchange.GoesBy (exchange : Exchange) (name : Bytes) : Prop where
  header : exchange.response.headers.filter (·.1 == utf8 "X-Request-Id") =
    [(utf8 "X-Request-Id", name)]
  events : ∀ e ∈ exchange.trace.events, e.requestId = name
  named : ∀ record ∈ exchange.trace.records, ∀ value,
    Fields.get? "request_id" record.fields = some value → value = .string name
  failure : (exchange.trace.records.filter Log.Record.reportsFailure).length ≤
    1 ∧
    ∀ record ∈ exchange.trace.records, record.reportsFailure = true →
      record.Bears name
  completion : ∃ record, exchange.trace.records.filter Log.Record.completes =
    [record] ∧ record.Bears name ∧
    Fields.get? "status_code" record.fields =
      some (Document.ofNat exchange.response.status) ∧
    record.level = (if 500 ≤ exchange.response.status then
      .warning else .info) ∧
    ∀ level, (Log.shown level exchange.trace.records).filter
      Log.Record.completes = if level.shows record.level then [record] else []

namespace Gateway

variable {g : Gateway} {a : Arrival} {v : Visit} {r : Request}

theorem filter_conclude (outcome : Outcome Response) :
    ((conclude a v r outcome).2.filter Log.Record.reportsFailure).length ≤ 1 ∧
      (conclude a v r outcome).2.filter Log.Record.completes = [] := by
  cases outcome with
  | value response => exact ⟨Nat.zero_le 1, rfl⟩
  | failure failure => exact ⟨Nat.le_refl 1, rfl⟩
  | crash message => exact ⟨Nat.zero_le 1, rfl⟩

private theorem filter_completes_closing (g : Gateway) (metrics : Metrics)
    (a : Arrival) (r : Request) :
    (g.closing metrics a r).filter Log.Record.completes =
      [accessRecord a (visit a r) r
        (g.handle metrics a r).response.status] := by
  rw [closing, List.filter_append, (filter_conclude _).2]
  rfl

private theorem length_failures_closing (g : Gateway) (metrics : Metrics)
    (a : Arrival) (r : Request) :
    ((g.closing metrics a r).filter Log.Record.reportsFailure).length ≤ 1 := by
  rw [closing, List.filter_append, List.length_append]
  exact (filter_conclude _).1

private theorem bears_closing {metrics : Metrics} {record : Log.Record}
    (member : record ∈ g.closing metrics a r) :
    record.Bears (visit a r).requestId := by
  cases List.mem_append.1 member with
  | inl failed =>
      obtain ⟨failure, rfl⟩ := mem_conclude failed
      exact Log.Record.bears_failure a _ r failure
  | inr completed =>
      cases List.mem_singleton.1 completed
      exact Log.Record.bears_access a _ r _

private theorem crash_of_metrics {metrics : Metrics} {message : Bytes}
    (crash : (g.serve metrics a v r).outcome = .crash message)
    (metrics' : Metrics) :
    (g.serve metrics' a v r).outcome = .crash message := by
  cases found : Route.find? r.method r.target.path with
  | none => simpa only [serve, found] using crash
  | some route =>
      cases route with
      | health =>
          simp only [serve, found] at crash
          cases crash
      | analysis => simpa only [serve, found] using crash
      | prompt => simpa only [serve, found] using crash
      | asset path => simpa only [serve, found] using crash
      | entry => simpa only [serve, found] using crash

end Gateway

namespace Server

variable {s : Server} {a : Arrival} {r : Request}

theorem step_of_dispatched
    (dispatched : Route.nearby? r.method r.target.path = none)
    (logs : s.gateway.LogsCalls) :
    ∃ (metrics : Metrics) (before after : List Log.Record),
      (s.step a r).2.response = (s.gateway.handle metrics a r).response ∧
      (s.step a r).2.trace.events =
        (s.gateway.serve metrics a (Gateway.visit a r) r).trace.events ∧
      (s.step a r).2.trace.records =
        before ++ (s.gateway.closing metrics a r ++ after) ∧
      ∀ record ∈ before ++ after,
        record.IsAside (Gateway.visit a r).requestId := by
  obtain ⟨metrics, response, events, records⟩ := s.records_step a r
  have answered :
      s.gateway.answer metrics a r = s.gateway.handle metrics a r := by
    rw [Gateway.answer, dispatched]
  rw [answered] at response events records
  rw [Gateway.events_handle] at events records
  rw [Gateway.records_handle, List.append_assoc] at records
  have kept := s.gateway.keeps_serve metrics a (Gateway.visit a r) r
  refine ⟨metrics, _, _, response, events, records,
    List.forall_mem_append.2 ⟨?_, ?_⟩⟩
  · intro record member
    exact Log.Record.isAside_of_remarks logs (kept.records record member)
  · intro record member
    obtain ⟨e, published, rfl⟩ := mem_hearAll member
    have aside := Log.Record.isAside_event (Publisher.stamp a.now e)
    have named :
        (Publisher.stamp a.now e).requestId = (Gateway.visit a r).requestId :=
      kept.events e published
    rwa [named] at aside

private theorem goesBy_of_dispatched
    (dispatched : Route.nearby? r.method r.target.path = none)
    (logs : s.gateway.LogsCalls) :
    (s.step a r).2.GoesBy (r.identity a.freshId) := by
  obtain ⟨metrics, before, after, response, events, records, asides⟩ :=
    step_of_dispatched dispatched logs
  have completed : (s.step a r).2.trace.records.filter Log.Record.completes =
      [Gateway.accessRecord a (Gateway.visit a r) r
        (s.step a r).2.response.status] := by
    rw [records, Log.Record.filter_asides fun record member =>
      (asides record member).not_completes,
      Gateway.filter_completes_closing, response]
  -- Each record is written on the way or belongs to the end.
  have each : ∀ record ∈ (s.step a r).2.trace.records,
      record.IsAside (Gateway.visit a r).requestId ∨
        record.Bears (Gateway.visit a r).requestId := by
    intro record member
    rw [records] at member
    rcases List.mem_append.1 member with earlier | member
    · exact .inl (asides record (List.mem_append_left _ earlier))
    · rcases List.mem_append.1 member with last | later
      · exact .inr (Gateway.bears_closing last)
      · exact .inl (asides record (List.mem_append_right _ later))
  constructor
  case header =>
    rw [response, Gateway.handle_response]
    exact Gateway.isNameless_serve.filter_named _
  case events =>
    rw [events]
    exact (s.gateway.keeps_serve metrics a (Gateway.visit a r) r).events
  case named =>
    intro record member value found
    cases each record member with
    | inl aside => exact aside.named value found
    | inr bears => exact Option.some.inj (found.symm.trans bears.field)
  case failure =>
    constructor
    · rw [records, Log.Record.filter_asides fun record member =>
        (asides record member).not_reportsFailure]
      exact Gateway.length_failures_closing _ _ _ _
    · intro record member reports
      cases each record member with
      | inl aside => exact absurd reports aside.not_reportsFailure
      | inr bears => exact bears
  case completion =>
    refine ⟨_, completed, Log.Record.bears_access a _ r _, rfl, rfl, ?_⟩
    intro level
    rw [Log.shown, List.filter_comm, completed, List.filter_cons,
      List.filter_nil]

private theorem status_of_crash {metrics : Metrics} {message : Bytes}
    (dispatched : Route.nearby? r.method r.target.path = none)
    (logs : s.gateway.LogsCalls)
    (crash : (s.gateway.serve metrics a (Gateway.visit a r) r).outcome =
      .crash message) :
    (s.step a r).2.response.status = 500 := by
  obtain ⟨metrics', _, _, response, -⟩ := step_of_dispatched dispatched logs
  have broken : (s.gateway.serve metrics' a (Gateway.visit a r) r).outcome =
      .crash message :=
    Gateway.crash_of_metrics crash metrics'
  rw [response, Gateway.handle_response]
  exact congrArg (fun outcome => outcome.response.status) broken

/-- A request that is answered here goes by its own name if that is neither
empty nor too long, and by a fresh one otherwise, also if its handler breaks
down. -/
theorem one_name_for_each_request (s : Server) (a : Arrival) (r : Request)
    (dispatched : Route.nearby? r.method r.target.path = none)
    (logs : s.gateway.LogsCalls) :
    ∃ name,
      name =
        (if 1 ≤ (r.header "X-Request-Id").trim.length ∧
            (r.header "X-Request-Id").trim.length ≤ 128 then
          (r.header "X-Request-Id").trim
        else a.freshId) ∧
      (s.step a r).2.GoesBy name ∧
      ∀ metrics message,
        (s.gateway.serve metrics a (Gateway.visit a r) r).outcome =
          .crash message →
        (s.step a r).2.response.status = 500 := by
  refine ⟨r.identity a.freshId, r.identity_eq a.freshId,
    goesBy_of_dispatched dispatched logs, ?_⟩
  intro metrics message crash
  exact status_of_crash dispatched logs crash

def breaking : Server where
  gateway := gatewayOf { maxBody := 64, promptModel := "m" }
    (some (serviceGenerator (fun _ => .crash "broken") 0)) true
    { modified := Instant.zero }
  listeners := ⟨[.log, .counters]⟩

def namedGreeting : Request :=
  { greeting with headers := [("X-Request-Id", " rid\n")] }

theorem breakdown_goes_by_name :
    breaking.gateway.LogsCalls ∧
      (breaking.step ⟨[], "fresh", [], Instant.zero, 0⟩ namedGreeting).2.GoesBy
        "rid" ∧
      (breaking.step ⟨[], "fresh", [], Instant.zero, 0⟩
        namedGreeting).2.response.status = 500 := by
  have logs : breaking.gateway.LogsCalls := by
    apply Gateway.logsCalls_service
    intro m
    cases m <;> rfl
  obtain ⟨name, own, goes, crash⟩ :=
    one_name_for_each_request breaking ⟨[], "fresh", [], Instant.zero, 0⟩
      namedGreeting rfl logs
  have trimmed : name = "rid" := own.trans (by decide +kernel)
  rw [trimmed] at goes
  exact ⟨logs, goes, crash [] "broken" rfl⟩

end Server

end ModelGateway
