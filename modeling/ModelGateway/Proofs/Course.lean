import Mathlib.Tactic.SplitIfs
import ModelGateway.Proofs.AnalysisRoute
import ModelGateway.Proofs.PromptRoute

/-!
The course of a request to the model: where it stops on its way. That decides
how it is answered, what is asked of the generator and which events are
published.
-/

namespace ModelGateway

def Event.mark (e : Event) : Bytes × EventKind :=
  (e.route, e.kind)

namespace Step

variable {α β : Type}

/-- How a step ends, what it asks of the generator, and what the counters see of
its events. -/
structure Leaves (step : Step α) (outcome : Outcome α)
    (requests : List GenerateRequest) (marks : List (Bytes × EventKind)) :
    Prop extends Gives step outcome requests where
  marks_eq : step.trace.events.map Event.mark = marks

theorem leaves_done (a : α) : (done a).Leaves (.value a) [] [] :=
  ⟨gives_done a, rfl⟩

theorem leaves_fail (failure : Failure) :
    (fail failure : Step α).Leaves (.failure failure) [] [] :=
  ⟨gives_fail failure, rfl⟩

private theorem leaves_breakDown (message : Bytes) :
    (breakDown message : Step α).Leaves (.crash message) [] [] :=
  ⟨gives_breakDown message, rfl⟩

theorem leaves_write (record : Log.Record) :
    (write record).Leaves (.value ()) [] [] :=
  ⟨gives_write record, rfl⟩

private theorem leaves_publish (event : Event) :
    (publish event).Leaves (.value ()) [] [event.mark] :=
  ⟨⟨rfl, rfl⟩, rfl⟩

namespace Leaves

variable {step : Step α} {f : α → Step β} {a : α}
    {requests more : List GenerateRequest}
  {marks others : List (Bytes × EventKind)}

theorem bind {outcome : Outcome β}
    (first : step.Leaves (.value a) requests marks)
    (second : (f a).Leaves outcome more others) :
    (step >>= f).Leaves outcome (requests ++ more) (marks ++ others) := by
  refine ⟨first.toGives.bind second.toGives, ?_⟩
  have step_eq : (step >>= f) = ⟨(f a).outcome, step.trace ++ (f a).trace⟩ := by
    change step.andThen f = _
    rw [andThen, first.outcome_eq]
  rw [step_eq, ← first.marks_eq, ← second.marks_eq]
  exact List.map_append

theorem bind_fail (first : step.Leaves (.value a) requests marks)
    (failure : Failure) :
    (step >>= fun _ => (fail failure : Step β)).Leaves (.failure failure)
      requests marks := by
  have last := first.bind (f := fun _ => (fail failure : Step β))
    (leaves_fail failure)
  rw [List.append_nil, List.append_nil] at last
  exact last

theorem bind_failure {failure : Failure}
    (first : step.Leaves (.failure failure) requests marks) :
    (step >>= f).Leaves (.failure failure) requests marks := by
  refine ⟨first.toGives.bind_failure, ?_⟩
  have step_eq : (step >>= f) = ⟨.failure failure, step.trace⟩ := by
    change step.andThen f = _
    rw [andThen, first.outcome_eq]
  rw [step_eq]
  exact first.marks_eq

theorem bind_crash {message : Bytes}
    (first : step.Leaves (.crash message) requests marks) :
    (step >>= f).Leaves (.crash message) requests marks := by
  refine ⟨first.toGives.bind_crash, ?_⟩
  have step_eq : (step >>= f) = ⟨.crash message, step.trace⟩ := by
    change step.andThen f = _
    rw [andThen, first.outcome_eq]
  rw [step_eq]
  exact first.marks_eq

theorem map {g : α → β} {outcome : Outcome α}
    (leaves : step.Leaves outcome requests marks) :
    (step >>= fun a => done (g a)).Leaves (outcome.map g) requests marks := by
  cases outcome with
  | value a =>
      have last := leaves.bind (f := fun a => done (g a)) (leaves_done (g a))
      rw [List.append_nil, List.append_nil] at last
      exact last
  | failure failure => exact leaves.bind_failure
  | crash message => exact leaves.bind_crash

end Leaves

end Step

def Outcome.reported : Outcome Bytes → Outcome Bytes
  | .value text => .value text
  | .failure cause => .failure (.provider (some cause))
  | .crash message => .crash message

def Outcome.response : Outcome Response → Response
  | .value response => response
  | .failure cause => Gateway.failed cause
  | .crash _ => { status := 500 }

def Response.named (requestId : Bytes) (response : Response) : Response :=
  { response with headers := ("X-Request-Id", requestId) :: response.headers }

def Outcome.lastKinds : Outcome Bytes → List EventKind
  | .value _ => [.completed]
  | .failure _ => [.failed]
  | .crash _ => []

namespace ModelAccess

variable {access : ModelAccess} {generator : Generator} {v : Visit}
    {route model : Bytes}

def ready? (access : ModelAccess) : Option Generator :=
  if access.configured then access.generator else none

theorem ready?_eq_some_iff :
    access.ready? = some generator ↔ access.Ready generator := by
  constructor
  · intro ready
    obtain ⟨configured, installed⟩ := Option.ite_none_right_eq_some.1 ready
    exact ⟨configured, installed⟩
  · intro ready
    rw [ready?, ready.configured, ready.installed]
    rfl

def published (access : ModelAccess) (route : Bytes) (kinds : List EventKind) :
    List (Bytes × EventKind) :=
  if access.publishing then kinds.map (route, ·) else []

theorem published_nil : access.published route [] = [] := by
  cases publishing : access.publishing <;> simp [published, publishing]

private theorem published_append (kinds more : List EventKind) :
    access.published route (kinds ++ more) = access.published route kinds ++
      access.published route more := by
  cases publishing : access.publishing <;> simp [published, publishing]

theorem leaves_announce (kind : EventKind) (elapsed : Int)
    (failure : Option Failure) :
    (access.announce (event v kind route model elapsed failure)).Leaves
      (.value ()) []
      (access.published route [kind]) := by
  unfold announce published
  split
  · exact Step.leaves_publish _
  · exact Step.leaves_done ()

theorem leaves_require_of_none (unready : access.ready? = none) :
    (access.require v route model).Leaves (.failure .config) []
      (access.published route [.rejected]) := by
  have rejects : access.require v route model =
      (access.announce (event v .rejected route model 0 (some .config)) >>=
        fun _ =>
          Step.fail .config) := by
    unfold require
    split
    next generator configured installed =>
      rw [ready?, configured, installed] at unready
      cases unready
    next => rfl
  rw [rejects]
  exact (leaves_announce _ _ _).bind_fail _

theorem leaves_abort {α : Type} (cause : Failure) :
    (access.abort v route model cause : Step α).Leaves
      (.failure (.provider (some cause))) []
      (access.published route [.failed]) :=
  (leaves_announce _ _ _).bind_fail _

theorem leaves_generate (request : GenerateRequest) :
    (access.generate v route generator request).Leaves
      (generator request).outcome.reported [request]
      (access.published route (generator request).outcome.lastKinds) := by
  cases replied : (generator request).outcome with
  | value text =>
      refine ⟨gives_generate_value replied, ?_⟩
      have last :
          (access.announce
            (event v .completed route request.model v.elapsed none)).Leaves
          (.value ()) [] (access.published route [.completed]) :=
            leaves_announce _ _ _
      simp only [generate, Step.ask, replied]
      exact last.marks_eq
  | failure cause =>
      refine ⟨gives_generate_failure replied, ?_⟩
      have last : (access.abort v route request.model cause : Step Bytes).Leaves
          (.failure (.provider (some cause))) []
            (access.published route [.failed]) := leaves_abort cause
      simp only [generate, Step.ask, replied]
      exact last.marks_eq
  | crash message =>
      simp only [generate, Step.ask, replied]
      exact ⟨⟨rfl, rfl⟩, published_nil.symm⟩

theorem leaves_start_bind {α : Type} {next : Step α} {outcome : Outcome α}
    {requests : List GenerateRequest} {kinds : List EventKind}
    (leaves : next.Leaves outcome requests (access.published route kinds)) :
    (access.start v route model >>= fun _ => next).Leaves outcome requests
      (access.published route (.started :: kinds)) := by
  have first : (access.start v route model).Leaves (.value ()) []
      (access.published route [.started]) :=
    leaves_announce _ _ _
  have whole := first.bind (f := fun _ => next) leaves
  rw [← published_append] at whole
  exact whole

end ModelAccess

/-- Where a request to the model stops. -/
inductive Course where
  -- No model is configured.
  | rejected
  -- The request asks for nothing that could be put to the model.
  | refused (failure : Failure)
  | undecodable (fault : ImageFault)
  -- There is no room for the image.
  | brokenDown (fault : ImageFault)
  | asked (request : GenerateRequest) (reply : Outcome Bytes)

namespace Course

def outcome (document : Bytes → Document) : Course → Outcome Response
  | .rejected => .failure .config
  | .refused failure => .failure failure
  | .undecodable fault => .failure (.provider (some (.plain fault.message)))
  | .brokenDown fault => .crash fault.message
  | .asked _ reply =>
      reply.reported.map fun text => Gateway.reply 200 (document text)

def requests : Course → List GenerateRequest
  | .asked request _ => [request]
  | _ => []

def status : Course → Nat
  | .refused failure => failure.status
  | .asked _ (.value _) => 200
  | _ => 500

def kinds : Course → List EventKind
  | .rejected => [.rejected]
  | .refused _ => []
  | .undecodable _ => [.started, .failed]
  | .brokenDown _ => [.started]
  | .asked _ reply => .started :: reply.lastKinds

private theorem status_conclude {document : Bytes → Document} {a : Arrival}
    {v : Visit} {r : Request} (course : Course) :
    (Gateway.conclude a v r (course.outcome document)).1.status =
      course.status := by
  match course with
  | .rejected => rfl
  | .refused _ => rfl
  | .undecodable _ => rfl
  | .brokenDown _ => rfl
  | .asked _ (.value _) => rfl
  | .asked _ (.failure _) => rfl
  | .asked _ (.crash _) => rfl

theorem status_asked (request : GenerateRequest) (reply : Outcome Bytes) :
    (asked request reply).status = 200 ∨
      (asked request reply).status = 500 := by
  cases reply with
  | value text => exact .inl rfl
  | failure cause => exact .inr rfl
  | crash message => exact .inr rfl

end Course

inductive ModelRoute where
  | analysis
  | prompt
  deriving DecidableEq

namespace ModelRoute

def path : ModelRoute → Bytes
  | .analysis => AnalysisService.route
  | .prompt => PromptService.route

def document : ModelRoute → Bytes → Document
  | .analysis => AnalysisService.document
  | .prompt => PromptService.document

end ModelRoute

def Request.isFor (r : Request) (m : ModelRoute) : Bool :=
  r.method == utf8 "POST" && r.target.path == m.path

theorem Request.isFor_iff {r : Request} {m : ModelRoute} :
    r.isFor m = true ↔ r.method = utf8 "POST" ∧ r.target.path = m.path := by
  simp [isFor]

def Request.isHealth (r : Request) : Bool :=
  r.method == utf8 "GET" && r.target.path == utf8 "/health"

theorem Route.find?_eq_health_iff {r : Request} :
    find? r.method r.target.path = some .health ↔ r.isHealth = true := by
  unfold find? Request.isHealth
  split_ifs with get health root head post upload prompt <;> simp_all

structure Exchange.Follows (exchange : Exchange) (access : ModelAccess)
    (m : ModelRoute) (course : Course) :
    Prop where
  status_eq : exchange.response.status = course.status
  requests_eq : exchange.trace.requests = course.requests
  marks_eq : exchange.trace.events.map Event.mark =
    access.published m.path course.kinds

namespace Gateway

variable {g : Gateway} {v : Visit} {r : Request}

def promptCourse (g : Gateway) (r : Request) : Course :=
  match g.prompts.access.ready? with
  | none => .rejected
  | some generator =>
      match bodyObject g.settings.maxBody r with
      | .error failure => .refused failure
      | .ok fields =>
          match PromptRequest.decode fields with
          | .error fault => .refused (.provider (some (.plain fault.message)))
          | .ok request =>
              .asked (g.prompts.toGenerate request)
                (generator (g.prompts.toGenerate request)).outcome

def analysisCourse (g : Gateway) (r : Request) : Course :=
  match g.analysis.access.ready? with
  | none => .rejected
  | some generator =>
      match Form.ofRequest g.settings.maxBody r with
      | .error fault =>
          .refused (if fault.isCut then bodyTooLarge fault.message
            else .validation g.analysis.language.noImage none)
      | .ok form =>
          match form.file? "image" with
          | none => .refused (.validation g.analysis.language.noImage none)
          | some upload =>
              match Decoded.decode upload.data with
              | .error fault =>
                  if fault.isBreakdown then .brokenDown fault
                  else .undecodable fault
              | .ok decoded =>
                  .asked (g.analysis.toGenerate (form.value? "prompt") decoded)
                    (generator
                      (g.analysis.toGenerate (form.value? "prompt")
                        decoded)).outcome

private theorem leaves_prompt {generator : Generator}
    (ready : g.prompts.access.Ready generator) (request : PromptRequest) :
    (g.prompts.generate v request).Leaves
      (generator (g.prompts.toGenerate request)).outcome.reported
        [g.prompts.toGenerate request]
      (g.prompts.access.published PromptService.route
        (.started ::
          (generator (g.prompts.toGenerate request)).outcome.lastKinds)) := by
  rw [PromptService.generate_eq ready]
  exact ModelAccess.leaves_start_bind (ModelAccess.leaves_generate _)

private theorem leaves_servePrompt (g : Gateway) (v : Visit) (r : Request) :
    (g.servePrompt v r).Leaves
      ((g.promptCourse r).outcome PromptService.document)
      (g.promptCourse r).requests
      (g.prompts.access.published PromptService.route
        (g.promptCourse r).kinds) := by
  cases readiness : g.prompts.access.ready? with
  | none =>
      simp only [promptCourse, readiness]
      exact (ModelAccess.leaves_require_of_none readiness).bind_failure
  | some generator =>
      have ready := ModelAccess.ready?_eq_some_iff.1 readiness
      cases held : bodyObject g.settings.maxBody r with
      | error failure =>
          simp only [promptCourse, readiness, held, Course.kinds,
            ModelAccess.published_nil]
          rw [servePrompt_of_error ready held]
          exact Step.leaves_fail failure
      | ok fields =>
          cases decoded : PromptRequest.decode fields with
          | error fault =>
              simp only [promptCourse, readiness, held, decoded, Course.kinds,
                ModelAccess.published_nil]
              rw [servePrompt_of_fault ready held decoded]
              exact Step.leaves_fail _
          | ok request =>
              simp only [promptCourse, readiness, held, decoded]
              rw [servePrompt_of_ok ready held decoded]
              exact (leaves_prompt ready request).map

private theorem analysisRequest_of_error {fault : FormFault}
    (failed : Form.ofRequest g.settings.maxBody r = .error fault) :
    g.analysisRequest v r =
      if fault.isCut then Step.fail (bodyTooLarge fault.message)
      else Step.write (noImageRecord v fault) >>= fun _ => Step.done {} := by
  rw [analysisRequest, failed]
  rfl

private theorem analysisRequest_of_ok {form : Form}
    (read : Form.ofRequest g.settings.maxBody r = .ok form) :
    g.analysisRequest v r =
      match form.file? "image" with
      | none => Step.write (noImageRecord v .noFile) >>= fun _ => Step.done {}
      | some upload =>
          Step.done ⟨some upload.data, upload.filename,
            form.value? "prompt"⟩ := by
  rw [analysisRequest, read]
  cases found : form.file? "image" with
  | none =>
      simp only [Except.bind, Form.upload, found]
      rfl
  | some upload => simp only [Except.bind, Form.upload, found]

theorem leaves_analyze_none {generator : Generator}
    (ready : g.analysis.access.Ready generator) (record : Log.Record) :
    ((Step.write record >>= fun _ => Step.done ({} : AnalysisRequest)) >>=
      fun request =>
        g.analysis.analyze v request >>= fun text =>
          Step.done (reply 200 (AnalysisService.document text))).Leaves
        (.failure (.validation g.analysis.language.noImage none)) [] [] := by
  have logged := (Step.leaves_write record).bind
    (f := fun _ => Step.done ({} : AnalysisRequest))
    (Step.leaves_done _)
  apply logged.bind
  rw [AnalysisService.analyze_of_none ready rfl]
  exact Step.leaves_fail _

private theorem leaves_analyze_undecodable {generator : Generator}
    {request : AnalysisRequest} {file : Bytes} {fault : ImageFault}
    (ready : g.analysis.access.Ready generator)
    (sent : request.image = some file)
    (undecoded : Decoded.decode file = .error fault)
    (orderly : fault.isBreakdown = false) :
    (g.analysis.analyze v request).Leaves
      (.failure (.provider (some (.plain fault.message)))) []
      (g.analysis.access.published AnalysisService.route
        [.started, .failed]) := by
  rw [AnalysisService.analyze_of_error ready sent undecoded, orderly]
  exact ModelAccess.leaves_start_bind (ModelAccess.leaves_abort _)

private theorem leaves_analyze_brokenDown {generator : Generator}
    {request : AnalysisRequest} {file : Bytes} {fault : ImageFault}
    (ready : g.analysis.access.Ready generator)
    (sent : request.image = some file)
    (undecoded : Decoded.decode file = .error fault)
    (broken : fault.isBreakdown = true) :
    (g.analysis.analyze v request).Leaves (.crash fault.message) []
      (g.analysis.access.published AnalysisService.route [.started]) := by
  rw [AnalysisService.analyze_of_error ready sent undecoded, broken]
  apply ModelAccess.leaves_start_bind
  rw [ModelAccess.published_nil]
  exact Step.leaves_breakDown _

private theorem leaves_analyze_asked {generator : Generator}
    {request : AnalysisRequest} {file : Bytes} {decoded : Decoded}
    (ready : g.analysis.access.Ready generator)
    (sent : request.image = some file)
    (decodes : Decoded.decode file = .ok decoded) :
    (g.analysis.analyze v request).Leaves
      (generator (g.analysis.toGenerate request.prompt
        decoded)).outcome.reported
      [g.analysis.toGenerate request.prompt decoded]
      (g.analysis.access.published AnalysisService.route
        (.started ::
          (generator (g.analysis.toGenerate request.prompt
            decoded)).outcome.lastKinds)) := by
  rw [AnalysisService.analyze, AnalysisService.check, ready.require_eq,
    Step.done_bind, sent]
  simp only [decodes]
  apply ModelAccess.leaves_start_bind
  exact (Step.leaves_write _).bind (ModelAccess.leaves_generate _)

private theorem leaves_serveAnalysis (g : Gateway) (v : Visit) (r : Request) :
    (g.serveAnalysis v r).Leaves
      ((g.analysisCourse r).outcome AnalysisService.document)
      (g.analysisCourse r).requests
      (g.analysis.access.published AnalysisService.route
        (g.analysisCourse r).kinds) := by
  cases readiness : g.analysis.access.ready? with
  | none =>
      simp only [analysisCourse, readiness]
      exact (ModelAccess.leaves_require_of_none readiness).bind_failure
  | some generator =>
      have ready := ModelAccess.ready?_eq_some_iff.1 readiness
      rw [serveAnalysis_eq ready]
      cases read : Form.ofRequest g.settings.maxBody r with
      | error fault =>
          simp only [analysisCourse, readiness, read, Course.kinds,
            ModelAccess.published_nil]
          rw [analysisRequest_of_error read]
          cases isCut : fault.isCut with
          | true => exact Step.leaves_fail _
          | false => exact leaves_analyze_none ready _
      | ok form =>
          rw [analysisRequest_of_ok read]
          cases found : form.file? "image" with
          | none =>
              simp only [analysisCourse, readiness, read, found, Course.kinds,
                ModelAccess.published_nil]
              exact leaves_analyze_none ready _
          | some upload =>
              simp only [Step.done_bind]
              cases decodes : Decoded.decode upload.data with
              | error fault =>
                  simp only [analysisCourse, readiness, read, found, decodes]
                  cases broken : fault.isBreakdown with
                  | true =>
                      exact (leaves_analyze_brokenDown ready rfl decodes
                        broken).bind_crash
                  | false =>
                      exact (leaves_analyze_undecodable ready rfl decodes
                        broken).bind_failure
              | ok decoded =>
                  simp only [analysisCourse, readiness, read, found, decodes]
                  exact (leaves_analyze_asked ready rfl decodes).map

def access (g : Gateway) : ModelRoute → ModelAccess
  | .analysis => g.analysis.access
  | .prompt => g.prompts.access

def course (g : Gateway) : ModelRoute → Request → Course
  | .analysis => g.analysisCourse
  | .prompt => g.promptCourse

/-- Why a request takes its course. -/
inductive Takes (g : Gateway) (r : Request) : ModelRoute → Course → Prop
  | unready {m : ModelRoute} (unready : (g.access m).ready? = none) :
      Takes g r m .rejected
  | noObject {generator : Generator} {failure : Failure}
      (ready : (g.access .prompt).ready? = some generator)
      (held : bodyObject g.settings.maxBody r = .error failure) :
        Takes g r .prompt (.refused failure)
  | mistyped {generator : Generator} {fields : Fields Bytes}
      {fault : PromptFault}
      (ready : (g.access .prompt).ready? = some generator)
      (held : bodyObject g.settings.maxBody r = .ok fields)
      (decoded : PromptRequest.decode fields = .error fault) :
      Takes g r .prompt (.refused (.provider (some (.plain fault.message))))
  | prompt {generator : Generator} {fields : Fields Bytes}
      {request : PromptRequest}
      (ready : (g.access .prompt).ready? = some generator)
      (held : bodyObject g.settings.maxBody r = .ok fields)
      (decoded : PromptRequest.decode fields = .ok request) :
      Takes g r .prompt (.asked (g.prompts.toGenerate request)
        (generator (g.prompts.toGenerate request)).outcome)
  | tooLarge {generator : Generator} {fault : FormFault}
      (ready : (g.access .analysis).ready? = some generator)
      (read : Form.ofRequest g.settings.maxBody r = .error fault)
      (isCut : fault.isCut = true) :
      Takes g r .analysis (.refused (bodyTooLarge fault.message))
  | noImage {generator : Generator} {fault : FormFault}
      (ready : (g.access .analysis).ready? = some generator)
      (read : (Form.ofRequest g.settings.maxBody r).bind (Form.upload "image") =
        .error fault)
      (isCut : fault.isCut = false) :
      Takes g r .analysis
        (.refused (.validation g.analysis.language.noImage none))
  | undecodable {generator : Generator} {upload : Upload} {fault : ImageFault}
      (ready : (g.access .analysis).ready? = some generator)
      (read : (Form.ofRequest g.settings.maxBody r).bind (Form.upload "image") =
        .ok upload)
      (decoded : Decoded.decode upload.data = .error fault)
      (orderly : fault.isBreakdown = false) :
      Takes g r .analysis (.undecodable fault)
  | brokenDown {generator : Generator} {upload : Upload} {fault : ImageFault}
      (ready : (g.access .analysis).ready? = some generator)
      (read : (Form.ofRequest g.settings.maxBody r).bind
        (Form.upload "image") = .ok upload)
      (decoded : Decoded.decode upload.data = .error fault)
      (broken : fault.isBreakdown = true) :
      Takes g r .analysis (.brokenDown fault)
  | image {generator : Generator} {upload : Upload} {decoded : Decoded}
      {prompt : Option Bytes}
      (ready : (g.access .analysis).ready? = some generator)
      (read : (Form.ofRequest g.settings.maxBody r).bind (Form.upload "image") =
        .ok upload)
      (decodes : Decoded.decode upload.data = .ok decoded) :
      Takes g r .analysis (.asked (g.analysis.toGenerate prompt decoded)
        (generator (g.analysis.toGenerate prompt decoded)).outcome)

theorem takes_course (g : Gateway) (r : Request) (m : ModelRoute) :
    g.Takes r m (g.course m r) := by
  cases m with
  | prompt =>
      simp only [course, promptCourse]
      split
      next unready => exact .unready unready
      next generator ready =>
        split
        next failure held => exact .noObject ready held
        next fields held =>
          split
          next fault decoded => exact .mistyped ready held decoded
          next request decoded => exact .prompt ready held decoded
  | analysis =>
      simp only [course, analysisCourse]
      split
      next unready => exact .unready unready
      next generator ready =>
        split
        -- A cut body is told from other faults before the file is looked for,
        -- so a missing file and an unreadable form end alike.
        next fault read =>
          split
          next isCut => exact .tooLarge ready read isCut
          next uncut =>
            have unread : (Form.ofRequest g.settings.maxBody r).bind
                (Form.upload "image") = .error fault := by
              rw [read]
              rfl
            exact .noImage ready unread (Bool.eq_false_iff.2 uncut)
        next form read =>
          have found :
              (Form.ofRequest g.settings.maxBody r).bind (Form.upload "image") =
              form.upload "image" := by
            rw [read]
            rfl
          split
          next missing =>
            have absent : form.upload "image" = .error .noFile := by
              rw [Form.upload, missing]
            exact .noImage ready (found.trans absent) rfl
          next upload present =>
            have sent : form.upload "image" = .ok upload := by
              rw [Form.upload, present]
            split
            next fault decoded =>
              split
              next broken =>
                exact .brokenDown ready (found.trans sent) decoded broken
              next orderly =>
                exact .undecodable ready (found.trans sent) decoded
                  (Bool.eq_false_iff.2 orderly)
            next decoded decodes =>
              exact .image ready (found.trans sent) decodes

theorem leaves_serve {metrics : Metrics} {a : Arrival} {m : ModelRoute}
    (isFor : r.isFor m = true) :
    (g.serve metrics a v r).Leaves ((g.course m r).outcome m.document)
      (g.course m r).requests
      ((g.access m).published m.path (g.course m r).kinds) := by
  obtain ⟨posted, path⟩ := Request.isFor_iff.1 isFor
  unfold serve
  cases m with
  | analysis =>
      rw [Server.found_analysis posted path]
      exact leaves_serveAnalysis g v r
  | prompt =>
      rw [Server.found_prompt posted path]
      exact leaves_servePrompt g v r

theorem nearby?_of_isFor {m : ModelRoute} (isFor : r.isFor m = true) :
    Route.nearby? r.method r.target.path = none := by
  obtain ⟨posted, path⟩ := Request.isFor_iff.1 isFor
  cases m with
  | analysis => exact Server.nearby?_eq_none (Server.found_analysis posted path)
  | prompt => exact Server.nearby?_eq_none (Server.found_prompt posted path)

theorem answer_follows {metrics : Metrics} {a : Arrival} {m : ModelRoute}
    (isFor : r.isFor m = true) :
    (g.answer metrics a r).Follows (g.access m) m (g.course m r) := by
  rw [answer, nearby?_of_isFor isFor]
  simp only [handle]
  generalize
    (⟨r.identity a.freshId, a.now, a.elapsed⟩ : Visit) = v
  have leaves : (g.serve metrics a v r).Leaves _ _ _ := leaves_serve isFor
  refine ⟨?_, ?_, ?_⟩
  · rw [leaves.outcome_eq]
    exact (g.course m r).status_conclude
  · rw [← leaves.requests_eq]
    exact List.append_nil _
  · rw [← leaves.marks_eq]
    exact congrArg (List.map Event.mark) (List.append_nil _)

private theorem conclude_fst {a : Arrival} (outcome : Outcome Response) :
    (conclude a v r outcome).1 = outcome.response := by
  cases outcome <;> rfl

theorem handle_response (g : Gateway) (metrics : Metrics) (a : Arrival)
    (r : Request) :
    (g.handle metrics a r).response =
      (g.serve metrics a ⟨r.identity a.freshId, a.now, a.elapsed⟩
        r).outcome.response.named
        (r.identity a.freshId) := by
  rw [← conclude_fst]
  rfl

theorem answer_response {metrics : Metrics} {a : Arrival} {m : ModelRoute}
    (isFor : r.isFor m = true) :
    (g.answer metrics a r).response =
      ((g.course m r).outcome m.document).response.named
        (r.identity a.freshId) := by
  rw [answer, nearby?_of_isFor isFor]
  simp only [handle_response, (leaves_serve isFor).outcome_eq]

theorem answer_response_of_isHealth {metrics : Metrics} {a : Arrival}
    (isHealth : r.isHealth = true) :
    (g.answer metrics a r).response =
      (reply 200 (g.healthDocument a.now metrics)).named
        (r.identity a.freshId) := by
  have found := Route.find?_eq_health_iff.2 isHealth
  rw [answer, Server.nearby?_eq_none found]
  simp only [handle_response, serve, found]
  rfl

theorem isFor_of_find? {route : Route}
    (found : Route.find? r.method r.target.path = some route) :
    (route = .analysis → r.isFor .analysis = true) ∧
      (route = .prompt → r.isFor .prompt = true) := by
  unfold Route.find? at found
  split_ifs at found with get health root head post upload prompt
  · cases found
    exact ⟨nofun, nofun⟩
  · cases found
    exact ⟨nofun, nofun⟩
  · obtain ⟨path, -, rfl⟩ := Option.map_eq_some_iff.1 found
    exact ⟨nofun, nofun⟩
  · obtain ⟨path, -, rfl⟩ := Option.map_eq_some_iff.1 found
    exact ⟨nofun, nofun⟩
  · cases found
    exact ⟨fun _ => Bool.and_eq_true_iff.2 ⟨post, upload⟩, nofun⟩
  · cases found
    exact ⟨nofun, fun _ => Bool.and_eq_true_iff.2 ⟨post, prompt⟩⟩

theorem serveEntry_cases (g : Gateway) (a : Arrival) (r : Request) :
    (∃ response, g.serveEntry a r = Step.done response) ∨
      ∃ cause, g.serveEntry a r = notFound cause := by
  simp only [serveEntry]
  split
  · exact .inr ⟨_, rfl⟩
  · exact .inr ⟨_, rfl⟩
  · exact .inl ⟨_, rfl⟩

theorem serve_of_elsewhere {metrics : Metrics} {a : Arrival}
    (elsewhere : ∀ m, r.isFor m = false) :
    (∃ response, g.serve metrics a v r = Step.done response) ∨
      ∃ cause, g.serve metrics a v r = notFound cause := by
  unfold serve
  cases found : Route.find? r.method r.target.path with
  | none =>
      simp only [serveRest]
      split
      · exact .inr ⟨_, rfl⟩
      · exact g.serveEntry_cases a r
  | some route =>
      obtain ⟨isAnalysis, isPrompt⟩ := isFor_of_find? found
      cases route with
      | health => exact .inl ⟨_, rfl⟩
      | analysis => cases (isAnalysis rfl).symm.trans (elsewhere .analysis)
      | prompt => cases (isPrompt rfl).symm.trans (elsewhere .prompt)
      | asset path =>
          simp only [serveAsset]
          split
          · exact .inr ⟨_, rfl⟩
          · exact .inl ⟨_, rfl⟩
      | entry => exact g.serveEntry_cases a r

theorem serve_trace_of_elsewhere {metrics : Metrics} {a : Arrival}
    (elsewhere : ∀ m, r.isFor m = false) :
    (g.serve metrics a v r).trace = {} := by
  obtain ⟨response, served⟩ | ⟨cause, served⟩ := serve_of_elsewhere elsewhere
  · rw [served]
    rfl
  · rw [served]
    rfl

theorem answer_events_of_elsewhere {metrics : Metrics} {a : Arrival}
    (elsewhere : ∀ m, r.isFor m = false) :
    (g.answer metrics a r).trace.events = [] := by
  unfold answer
  split
  · rfl
  · simp only [handle]
    change (g.serve _ _ _ _).trace.events ++ [] = []
    rw [serve_trace_of_elsewhere elsewhere]
    rfl

end Gateway

theorem Server.step_follows {s : Server} {a : Arrival} {r : Request}
    {m : ModelRoute} (isFor : r.isFor m = true) :
    (s.step a r).2.Follows (s.gateway.access m) m (s.gateway.course m r) := by
  obtain ⟨status_eq, requests_eq, marks_eq⟩ := s.gateway.answer_follows isFor
  exact ⟨status_eq, requests_eq, marks_eq⟩

end ModelGateway
