import ModelGateway.Proofs.Course

namespace ModelGateway

namespace Step

variable {α β γ : Type} {P : Log.Record → Prop} {Q : Event → Prop}

structure Among (P : Log.Record → Prop)
    (Q : Event → Prop)
    (step : Step α) : Prop where
  records : ∀ record ∈ step.trace.records, P record
  events : ∀ event ∈ step.trace.events, Q event

theorem among_of_silent {step : Step α}
    (records : step.trace.records = [])
    (events : step.trace.events = []) :
    step.Among P Q := by
  constructor
  · rw [records]
    nofun
  · rw [events]
    nofun

theorem among_done (a : α) : (done a).Among P Q :=
  among_of_silent rfl rfl

theorem among_fail (failure : Failure) : (fail failure : Step α).Among P Q :=
  among_of_silent rfl rfl

private theorem among_breakDown (message : Bytes) :
    (breakDown message : Step α).Among P Q :=
  among_of_silent rfl rfl

theorem among_write {record : Log.Record} (written : P record) :
    (write record).Among P Q :=
  ⟨List.forall_mem_singleton.2 written, nofun⟩

private theorem among_publish {event : Event} (published : Q event) :
    (publish event).Among P Q :=
  ⟨nofun, List.forall_mem_singleton.2 published⟩

private theorem among_ask {generator : Generator} {request : GenerateRequest}
    (written : ∀ record ∈ (generator request).records, P record) :
    (ask generator request).Among P Q :=
  ⟨written, nofun⟩

theorem Among.append {first : Step α} {second : Step β}
    (among : first.Among P Q) (among' : second.Among P Q)
    (outcome : Outcome γ) :
    (⟨outcome, first.trace ++ second.trace⟩ : Step γ).Among P Q := by
  constructor
  · exact List.forall_mem_append.2 ⟨among.records, among'.records⟩
  · exact List.forall_mem_append.2 ⟨among.events, among'.events⟩

theorem Among.bind {step : Step α} {f : α → Step β} (first : step.Among P Q)
    (second : ∀ a, step.outcome = .value a → (f a).Among P Q) :
    (step >>= f).Among P Q := by
  change (step.andThen f).Among P Q
  unfold andThen
  split
  next a ended => exact first.append (second a ended) _
  next => exact ⟨first.records, first.events⟩
  next => exact ⟨first.records, first.events⟩

end Step

namespace ModelAccess

variable {access : ModelAccess} {generator : Generator} {v : Visit}
    {route model : Bytes}
  {P : Log.Record → Prop} {Q : Event → Prop}

theorem installed_of_require
    (required : (access.require v route model).outcome = .value generator) :
    access.generator = some generator := by
  cases readiness : access.ready? with
  | none =>
      have rejected :
          (access.require v route model).outcome = .failure .config :=
        (leaves_require_of_none readiness).outcome_eq
      cases rejected.symm.trans required
  | some other =>
      have ready := ready?_eq_some_iff.1 readiness
      rw [ready.require_eq] at required
      cases required
      exact ready.installed

section Events

variable (events : ∀ kind route model elapsed failure,
    Q (event v kind route model elapsed failure))

include events

theorem among_announce (kind : EventKind) (elapsed : Int)
    (failure : Option Failure) :
    (access.announce (event v kind route model elapsed failure)).Among P Q := by
  unfold announce
  split
  · exact Step.among_publish (events _ _ _ _ _)
  · exact Step.among_done ()

theorem among_require : (access.require v route model).Among P Q := by
  unfold require
  split
  · exact Step.among_done _
  · apply Step.Among.bind (among_announce events _ _ _)
    intro _ _
    exact Step.among_fail _

theorem among_abort {α : Type} (cause : Failure) :
    (access.abort v route model cause : Step α).Among P Q := by
  apply Step.Among.bind (among_announce events _ _ _)
  intro _ _
  exact Step.among_fail _

theorem among_generate {request : GenerateRequest}
    (written : ∀ record ∈ (generator request).records, P record) :
    (access.generate v route generator request).Among P Q := by
  have asked : (Step.ask generator request).Among P Q := Step.among_ask written
  unfold generate
  simp only
  split
  · exact asked.append (among_announce events _ _ _) _
  · exact asked.append (among_abort events _) _
  · exact ⟨asked.records, asked.events⟩

end Events

end ModelAccess

namespace Gateway

inductive Remarks (g : Gateway) (v : Visit) : Log.Record → Prop
  | noImage (fault : FormFault) : Remarks g v (noImageRecord v fault)
  | sending (request : AnalysisRequest) (decoded : Decoded) :
      Remarks g v (AnalysisService.sendingRecord v request decoded)
  | generator {m : ModelRoute} {generator : Generator} {record : Log.Record}
      (request : GenerateRequest)
      (installed : (g.access m).generator = some generator)
      (member : record ∈ (generator request).records) :
      Remarks g v record

variable {g : Gateway} {v : Visit} {r : Request}

/-- The step writes such records alone, and its events are of this visit. -/
def Keeps (g : Gateway) (v : Visit) {α : Type}
    (step : Step α) : Prop :=
  step.Among (g.Remarks v) fun e => e.requestId = v.requestId

theorem requestId_event (kind : EventKind) (route model : Bytes) (elapsed : Int)
    (failure : Option Failure) :
    (ModelAccess.event v kind route model elapsed failure).requestId =
      v.requestId := rfl

private theorem keeps_serveAnalysis : g.Keeps v (g.serveAnalysis v r) := by
  apply Step.Among.bind (ModelAccess.among_require requestId_event)
  intro _ _
  apply Step.Among.bind
  · unfold analysisRequest
    simp only
    split
    · exact Step.among_done _
    · split
      · exact Step.among_fail _
      · apply Step.Among.bind (Step.among_write (.noImage _))
        intro _ _
        exact Step.among_done _
    · exact Step.among_done _
  · intro request _
    apply Step.Among.bind _ fun _ _ => Step.among_done _
    apply Step.Among.bind (ModelAccess.among_require requestId_event)
    intro generator required
    have installed := ModelAccess.installed_of_require required
    split
    · exact Step.among_fail _
    · apply Step.Among.bind (ModelAccess.among_announce requestId_event _ _ _)
      intro _ _
      split
      · split
        · exact Step.among_breakDown _
        · exact ModelAccess.among_abort requestId_event _
      · apply Step.Among.bind (Step.among_write (.sending _ _))
        intro _ _
        apply ModelAccess.among_generate requestId_event
        intro record member
        exact .generator (m := .analysis) _ installed member

private theorem keeps_servePrompt : g.Keeps v (g.servePrompt v r) := by
  apply Step.Among.bind (ModelAccess.among_require requestId_event)
  intro _ _
  split
  · exact Step.among_fail _
  · split
    · exact Step.among_fail _
    · apply Step.Among.bind _ fun _ _ => Step.among_done _
      apply Step.Among.bind (ModelAccess.among_require requestId_event)
      intro generator required
      have installed := ModelAccess.installed_of_require required
      apply Step.Among.bind (ModelAccess.among_announce requestId_event _ _ _)
      intro _ _
      apply ModelAccess.among_generate requestId_event
      intro record member
      exact .generator (m := .prompt) _ installed member

theorem keeps_serve (g : Gateway) (metrics : Metrics) (a : Arrival)
    (v : Visit) (r : Request) :
    g.Keeps v (g.serve metrics a v r) := by
  by_cases elsewhere : ∀ m, r.isFor m = false
  · have silent : (g.serve metrics a v r).trace = {} :=
      serve_trace_of_elsewhere elsewhere
    apply Step.among_of_silent
    · rw [silent]
    · rw [silent]
  · obtain ⟨m, isFor⟩ := not_forall.1 elsewhere
    obtain ⟨posted, path⟩ := Request.isFor_iff.1 (Bool.not_eq_false _ ▸ isFor)
    unfold serve
    cases m with
    | analysis =>
        rw [Server.found_analysis posted path]
        exact keeps_serveAnalysis
    | prompt =>
        rw [Server.found_prompt posted path]
        exact keeps_servePrompt

def LogsCalls (g : Gateway) : Prop :=
  ∀ m generator, (g.access m).generator = some generator →
    ∀ request, ∀ record ∈ (generator request).records, ∃ elapsed usage, record =
      callRecord request elapsed usage

theorem logsCalls_service (g : Gateway) {reply : ModelCall → ModelReply}
    {elapsed : Int} (service : ∀ m, (g.access m).generator =
      some (serviceGenerator reply elapsed)) :
    g.LogsCalls := by
  intro m generator installed request record member
  cases Option.some.inj (installed.symm.trans (service m))
  unfold serviceGenerator at member
  split at member
  · cases member
  · simp only at member
    split at member
    · cases member
    · cases member
    · split at member
      · cases member
      · exact ⟨elapsed, _, List.mem_singleton.1 member⟩

def visit (a : Arrival) (r : Request) : Visit :=
  { requestId := r.identity a.freshId, now := a.now, elapsed := a.elapsed }

def closing (g : Gateway) (metrics : Metrics) (a : Arrival)
    (r : Request) : List Log.Record :=
  (conclude a (visit a r) r (g.serve metrics a (visit a r) r).outcome).2 ++
    [accessRecord a (visit a r) r (g.handle metrics a r).response.status]

theorem records_handle (g : Gateway) (metrics : Metrics) (a : Arrival)
    (r : Request) :
    (g.handle metrics a r).trace.records =
      (g.serve metrics a (visit a r) r).trace.records ++
        g.closing metrics a r := rfl

theorem events_handle (g : Gateway) (metrics : Metrics) (a : Arrival)
    (r : Request) :
    (g.handle metrics a r).trace.events =
      (g.serve metrics a (visit a r) r).trace.events :=
  List.append_nil _

end Gateway

inductive Log.Logged : Log.Record → Prop
  | access (a : Arrival) (v : Visit) (r : Request) (status : Nat) :
      Logged (Gateway.accessRecord a v r status)
  | failure (a : Arrival) (v : Visit) (r : Request) (failure : Failure) :
      Logged (Gateway.failureRecord a v r failure)
  | noImage (v : Visit) (fault : FormFault) :
      Logged (Gateway.noImageRecord v fault)
  | sending (v : Visit) (request : AnalysisRequest) (decoded : Decoded) :
      Logged (AnalysisService.sendingRecord v request decoded)
  | call (request : GenerateRequest) (elapsed : Int) (usage : Option Usage) :
      Logged (callRecord request elapsed usage)
  | event (e : Event) : Logged e.logRecord

private theorem Gateway.logged_of_remarks {g : Gateway} {v : Visit}
    {record : Log.Record} (logs : g.LogsCalls) (remark : g.Remarks v record) :
    Log.Logged record := by
  cases remark with
  | noImage fault => exact .noImage v fault
  | sending request decoded => exact .sending v request decoded
  | generator request installed member =>
      obtain ⟨elapsed, usage, rfl⟩ := logs _ _ installed request record member
      exact .call request elapsed usage

theorem Gateway.mem_conclude {a : Arrival} {v : Visit} {r : Request}
    {outcome : Outcome Response} {record : Log.Record}
    (member : record ∈ (conclude a v r outcome).2) :
    ∃ failure, record = failureRecord a v r failure := by
  cases outcome with
  | value response => cases member
  | failure failure => exact ⟨failure, List.mem_singleton.1 member⟩
  | crash message => cases member

namespace Server

variable {s : Server} {a : Arrival} {r : Request}
    {listeners : Publisher Listener} {now : Instant}
  {metrics : Metrics} {record : Log.Record}

private theorem mem_hear {e : Event}
    (member : record ∈ (hear listeners now metrics e).2) :
    record = (Publisher.stamp now e).logRecord := by
  have recorded : ∀ later ∈ (hear listeners now metrics e).2, later =
      (Publisher.stamp now e).logRecord := by
    unfold hear
    refine List.foldlRecOn
      (motive := fun heard : Metrics × List Log.Record =>
        ∀ later ∈ heard.2, later = (Publisher.stamp now e).logRecord)
      _ _ (List.forall_mem_nil _) ?_
    -- One delivery adds a record of its event or nothing.
    rintro ⟨metrics, records⟩ all delivery delivered
    obtain ⟨subscriber, _, rfl⟩ := List.mem_map.1 delivered
    cases subscriber with
    | counters => exact all
    | log =>
        exact List.forall_mem_append.2 ⟨all, List.forall_mem_singleton.2 rfl⟩
  exact recorded record member

theorem mem_hearAll {events : List Event}
    (member : record ∈ (hearAll listeners now metrics events).2) :
    ∃ e ∈ events, record = (Publisher.stamp now e).logRecord := by
  induction events generalizing metrics with
  | nil => cases member
  | cons event rest ih =>
      cases List.mem_append.1 member with
      | inl here => exact ⟨event, List.mem_cons_self, mem_hear here⟩
      | inr later =>
          obtain ⟨e, among, equal⟩ := ih later
          exact ⟨e, List.mem_cons_of_mem _ among, equal⟩

theorem records_step (s : Server) (a : Arrival) (r : Request) :
    ∃ metrics, (s.step a r).2.response =
      (s.gateway.answer metrics a r).response ∧
      (s.step a r).2.trace.events =
        (s.gateway.answer metrics a r).trace.events ∧
      (s.step a r).2.trace.records =
        (s.gateway.answer metrics a r).trace.records ++
        (hearAll s.listeners a.now s.metrics
          (s.gateway.answer metrics a r).trace.events).2 :=
  ⟨_, rfl, rfl, rfl⟩

theorem logged_of_mem_step (logs : s.gateway.LogsCalls)
    (member : record ∈ (s.step a r).2.trace.records) :
    Log.Logged record := by
  obtain ⟨metrics, -, -, records⟩ := s.records_step a r
  rw [records] at member
  cases List.mem_append.1 member with
  | inr heard =>
      obtain ⟨e, -, rfl⟩ := mem_hearAll heard
      exact .event _
  | inl written =>
      unfold Gateway.answer at written
      split at written
      · cases written
      · rw [Gateway.records_handle] at written
        rcases List.mem_append.1 written with served | concluded
        · exact Gateway.logged_of_remarks logs
            ((Gateway.keeps_serve _ _ _ _ _).records _ served)
        · rcases List.mem_append.1 concluded with failed | access
          · obtain ⟨failure, rfl⟩ := Gateway.mem_conclude failed
            exact .failure _ _ _ _
          · cases List.mem_singleton.1 access
            exact .access _ _ _ _

end Server

end ModelGateway
