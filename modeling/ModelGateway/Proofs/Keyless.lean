import ModelGateway.Proofs.Accounting

namespace ModelGateway

namespace Settings

def Keyless (s : Settings) : Prop :=
  s.geminiKey.trim = [] ∧ s.googleKey.trim = []

instance (s : Settings) : Decidable s.Keyless :=
  inferInstanceAs (Decidable (_ ∧ _))

theorem aiConfigured_eq_false_iff {s : Settings} :
    s.aiConfigured = false ↔ s.Keyless := by
  unfold aiConfigured apiKey Keyless
  by_cases blank : s.geminiKey.trim = [] <;> simp [blank]

end Settings

namespace Gateway

variable {g : Gateway} {r : Request} {m : ModelRoute} {generator : Generator}
    {settings : Settings}

/-- A generator is there exactly if there is one in the other gateway. -/
def EquippedLike (g h : Gateway) : Prop :=
  ∀ m, (h.access m).generator.isSome = (g.access m).generator.isSome

/-- The gateway has these settings, and a generator exactly if they hold a
key. -/
structure RunsOn (settings : Settings) (g : Gateway) : Prop where
  settings_eq : g.settings = settings
  configured_eq : ∀ m, (g.access m).configured = settings.aiConfigured
  equipped_eq : ∀ m, (g.access m).generator.isSome = settings.aiConfigured
  publishing : g.Publishing

theorem RunsOn.isSome_ready? (runsOn : g.RunsOn settings) (m : ModelRoute) :
    (g.access m).ready?.isSome = settings.aiConfigured := by
  rw [ModelAccess.ready?, runsOn.configured_eq]
  cases configured : settings.aiConfigured with
  | false => rfl
  | true =>
      rw [if_pos rfl, runsOn.equipped_eq]
      exact configured

theorem RunsOn.through {h : Gateway} {generator : Option Generator}
    (runsOn : g.RunsOn settings) (start : h.RunsOn settings)
    (like : h.EquippedLike (g.through generator)) :
    (g.through generator).RunsOn settings where
  settings_eq := runsOn.settings_eq
  configured_eq m := by
    rw [← runsOn.configured_eq m]
    cases m <;> rfl
  equipped_eq m := (like m).trans (start.equipped_eq m)
  publishing := runsOn.publishing.through generator

private theorem course_of_unready (unready : (g.access m).ready? = none) :
    g.course m r = .rejected := by
  cases m with
  | analysis =>
      change g.analysis.access.ready? = none at unready
      simp only [course, analysisCourse, unready]
  | prompt =>
      change g.prompts.access.ready? = none at unready
      simp only [course, promptCourse, unready]

private theorem isRejected_of_ready
    (ready : (g.access m).ready? = some generator) :
    (g.course m r).isRejected = false := by
  have takes := g.takes_course r m
  generalize g.course m r = course at takes
  cases takes with
  | unready unready => cases ready.symm.trans unready
  | noObject | mistyped | prompt | tooLarge | noImage => rfl
  | undecodable | brokenDown | image => rfl

private theorem exists_aiConfigured (g : Gateway) (now : Instant)
    (metrics : Metrics) :
    ∃ fields, g.healthDocument now metrics = .object fields ∧
      Fields.last? "ai_configured" fields =
        some (.bool g.settings.aiConfigured) := by
  refine ⟨_, rfl, ?_⟩
  cases metrics with
  | nil => rfl
  | cons entry rest => rfl

end Gateway

namespace Served

variable {x y : Served} {m : ModelRoute} {settings : Settings}

private theorem failedAs_of_elsewhere (elsewhere : ∀ m, x.isFor m = false) :
    x.failedAs .config = false := by
  have ends : (∃ response, x.outcome = .value response) ∨
      ∃ cause, x.outcome = .failure (.notFound "not found" cause) := by
    obtain ⟨response, served⟩ | ⟨cause, served⟩ :=
      Gateway.serve_of_elsewhere elsewhere
    · exact .inl ⟨response, congrArg Step.outcome served⟩
    · exact .inr ⟨cause, congrArg Step.outcome served⟩
  unfold failedAs
  obtain ⟨response, outcome_eq⟩ | ⟨cause, outcome_eq⟩ := ends
  · rw [outcome_eq]
  · rw [outcome_eq]
    rfl

theorem answers_of_keyless (runsOn : x.gateway.RunsOn settings)
    (keyless : settings.Keyless)
    (isFor : x.isFor m = true) :
    x.exchange.Answers 500 (errorDocument "API Key not configured") [] ∧
      x.marks = [(m.path, .rejected)] := by
  have unready : (x.gateway.access m).ready? = none := by
    apply Option.not_isSome_iff_eq_none.1
    rw [runsOn.isSome_ready?, Settings.aiConfigured_eq_false_iff.2 keyless]
    exact Bool.false_ne_true
  have course_eq : x.gateway.course m x.request = .rejected :=
    Gateway.course_of_unready unready
  have response_eq : x.exchange.response =
      ((x.gateway.course m x.request).outcome m.document).response.named
        (x.request.identity x.arrival.freshId) :=
    Gateway.answer_response isFor
  have requests_eq := (follows isFor).requests_eq
  rw [course_eq] at response_eq requests_eq
  refine ⟨⟨?_, ?_, requests_eq⟩, ?_⟩
  · rw [response_eq]
    rfl
  · rw [response_eq]
    rfl
  · rw [marks_of_isFor runsOn.publishing isFor, course_eq]
    rfl

private theorem open_of_key (runsOn : x.gateway.RunsOn settings)
    (key : ¬ settings.Keyless) :
    x.failedAs .config = false ∧ ∀ mark ∈ x.marks, mark.2 ≠ .rejected := by
  by_cases someFor : ∃ m, x.isFor m = true
  · obtain ⟨m, isFor⟩ := someFor
    have ready : (x.gateway.access m).ready?.isSome = true := by
      rw [runsOn.isSome_ready?, ← Bool.not_eq_false,
        Settings.aiConfigured_eq_false_iff]
      exact key
    obtain ⟨generator, ready⟩ := Option.isSome_iff_exists.1 ready
    have notRejected : (x.gateway.course m x.request).isRejected = false :=
      Gateway.isRejected_of_ready ready
    refine ⟨(follows isFor).failedAs_eq.trans notRejected, ?_⟩
    intro mark member rejected
    rw [marks_of_isFor runsOn.publishing isFor] at member
    obtain ⟨kind, inside, rfl⟩ := List.mem_map.1 member
    have uncounted :
        (x.gateway.course m x.request).kinds.count .rejected = 0 := by
      rw [Course.count_rejected, notRejected]
      rfl
    exact List.count_eq_zero.1 uncounted (rejected ▸ inside)
  · have elsewhere : ∀ m, x.isFor m = false := by
      intro m
      exact Bool.eq_false_iff.2 fun isFor => someFor ⟨m, isFor⟩
    refine ⟨failedAs_of_elsewhere elsewhere, ?_⟩
    intro mark member
    rw [marks, events_of_elsewhere someFor] at member
    cases member

private theorem tells_of_key (runsOn : x.gateway.RunsOn settings)
    (isHealth : x.request.isHealth = true) :
    ∃ fields told, x.exchange.response.status = 200 ∧
      x.exchange.response.body = Document.write (.object fields) ∧
        Fields.last? "ai_configured" fields = some (.bool told) ∧
          (told = false ↔ settings.Keyless) := by
  have response_eq : x.exchange.response = (Gateway.reply 200
      (x.gateway.healthDocument x.arrival.now x.metrics)).named
        (x.request.identity x.arrival.freshId) :=
    Gateway.answer_response_of_isHealth isHealth
  obtain ⟨fields, document_eq, last⟩ :=
    x.gateway.exists_aiConfigured x.arrival.now x.metrics
  rw [document_eq] at response_eq
  refine ⟨fields, x.gateway.settings.aiConfigured, ?_, ?_, last, ?_⟩
  · rw [response_eq]
    rfl
  · rw [response_eq]
    rfl
  · rw [runsOn.settings_eq]
    exact Settings.aiConfigured_eq_false_iff

end Served

namespace Activity

variable {w next : Activity} {settings : Settings} {g : Gateway}

theorem StepAmong.runsOn (start : g.RunsOn settings)
    (step : StepAmong g.EquippedLike w next)
    (runsOn : w.Among (Gateway.RunsOn settings)) :
    next.Among (Gateway.RunsOn settings) := by
  obtain ⟨step, like⟩ := step
  have kind : next.server.gateway.RunsOn settings := by
    cases step with
    | serve _ a r => exact runsOn.1
    | handle d => exact runsOn.1
    | turn _ generator => exact runsOn.1.through start like
  exact StepAmong.among ⟨step, kind⟩ runsOn

theorem RunAmong.runsOn (start : g.RunsOn settings)
    (run : RunAmong g.EquippedLike w next)
    (runsOn : w.Among (Gateway.RunsOn settings)) :
    next.Among (Gateway.RunsOn settings) := by
  induction run with
  | refl => exact runsOn
  | tail _ step induction => exact step.runsOn start induction

end Activity

namespace Server

variable {settings : Settings} {connect : Bytes → Generator} {files : FileTree}
    {server : Server}
  {records : List Log.Record}

theorem access_gatewayOf (generator : Option Generator) (configured : Bool)
    (m : ModelRoute) :
    (gatewayOf settings generator configured files).access m =
      { generator, configured } := by
  cases m <;> rfl

private theorem runsOn_of_assemble
    (assembled : assemble (some settings) connect files =
      .ok (server, records)) :
    server.gateway.RunsOn settings := by
  cases assembled
  have isSome_eq : (if settings.aiConfigured then some (connect settings.apiKey)
      else none).isSome =
      settings.aiConfigured := by
    cases settings.aiConfigured <;> rfl
  refine ⟨rfl, ?_, ?_, ?_⟩
  · intro m
    rw [access_gatewayOf]
    exact isSome_eq
  · intro m
    rw [access_gatewayOf]
    exact isSome_eq
  · intro m
    rw [access_gatewayOf]

/-- A server is closed exactly if it was given no key, and says so. The
generator may do what it wants, as long as it stays where it is. -/
theorem closed_exactly_without_key
    (settings : Settings) (connect : Bytes → Generator) (files : FileTree)
    (server : Server) (records : List Log.Record) (w : Activity)
    (assembled : assemble (some settings) connect files = .ok (server, records))
    (run : Activity.RunAmong server.gateway.EquippedLike ⟨server, [], []⟩ w) :
    (settings.Keyless →
        (∀ x ∈ w.served, ∀ m, x.isFor m = true →
          x.exchange.Answers 500 (errorDocument "API Key not configured") [] ∧
            x.marks = [(m.path, .rejected)]) ∧
        ∀ w',
          Activity.RunAmong server.gateway.EquippedLike ⟨server, [], []⟩ w' →
          ∀ x ∈ w.served, ∀ y ∈ w'.served,
            ∀ m, x.isFor m = true → y.isFor m = true →
              x.exchange.response.status = y.exchange.response.status ∧
                x.exchange.response.body = y.exchange.response.body) ∧
      (¬ settings.Keyless →
        ∀ x ∈ w.served, x.failedAs .config = false ∧
          ∀ mark ∈ x.marks, mark.2 ≠ .rejected) ∧
      ∀ x ∈ w.served, x.request.isHealth = true →
        ∃ fields told, x.exchange.response.status = 200 ∧
          x.exchange.response.body = Document.write (.object fields) ∧
            Fields.last? "ai_configured" fields = some (.bool told) ∧
              (told = false ↔ settings.Keyless) := by
  have start := runsOn_of_assemble assembled
  have runsOn (w : Activity)
      (run : Activity.RunAmong server.gateway.EquippedLike ⟨server, [], []⟩ w) :
        ∀ x ∈ w.served, x.gateway.RunsOn settings :=
        (run.runsOn start (Activity.among_fresh start)).2
  refine ⟨?_, ?_, ?_⟩
  · intro keyless
    constructor
    · intro x member m isFor
      exact Served.answers_of_keyless (runsOn w run x member) keyless isFor
    · intro w' run' x member y member' m isFor isFor'
      obtain ⟨answers, -⟩ :=
        Served.answers_of_keyless (runsOn w run x member) keyless isFor
      obtain ⟨answers', -⟩ :=
        Served.answers_of_keyless (runsOn w' run' y member') keyless isFor'
      exact ⟨answers.status_eq.trans answers'.status_eq.symm,
        answers.body_eq.trans answers'.body_eq.symm⟩
  · intro key x member
    exact Served.open_of_key (runsOn w run x member) key
  · intro x member isHealth
    exact Served.tells_of_key (runsOn w run x member) isHealth

def blankKeys : Settings :=
  { maxBody := 64, geminiKey := " \t", googleKey := "\n" }

def secondKey : Settings :=
  { maxBody := 64, geminiKey := " ", googleKey := " k " }

def bareTree : FileTree :=
  ⟨[], [], Instant.zero⟩

def greeted (server : Server) : Activity :=
  Activity.visit ⟨server, [], []⟩ (⟨[], [], [], Instant.zero, 0⟩, greeting)

theorem blank_keys_close_second_key_opens :
    (∃ server records, assemble (some blankKeys) (fun _ => echo) bareTree =
      .ok (server, records) ∧ ∃ x ∈ (greeted server).served, x.request =
      greeting ∧ x.exchange.Answers 500
        (errorDocument "API Key not configured") []) ∧
      ∃ server records, assemble (some secondKey) (fun _ => echo) bareTree =
        .ok (server, records) ∧
        ∃ x ∈ (greeted server).served, x.request = greeting ∧
          x.failedAs .config = false := by
  have run (server : Server) : Activity.RunAmong server.gateway.EquippedLike
      ⟨server, [], []⟩ (greeted server) :=
    runAmong_of_step (P := server.gateway.EquippedLike) server (fun _ => rfl)
      [] _ greeting
  refine ⟨⟨_, _, rfl, _, List.mem_cons_self, rfl, ?_⟩, _, _, rfl, _,
    List.mem_cons_self, rfl, ?_⟩
  · obtain ⟨closed, -⟩ :=
      closed_exactly_without_key blankKeys (fun _ => echo) bareTree _ _
        _ rfl (run _)
    exact ((closed ⟨rfl, rfl⟩).1 _ List.mem_cons_self .prompt rfl).1
  · obtain ⟨-, opened, -⟩ :=
      closed_exactly_without_key secondKey (fun _ => echo) bareTree _ _
        _ rfl (run _)
    exact (opened (by decide) _ List.mem_cons_self).1

end Server

end ModelGateway
