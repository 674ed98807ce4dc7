import ModelGateway.Proofs.Accounting
import ModelGateway.Proofs.Tally

/-!
Requests do not influence each other. All that one leaves behind is in the
counters, which only a look at the state of the gateway shows, and there their
order is lost.
-/

namespace ModelGateway

def Request.BringsName (r : Request) : Prop :=
  (r.header "X-Request-Id").trim ≠ [] ∧
    (r.header "X-Request-Id").trim.length ≤ 128

theorem Request.BringsName.identity_eq {r : Request} (named : r.BringsName)
    (fresh : Bytes) :
    r.identity fresh = (r.header "X-Request-Id").trim := by
  obtain ⟨nonempty, short⟩ := named
  simp [identity, nonempty, Nat.not_lt.2 short]

/-- The same response, but for the text between the parts of a file if the two
have different ones. -/
def Response.Alike (boundary boundary' : Bytes) (x y : Response) : Prop :=
  x = y ∨ boundary ≠ boundary' ∧ y.status = 206

namespace Response.Alike

variable {boundary boundary' : Bytes} {x y : Response}

theorem named (alike : Alike boundary boundary' x y) (requestId : Bytes) :
    Alike boundary boundary' (x.named requestId) (y.named requestId) := by
  obtain rfl | ⟨apart, parts⟩ := alike
  · exact .inl rfl
  · exact .inr ⟨apart, parts⟩

private theorem eq (alike : Alike boundary boundary' x y)
    (whole : boundary = boundary' ∨ y.status ≠ 206) : x = y := by
  obtain equal | ⟨apart, parts⟩ := alike
  · exact equal
  · rcases whole with same | whole
    · exact absurd same apart
    · exact absurd parts whole

end Response.Alike

namespace Serve

open Response

variable {r : Request} {boundary boundary' name : Bytes} {f : File}

theorem file_alike :
    Alike boundary boundary' (file r boundary name f)
      (file r boundary' name f) := by
  by_cases same : boundary = boundary'
  · rw [same]
    exact .inl rfl
  · unfold file
    simp only
    split
    · exact .inl rfl
    · split
      · exact .inl rfl
      · split
        · exact .inl rfl
        · split
          · exact .inl rfl
          · split
            · exact .inl rfl
            · exact .inl rfl
            · exact .inr ⟨same, rfl⟩

private theorem document_alike :
    Alike boundary boundary' (document r boundary name f)
      (document r boundary' name f) := by
  unfold document
  split
  · exact .inl rfl
  · split
    · exact .inl rfl
    · exact file_alike

private theorem below?_alike {t : FileTree} {directory path : Bytes} :
    Option.Rel (Alike boundary boundary') (below? t directory path r boundary)
      (below? t directory path r boundary') := by
  unfold below?
  split
  next => exact .none
  next node found =>
    apply Option.Rel.some
    split
    · exact .inl rfl
    · split
      next f =>
        split
        · exact file_alike
        · exact .inl rfl
      next modified =>
        split
        · exact .inl rfl
        · split
          · exact file_alike
          · exact .inl rfl

end Serve

namespace Gateway

variable {g : Gateway} {r : Request} {a a' : Arrival}

theorem serveEntry_alike :
    Response.Alike a.boundary a'.boundary (g.serveEntry a r).outcome.response
      (g.serveEntry a' r).outcome.response := by
  simp only [serveEntry]
  split
  · exact .inl rfl
  · exact .inl rfl
  · exact Serve.document_alike

private theorem serveAsset_alike {path : Bytes} :
    Response.Alike a.boundary a'.boundary
      (g.serveAsset a r path).outcome.response
      (g.serveAsset a' r path).outcome.response := by
  have alike : Option.Rel (Response.Alike a.boundary a'.boundary)
      (Serve.below? g.files g.settings.staticDir path r a.boundary)
      (Serve.below? g.files g.settings.staticDir path r a'.boundary) :=
        Serve.below?_alike
  simp only [serveAsset]
  generalize Serve.below? g.files g.settings.staticDir path r a.boundary =
    found at alike
  generalize Serve.below? g.files g.settings.staticDir path r a'.boundary =
    found' at alike
  cases alike with
  | none => exact .inl rfl
  | some alike =>
      simp only
      split
      · exact alike
      · exact .inl rfl

private theorem serve_alike {metrics metrics' : Metrics} {v v' : Visit}
    (notHealth : r.isHealth = false) :
    Response.Alike a.boundary a'.boundary
      (g.serve metrics a v r).outcome.response
      (g.serve metrics' a' v' r).outcome.response := by
  have isModel (m : ModelRoute) (isFor : r.isFor m = true) :
      (g.serve metrics a v r).outcome = (g.serve metrics' a' v' r).outcome :=
    (leaves_serve isFor).outcome_eq.trans (leaves_serve isFor).outcome_eq.symm
  cases found : Route.find? r.method r.target.path with
  | none =>
      simp only [serve, found, serveRest]
      split
      · exact .inl rfl
      · exact serveEntry_alike
  | some route =>
      obtain ⟨isAnalysis, isPrompt⟩ := isFor_of_find? found
      cases route with
      | health => cases (Route.find?_eq_health_iff.1 found).symm.trans notHealth
      | analysis =>
          exact .inl (congrArg Outcome.response
            (isModel .analysis (isAnalysis rfl)))
      | prompt =>
          exact .inl (congrArg Outcome.response
            (isModel .prompt (isPrompt rfl)))
      | asset path =>
          simp only [serve, found]
          exact serveAsset_alike
      | entry =>
          simp only [serve, found]
          exact serveEntry_alike

private theorem answer_alike {metrics metrics' : Metrics} (named : r.BringsName)
    (notHealth : r.isHealth = false) :
    Response.Alike a.boundary a'.boundary (g.answer metrics a r).response
      (g.answer metrics' a' r).response := by
  unfold answer
  split
  · exact .inl rfl
  · rw [handle_response, handle_response, named.identity_eq, named.identity_eq]
    exact (serve_alike notHealth).named _

def marksOf (g : Gateway) (r : Request) : List (Bytes × EventKind) :=
  match [ModelRoute.analysis, .prompt].find? r.isFor with
  | some m => (g.access m).published m.path (g.course m r).kinds
  | none => []

end Gateway

theorem Served.marks_eq (x : Served) :
    x.marks = x.gateway.marksOf x.request := by
  unfold Gateway.marksOf
  split
  next m found =>
    exact (x.gateway.answer_follows (List.find?_some found)).marks_eq
  next nowhere =>
    have elsewhere : ∀ m, x.request.isFor m = false := by
      intro m
      have absent := List.find?_eq_none.1 nowhere m (by cases m <;> simp)
      simpa using absent
    rw [marks, exchange, Gateway.answer_events_of_elsewhere elsewhere]
    rfl

namespace Gateway

variable {g : Gateway}

private theorem healthDocument_of_perm {m m' : Metrics} {now : Instant}
    (distinct : m.Distinct) (perm : m.Perm m') :
    g.healthDocument now m = g.healthDocument now m' := by
  rw [healthDocument, healthDocument, perm.isEmpty_eq,
    Metrics.document_of_perm distinct perm]

end Gateway

namespace Activity

variable {s : Server} {w w' : Activity}

theorem published_eq {g : Gateway} (steady : ∀ x ∈ w.served, x.gateway = g) :
    w.published = (w.served.map Served.request).flatMap g.marksOf := by
  rw [published, List.flatMap_map]
  apply List.flatMap_congr
  intro x member
  rw [x.marks_eq, steady x member]

private theorem untimed_perm_of_requests {g : Gateway}
    (fresh : s.metrics = [])
    (run : Run ⟨s, [], []⟩ w) (run' : Run ⟨s, [], []⟩ w')
    (settled : w.pending = [])
    (settled' : w'.pending = [])
    (steady : ∀ x ∈ w.served, x.gateway = g)
    (steady' : ∀ x ∈ w'.served, x.gateway = g)
    (perm : (w.served.map Served.request).Perm (w'.served.map Served.request)) :
    w.server.metrics.untimed.Perm w'.server.metrics.untimed := by
  have told : (s.listeners.announce w.published).Perm
      (s.listeners.announce w'.published) := by
    rw [published_eq steady, published_eq steady']
    exact (perm.flatMap_right _).flatMap_right _
  have counted :
      ((s.listeners.announce w.published).foldl Metrics.receive []).Perm
      ((s.listeners.announce w'.published).foldl Metrics.receive []) :=
        Metrics.foldl_perm List.nodup_nil told
  exact (run.untimed_perm fresh settled).trans
    (counted.trans (run'.untimed_perm fresh settled').symm)

end Activity

namespace Server

/-- The server as it would be if no request had taken any time. -/
def untimed (s : Server) : Server :=
  { s with metrics := s.metrics.untimed }

private theorem untimed_response_eq {s s' : Server} {a : Arrival} {r : Request}
    (gateway_eq : s.gateway = s'.gateway)
    (shows_eq : s.showsMetrics = s'.showsMetrics)
    (distinct : s.metrics.Distinct)
    (perm : s.metrics.untimed.Perm s'.metrics.untimed)
    (isHealth : r.isHealth = true) :
    (s.untimed.step a r).2.response = (s'.untimed.step a r).2.response := by
  change (s.gateway.answer (if s.showsMetrics then s.metrics.untimed else []) a
    r).response = (s'.gateway.answer
    (if s'.showsMetrics then s'.metrics.untimed else []) a r).response
  rw [Gateway.answer_response_of_isHealth isHealth,
    Gateway.answer_response_of_isHealth isHealth, gateway_eq, shows_eq]
  cases s'.showsMetrics with
  | false => rfl
  | true =>
      simp only [if_true]
      rw [Gateway.healthDocument_of_perm
        (Metrics.distinct_untimed distinct) perm]

/-- Requests that bring their names are answered as if they were the first.
Which requests there were shows in the state of the gateway, but not in which
order. -/
theorem requests_do_not_interfere (s : Server) (w : Activity)
    (fresh : s.metrics = [])
    (run : Activity.RunAmong (· = s.gateway) ⟨s, [], []⟩ w) :
    (∀ (a a' : Arrival) (r : Request), r.BringsName → r.isHealth = false →
        a.boundary = a'.boundary ∨ (s.step a' r).2.response.status ≠ 206 →
        (w.server.step a r).2.response = (s.step a' r).2.response) ∧
      ∀ (w' : Activity) (a : Arrival) (r : Request),
        Activity.RunAmong (· = s.gateway) ⟨s, [], []⟩ w' →
        w.pending = [] → w'.pending = [] →
        (w.served.map Served.request).Perm (w'.served.map Served.request) →
        r.isHealth = true →
        (w.server.untimed.step a r).2.response =
          (w'.server.untimed.step a r).2.response := by
  obtain ⟨gateway_eq, steady⟩ := run.among (Activity.among_fresh rfl)
  constructor
  · intro a a' r named notHealth whole
    change (w.server.gateway.answer _ a r).response = _
    rw [gateway_eq]
    exact (Gateway.answer_alike named notHealth).eq whole
  · intro w' a r run' settled settled' perm isHealth
    obtain ⟨gateway_eq', steady'⟩ := run'.among (Activity.among_fresh rfl)
    have same := Activity.untimed_perm_of_requests fresh run.run run'.run
      settled settled' steady steady' perm
    have distinct : w.server.metrics.Distinct := by
      apply run.run.distinct
      rw [fresh]
      exact List.nodup_nil
    apply untimed_response_eq (gateway_eq.trans gateway_eq'.symm) _ distinct
      same isHealth
    exact run.run.showsMetrics_eq.trans run'.run.showsMetrics_eq.symm

def signed : Request :=
  { greeting with headers := [("X-Request-Id", "a")] }

def look : Request where
  method := "GET"
  target := ⟨"/health", "/health", none⟩

def early : Arrival := ⟨"10.0.0.1", "b", [], Instant.zero, 5⟩

def late : Arrival :=
  ⟨"10.0.0.2", "c", [], { Instant.zero with year := 2025 }, 7⟩

theorem greeting_and_blot_do_not_interfere :
    (([(early, blot), (late, signed)].foldl Activity.visit
      ⟨echoing, [], []⟩).server.step late signed).2.response =
      (echoing.step early signed).2.response ∧
      (([(early, blot), (late, signed)].foldl Activity.visit
        ⟨echoing, [], []⟩).server.untimed.step late look).2.response =
        (([(late, signed), (late, blot)].foldl Activity.visit
          ⟨echoing, [], []⟩).server.untimed.step
          late look).2.response := by
  have run (visits : List (Arrival × Request)) :
      Activity.RunAmong (· = echoing.gateway) ⟨echoing, [], []⟩
        (visits.foldl Activity.visit ⟨echoing, [], []⟩) :=
    runAmong_of_visits (P := (· = echoing.gateway)) echoing rfl [] visits
  obtain ⟨alone, together⟩ :=
    requests_do_not_interfere echoing _
      rfl (run [(early, blot), (late, signed)])
  refine ⟨alone late early signed ⟨by decide, by decide⟩ rfl (.inl rfl), ?_⟩
  exact together _ late look (run [(late, signed), (late, blot)])
    rfl rfl (.swap ..) rfl

end Server

end ModelGateway
