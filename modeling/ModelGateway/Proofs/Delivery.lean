import Mathlib.Logic.Relation
import ModelGateway.Proofs.Course

/-!
A server at work. Requests are answered while notifications of earlier ones are
still under way, and these are handled in any order. What was counted and what
is under way always make up what was published.
-/

namespace ModelGateway

def EventKind.isKnown : EventKind → Bool
  | .other _ => false
  | _ => true

def RouteCounts.of (c : RouteCounts) : EventKind → Nat
  | .started => c.started
  | .completed => c.completed
  | .failed => c.failed
  | .rejected => c.rejected
  | .other _ => 0

private theorem RouteCounts.of_add {c : RouteCounts} {e : Event}
    {kind : EventKind} (known : kind.isKnown = true) :
    (c.add e).of kind = c.of kind + if e.kind = kind then 1 else 0 := by
  unfold add
  cases kind with
  | other name => cases known
  | started | completed | failed | rejected =>
      cases e.kind <;> simp [of]

namespace Metrics

variable {m : Metrics} {e : Event} {route : Bytes} {kind : EventKind}

def counts (m : Metrics) (route : Bytes) : RouteCounts :=
  (m.get? route).getD {}

theorem get?_observe :
    (m.observe e).get? route = if e.route = route then
      some ((m.counts route).add e) else m.get? route := by
  unfold counts
  induction m with
  | nil =>
      by_cases same : e.route = route <;> simp [observe, get?, same]
  | cons entry rest induction =>
      obtain ⟨name, held⟩ := entry
      by_cases here : name = e.route
      · by_cases same : e.route = route <;> simp [observe, get?, here, same]
      · by_cases named : name = route
        · have other : route ≠ e.route := by
            intro equal
            exact here (named.trans equal)
          simp [observe, get?, named, other, other.symm]
        · simpa [observe, get?, here, named] using induction

theorem counts_observe :
    (m.observe e).counts route = if e.route = route then (m.counts route).add e
      else m.counts route := by
  rw [counts, get?_observe]
  split <;> rfl

private theorem of_counts_observe (known : kind.isKnown = true) :
    ((m.observe e).counts route).of kind =
      (m.counts route).of kind + if e.mark = (route, kind) then 1 else 0 := by
  rw [counts_observe]
  by_cases same : e.route = route
  · rw [if_pos same, RouteCounts.of_add known]
    simp [Event.mark, same]
  · simp [Event.mark, same]

def receive (m : Metrics) (d : Publisher.Delivery Listener) : Metrics :=
  match d.subscriber with
  | .counters => m.observe d.event
  | .log => m

end Metrics

def Publisher.Delivery.counts (mark : Bytes × EventKind)
    (d : Publisher.Delivery Listener) : Bool :=
  d.subscriber == .counters && d.event.mark == mark

private theorem Metrics.of_counts_receive {m : Metrics}
    {d : Publisher.Delivery Listener} {route : Bytes} {kind : EventKind}
    (known : kind.isKnown = true) :
    ((m.receive d).counts route).of kind = (m.counts route).of kind +
      if d.counts (route, kind) then 1 else 0 := by
  obtain ⟨subscriber, event⟩ := d
  cases subscriber with
  | counters =>
      simpa [receive, Publisher.Delivery.counts] using of_counts_observe known
  | log => simp [receive, Publisher.Delivery.counts]

namespace Publisher

variable {listeners : Publisher Listener} {now : Instant}
    {mark : Bytes × EventKind}

private theorem countP_notify (e : Event) :
    (listeners.notify now e).countP (Delivery.counts mark) =
      listeners.subscribers.count .counters * if e.mark = mark then
        1 else 0 := by
  have stamped : (stamp now e).mark = e.mark := rfl
  unfold notify
  induction listeners.subscribers with
  | nil => simp
  | cons subscriber rest induction =>
      rw [List.map_cons, List.countP_cons, induction, List.count_cons,
        Nat.add_mul]
      cases subscriber <;> by_cases same : e.mark =
        mark <;> simp [Delivery.counts, stamped, same]

private theorem countP_flatMap_notify (events : List Event) :
    (events.flatMap fun e => listeners.notify now e).countP
      (Delivery.counts mark) =
      listeners.subscribers.count .counters *
        (events.map Event.mark).count mark := by
  induction events with
  | nil => rfl
  | cons e rest induction =>
      rw [List.flatMap_cons, List.countP_append, induction, countP_notify,
        List.map_cons, List.count_cons, Nat.mul_add, Nat.add_comm]
      simp

end Publisher

namespace Gateway

def through (g : Gateway) (generator : Option Generator) : Gateway :=
  { g with
    analysis :=
      { g.analysis with access := { g.analysis.access with generator } }
    prompts :=
      { g.prompts with access := { g.prompts.access with generator } } }

def Publishing (g : Gateway) : Prop :=
  ∀ m, (g.access m).publishing = true

theorem Publishing.through {g : Gateway} (publishing : g.Publishing)
    (generator : Option Generator) :
    (g.through generator).Publishing := by
  intro m
  cases m with
  | analysis => exact publishing .analysis
  | prompt => exact publishing .prompt

end Gateway

structure Served where
  gateway : Gateway
  -- The counters that a look at the gateway's state would have shown.
  metrics : Metrics
  arrival : Arrival
  request : Request

namespace Served

def exchange (x : Served) : Exchange :=
  x.gateway.answer x.metrics x.arrival x.request

def marks (x : Served) : List (Bytes × EventKind) :=
  x.exchange.trace.events.map Event.mark

end Served

/-- A server, the notifications that are under way, and the requests that it
answered. -/
structure Activity where
  server : Server
  pending : List (Publisher.Delivery Listener) := []
  served : List Served := []

namespace Activity

def serve (w : Activity) (a : Arrival) (r : Request) : Activity :=
  let x : Served :=
    ⟨w.server.gateway, if w.server.showsMetrics then
      w.server.metrics else [], a, r⟩
  { w with
    pending := w.pending ++ x.exchange.trace.events.flatMap fun e =>
      w.server.listeners.notify a.now e
    served := w.served ++ [x] }

def visit (w : Activity) (visit : Arrival × Request) : Activity :=
  ⟨(w.server.step visit.1 visit.2).1, [], (w.serve visit.1 visit.2).served⟩

inductive Step : Activity → Activity → Prop
  -- A request is answered, and its events are sent to the listeners.
  | serve (w : Activity) (a : Arrival) (r : Request) : Step w (w.serve a r)
  -- A listener handles an event that was sent to it, be it the earliest or not.
  | handle {server : Server} {before after : List (Publisher.Delivery Listener)}
      {served : List Served}
      (d : Publisher.Delivery Listener) :
      Step ⟨server, before ++ d :: after, served⟩
        ⟨{ server with metrics := server.metrics.receive d },
          before ++ after, served⟩
  -- The generator may behave differently from now on.
  | turn (w : Activity) (generator : Option Generator) :
      Step w { w with server :=
        { w.server with gateway := w.server.gateway.through generator } }

abbrev Run : Activity → Activity → Prop := Relation.ReflTransGen Step

def published (w : Activity) : List (Bytes × EventKind) :=
  w.served.flatMap Served.marks

/-- What was counted and what is under way make up what was published, once for
each time that the counters listen. -/
def Balanced (w : Activity) : Prop :=
  ∀ route kind, kind.isKnown = true →
    (w.server.metrics.counts route).of kind +
      w.pending.countP (Publisher.Delivery.counts (route, kind)) =
      w.server.listeners.subscribers.count .counters *
      w.published.count (route, kind)

variable {w next : Activity}

theorem Step.balanced (step : Step w next) (balanced : w.Balanced) :
    next.Balanced := by
  intro route kind known
  have before := balanced route kind known
  cases step with
  | serve _ a r =>
      simp only [Activity.serve, published, List.countP_append,
        List.flatMap_append, List.count_append, Publisher.countP_flatMap_notify,
        Nat.mul_add] at before ⊢
      rw [← Nat.add_assoc, before]
      simp [Served.marks]
  | handle d =>
      simp only [published, List.countP_append, List.countP_cons] at before ⊢
      rw [Metrics.of_counts_receive known, ← before]
      omega
  | turn _ generator => exact before

theorem Run.balanced (run : Run w next) (balanced : w.Balanced) :
    next.Balanced := by
  induction run with
  | refl => exact balanced
  | tail _ step induction => exact step.balanced induction

private theorem balanced_fresh {s : Server} (fresh : s.metrics = []) :
    (Activity.mk s [] []).Balanced := by
  intro route kind known
  simp only [published, fresh]
  cases kind <;> rfl

theorem Run.published_eq {s : Server}
    (fresh : s.metrics = [])
    (run : Run ⟨s, [], []⟩ w)
    (settled : w.pending = [])
    {route : Bytes} {kind : EventKind}
    (known : kind.isKnown = true) :
    (w.server.metrics.counts route).of kind =
      w.server.listeners.subscribers.count .counters *
        w.published.count (route, kind) := by
  have balanced := run.balanced (balanced_fresh fresh) route kind known
  rw [settled, List.countP_nil, Nat.add_zero] at balanced
  exact balanced

theorem Run.listeners_eq (run : Run w next) :
    next.server.listeners = w.server.listeners := by
  induction run with
  | refl => rfl
  | tail _ step induction =>
      rw [← induction]
      cases step <;> rfl

theorem Run.showsMetrics_eq (run : Run w next) :
    next.server.showsMetrics = w.server.showsMetrics := by
  induction run with
  | refl => rfl
  | tail _ step induction =>
      rw [← induction]
      cases step <;> rfl

def StepAmong (P : Gateway → Prop) (w next : Activity) : Prop :=
  Step w next ∧ P next.server.gateway

/-- A run whose gateways are all of the kind. -/
abbrev RunAmong (P : Gateway → Prop) :
    Activity → Activity → Prop := Relation.ReflTransGen (StepAmong P)

theorem RunAmong.run {P : Gateway → Prop} (run : RunAmong P w next) :
    Run w next :=
  Relation.ReflTransGen.mono (fun _ _ (step : StepAmong P _ _) =>
    step.1) w next run

def Among (P : Gateway → Prop) (w : Activity) : Prop :=
  P w.server.gateway ∧ ∀ x ∈ w.served, P x.gateway

theorem among_fresh {P : Gateway → Prop} {s : Server} (kind : P s.gateway) :
    (Activity.mk s [] []).Among P := by
  refine ⟨kind, ?_⟩
  intro x member
  cases member

theorem StepAmong.among {P : Gateway → Prop} (step : StepAmong P w next)
    (among : w.Among P) : next.Among P := by
  obtain ⟨step, kind⟩ := step
  refine ⟨kind, ?_⟩
  cases step with
  | serve _ a r =>
      intro x member
      rcases List.mem_append.1 member with earlier | last
      · exact among.2 x earlier
      · rw [List.mem_singleton.1 last]
        exact kind
  | handle d => exact among.2
  | turn _ generator => exact among.2

theorem RunAmong.among {P : Gateway → Prop} (run : RunAmong P w next)
    (among : w.Among P) : next.Among P := by
  induction run with
  | refl => exact among
  | tail _ step induction => exact step.among induction

def Publishing (w : Activity) : Prop :=
  w.server.gateway.Publishing ∧ ∀ x ∈ w.served, x.gateway.Publishing

theorem Step.publishing (step : Step w next) (publishing : w.Publishing) :
    next.Publishing := by
  have kind : next.server.gateway.Publishing := by
    cases step with
    | serve _ a r => exact publishing.1
    | handle d => exact publishing.1
    | turn _ generator => exact publishing.1.through generator
  exact StepAmong.among ⟨step, kind⟩ publishing

theorem Run.publishing (run : Run w next) (publishing : w.Publishing) :
    next.Publishing := by
  induction run with
  | refl => exact publishing
  | tail _ step induction => exact step.publishing induction

end Activity

namespace Server

variable {s : Server} {listeners : Publisher Listener} {now : Instant}
    {metrics : Metrics}

private theorem hear_fst (e : Event) :
    (hear listeners now metrics e).1 =
      (listeners.notify now e).foldl Metrics.receive metrics := by
  unfold hear
  symm
  change List.foldl Metrics.receive
    (Prod.fst (metrics, ([] : List Log.Record))) _ = _
  apply List.foldl_hom Prod.fst
  intro heard d
  obtain ⟨subscriber, event⟩ := d
  cases subscriber with
  | counters => rfl
  | log => rfl

private theorem hearAll_fst (events : List Event) :
    (hearAll listeners now metrics events).1 =
      (events.flatMap fun e => listeners.notify now e).foldl Metrics.receive
        metrics := by
  induction events generalizing metrics with
  | nil => rfl
  | cons e rest induction =>
      rw [List.flatMap_cons, List.foldl_append, ← hear_fst, ← induction]
      rfl

section Among

variable {P : Gateway → Prop} (s : Server) (kind : P s.gateway)
    (served : List Served)

include kind

theorem runAmong_of_perm {pending order : List (Publisher.Delivery Listener)}
    (perm : pending.Perm order) :
    Activity.RunAmong P ⟨s, pending, served⟩
      ⟨{ s with metrics := order.foldl Metrics.receive s.metrics }, [],
        served⟩ := by
  induction order generalizing s pending with
  | nil =>
      rw [perm.eq_nil]
      exact .refl
  | cons d rest induction =>
      obtain ⟨before, after, rfl⟩ :=
        List.append_of_mem (perm.mem_iff.2 List.mem_cons_self)
      have others : (before ++ after).Perm rest :=
        (List.perm_middle.symm.trans perm).cons_inv
      exact .head ⟨.handle d, kind⟩
        (induction { s with metrics := s.metrics.receive d } kind others)

/-- Answering a request and hearing its events at once is one way for the server
to work. -/
theorem runAmong_of_step (a : Arrival) (r : Request) :
    Activity.RunAmong P ⟨s, [], served⟩
      ⟨(s.step a r).1, [], ((Activity.mk s [] served).serve a r).served⟩ := by
  have metrics_eq : (s.step a r).1 =
      { s with
        metrics := ((Activity.mk s [] served).serve a r).pending.foldl
          Metrics.receive s.metrics } := by
    simp only [step, Activity.serve, Served.exchange, List.nil_append]
    rw [← hearAll_fst]
  rw [metrics_eq]
  exact .head ⟨.serve _ a r, kind⟩ (runAmong_of_perm s kind _ (.refl _))

theorem runAmong_of_visits (visits : List (Arrival × Request)) :
    Activity.RunAmong P ⟨s, [], served⟩
      (visits.foldl Activity.visit ⟨s, [], served⟩) := by
  induction visits generalizing s served with
  | nil => exact .refl
  | cons visit rest induction =>
      obtain ⟨a, r⟩ := visit
      exact (runAmong_of_step s kind served a r).trans
        (induction (s.step a r).1 kind _)

end Among

theorem run_of_perm (s : Server)
    {pending order : List (Publisher.Delivery Listener)} (served : List Served)
    (perm : pending.Perm order) :
    Activity.Run ⟨s, pending, served⟩
      ⟨{ s with metrics := order.foldl Metrics.receive s.metrics },
        [], served⟩ :=
  (runAmong_of_perm (P := fun _ => True) s trivial served perm).run

theorem run_of_step (s : Server) (a : Arrival) (r : Request)
    (served : List Served) :
    Activity.Run ⟨s, [], served⟩
      ⟨(s.step a r).1, [], ((Activity.mk s [] served).serve a r).served⟩ :=
  (runAmong_of_step (P := fun _ => True) s trivial served a r).run

end Server

end ModelGateway
