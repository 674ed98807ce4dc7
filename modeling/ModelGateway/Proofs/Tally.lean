import Mathlib.Data.List.Nodup
import Mathlib.Data.List.Perm.Basic
import ModelGateway.Proofs.Delivery

/-!
The counters as a tally. They do not depend on the order in which events reach
them, and without the time that requests took they depend on nothing but what
was published.
-/

namespace ModelGateway

namespace Bytes

theorem le_total (s t : Bytes) : (le s t || le t s) = true := by
  induction s generalizing t with
  | nil => rfl
  | cons a s induction =>
      cases t with
      | nil => rfl
      | cons b t =>
          by_cases equal : a = b
          · subst equal
            simpa [le] using induction t
          · rcases UInt8.lt_or_lt_of_ne equal with less | greater
            · simp [le, less]
            · simp [le, greater]

theorem le_trans (s t u : Bytes)
    (first : le s t = true) (second : le t u = true) : le s u = true := by
  induction s generalizing t u with
  | nil => rfl
  | cons a s induction =>
      match t, u with
      | [], _ => cases first
      | _ :: _, [] => cases second
      | b :: t, c :: u =>
          simp only [le, Bool.or_eq_true, Bool.and_eq_true, decide_eq_true_eq,
            beq_iff_eq] at first second ⊢
          rcases first with less | ⟨rfl, first⟩
          · rcases second with less' | ⟨rfl, -⟩
            · exact .inl (UInt8.lt_trans less less')
            · exact .inl less
          · rcases second with less' | ⟨rfl, second⟩
            · exact .inl less'
            · exact .inr ⟨rfl, induction t u first second⟩

theorem le_antisymm {s t : Bytes}
    (first : le s t = true) (second : le t s = true) : s = t := by
  induction s generalizing t with
  | nil =>
      cases t with
      | nil => rfl
      | cons b t => cases second
  | cons a s induction =>
      cases t with
      | nil => cases first
      | cons b t =>
          simp only [le, Bool.or_eq_true, Bool.and_eq_true, decide_eq_true_eq,
            beq_iff_eq] at first second
          rcases first with less | ⟨rfl, first⟩
          · rcases second with greater | ⟨rfl, -⟩
            · exact absurd greater (UInt8.lt_asymm less)
            · exact absurd less (UInt8.lt_irrefl _)
          · rcases second with less | ⟨-, second⟩
            · exact absurd less (UInt8.lt_irrefl _)
            · rw [induction first second]

end Bytes

private theorem Fields.sorted_of_perm {fields fields' : Fields Bytes}
    (distinct : fields.keys.Nodup) (perm : fields.Perm fields') :
    fields.sorted = fields'.sorted := by
  have ordered (fields : Fields Bytes) :
      List.Pairwise (fun a b => Bytes.le a.1 b.1 = true) fields.sorted :=
    List.pairwise_mergeSort (fun a b c => Bytes.le_trans a.1 b.1 c.1)
      (fun a b => Bytes.le_total a.1 b.1) fields
  have sorted_perm (fields : Fields Bytes) : fields.sorted.Perm fields :=
    List.mergeSort_perm fields _
  refine List.Perm.eq_of_pairwise ?_ (ordered fields) (ordered fields')
    ((sorted_perm fields).trans (perm.trans (sorted_perm fields').symm))
  intro a b member member' first second
  have inside := (sorted_perm fields).mem_iff.1 member
  have inside' := perm.mem_iff.2 ((sorted_perm fields').mem_iff.1 member')
  exact List.inj_on_of_nodup_map distinct inside inside'
    (Bytes.le_antisymm first second)

namespace RouteCounts

theorem add_right_comm (c : RouteCounts) (e e' : Event) :
    (c.add e).add e' = (c.add e').add e := by
  simp only [add]
  cases e.kind <;> cases e'.kind <;>
    simp [Int.bmod_add_bmod, Int.add_right_comm]

/-- The counters without the time that requests took. -/
def untimed (c : RouteCounts) : RouteCounts :=
  { c with total := 0 }

end RouteCounts

def Event.ofMark (mark : Bytes × EventKind) : Event where
  kind := mark.2
  route := mark.1

theorem RouteCounts.untimed_add (c : RouteCounts) (e : Event) :
    (c.add e).untimed = c.untimed.add (.ofMark e.mark) := by
  simp only [add, Event.ofMark, Event.mark]
  cases e.kind <;> rfl

namespace Metrics

variable {m m' : Metrics} {e : Event} {route : Bytes}
    {d : Publisher.Delivery Listener}
  {sent sent' : List (Publisher.Delivery Listener)}

def Distinct (m : Metrics) : Prop :=
  (m.map Prod.fst).Nodup

private theorem keys_observe :
    (m.observe e).map Prod.fst =
      if e.route ∈ m.map Prod.fst then m.map Prod.fst
      else m.map Prod.fst ++ [e.route] := by
  induction m with
  | nil => rfl
  | cons entry rest induction =>
      rw [List.map_cons]
      by_cases here : entry.1 = e.route
      · simp [observe, here]
      · by_cases later : e.route ∈ rest.map Prod.fst
        · rw [if_pos later] at induction
          simp [observe, here, induction, List.mem_map.1 later]
        · rw [if_neg later] at induction
          rw [if_neg (List.not_mem_cons_of_ne_of_not_mem (Ne.symm here) later)]
          simp [observe, here, induction]

theorem distinct_observe (distinct : m.Distinct) (e : Event) :
    (m.observe e).Distinct := by
  rw [Distinct, keys_observe]
  split
  next => exact distinct
  next absent =>
    rw [← List.concat_eq_append]
    exact List.Nodup.concat absent distinct

theorem distinct_receive (distinct : m.Distinct)
    (d : Publisher.Delivery Listener) : (m.receive d).Distinct := by
  obtain ⟨subscriber, event⟩ := d
  cases subscriber with
  | counters => exact distinct_observe distinct event
  | log => exact distinct

theorem distinct_foldl (distinct : m.Distinct)
    (sent : List (Publisher.Delivery Listener)) :
    (sent.foldl receive m).Distinct := by
  induction sent generalizing m with
  | nil => exact distinct
  | cons d rest induction => exact induction (distinct_receive distinct d)

theorem mem_iff (distinct : m.Distinct) {counts : RouteCounts} :
    (route, counts) ∈ m ↔ m.get? route = some counts := by
  induction m with
  | nil => simp [get?]
  | cons entry rest induction =>
      obtain ⟨name, held⟩ := entry
      obtain ⟨absent, distinct⟩ := List.nodup_cons.1 distinct
      by_cases here : name = route
      · subst here
        have elsewhere : (name, counts) ∉ rest :=
          fun member => absent (List.mem_map.2 ⟨_, member, rfl⟩)
        simp [get?, elsewhere, eq_comm]
      · simp [get?, here, Ne.symm here, induction distinct]

theorem perm_of_get? (distinct : m.Distinct) (distinct' : m'.Distinct)
    (same : ∀ route, m.get? route = m'.get? route) : m.Perm m' := by
  apply (List.perm_ext_iff_of_nodup (List.Nodup.of_map _ distinct)
    (List.Nodup.of_map _ distinct')).2
  rintro ⟨route, counts⟩
  rw [mem_iff distinct, mem_iff distinct', same]

theorem document_of_perm (distinct : m.Distinct) (perm : m.Perm m') :
    m.document = m'.document := by
  have keys : Fields.keys (m.map fun entry => (entry.1, entry.2.document)) =
      m.map Prod.fst := by
    rw [Fields.keys, List.map_map]
    rfl
  unfold document
  rw [Fields.sorted_of_perm (keys ▸ distinct) (perm.map _)]

def tally (route : Bytes) (counts : Option RouteCounts)
    (d : Publisher.Delivery Listener) : Option RouteCounts :=
  if d.subscriber = .counters ∧ d.event.route = route then
    some ((counts.getD {}).add d.event) else counts

private theorem get?_receive :
    (m.receive d).get? route = tally route (m.get? route) d := by
  obtain ⟨subscriber, event⟩ := d
  cases subscriber with
  | counters => simp [receive, tally, get?_observe, counts]
  | log => simp [receive, tally]

theorem get?_foldl :
    (sent.foldl receive m).get? route =
      sent.foldl (tally route) (m.get? route) := by
  symm
  apply List.foldl_hom
  intro m d
  exact get?_receive.symm

private theorem tally_right_comm (route : Bytes) (counts : Option RouteCounts)
    (d d' : Publisher.Delivery Listener) :
    tally route (tally route counts d) d' =
      tally route (tally route counts d') d := by
  unfold tally
  by_cases first : d.subscriber = .counters ∧ d.event.route = route <;>
    by_cases second : d'.subscriber = .counters ∧ d'.event.route = route <;>
      simp [first, second, RouteCounts.add_right_comm]

theorem foldl_perm (distinct : m.Distinct) (perm : sent.Perm sent') :
    (sent.foldl receive m).Perm (sent'.foldl receive m) := by
  apply perm_of_get? (distinct_foldl distinct sent)
    (distinct_foldl distinct sent')
  intro route
  rw [get?_foldl, get?_foldl]
  apply perm.foldl_eq'
  intro d _ d' _ counts
  exact tally_right_comm route counts d d'

def untimed (m : Metrics) : Metrics :=
  m.map fun entry => (entry.1, entry.2.untimed)

theorem distinct_untimed (distinct : m.Distinct) : m.untimed.Distinct := by
  rw [Distinct, untimed, List.map_map]
  exact distinct

private theorem untimed_observe (m : Metrics) (e : Event) :
    (m.observe e).untimed = m.untimed.observe (.ofMark e.mark) := by
  have route_eq : (Event.ofMark e.mark).route = e.route := rfl
  induction m with
  | nil =>
      simp only [observe, untimed, List.map_cons, List.map_nil,
        RouteCounts.untimed_add]
      rfl
  | cons entry rest induction =>
      unfold untimed at induction ⊢
      by_cases here : entry.1 = e.route
      · simp [observe, here, route_eq, RouteCounts.untimed_add]
      · simp [observe, here, route_eq, induction]

end Metrics

namespace Publisher

def Delivery.bare (d : Delivery Listener) : Delivery Listener :=
  ⟨d.subscriber, .ofMark d.event.mark⟩

def announce (listeners : Publisher Listener)
    (marks : List (Bytes × EventKind)) :
    List (Delivery Listener) :=
  marks.flatMap fun mark => listeners.subscribers.map (⟨·, .ofMark mark⟩)

private theorem bare_notify (listeners : Publisher Listener) (now : Instant)
    (events : List Event) :
    (events.flatMap fun e => listeners.notify now e).map Delivery.bare =
      listeners.announce (events.map Event.mark) := by
  rw [announce, List.map_flatMap, List.flatMap_map]
  congr 1
  funext e
  rw [notify, List.map_map]
  rfl

end Publisher

namespace Metrics

private theorem untimed_receive (m : Metrics)
    (d : Publisher.Delivery Listener) :
    (m.receive d).untimed = m.untimed.receive d.bare := by
  obtain ⟨subscriber, event⟩ := d
  cases subscriber with
  | counters => exact untimed_observe m event
  | log => rfl

private theorem untimed_foldl (sent : List (Publisher.Delivery Listener))
    (m : Metrics) :
    (sent.foldl receive m).untimed =
      (sent.map Publisher.Delivery.bare).foldl receive m.untimed := by
  induction sent generalizing m with
  | nil => rfl
  | cons d rest induction =>
      rw [List.foldl_cons, induction, untimed_receive]
      rfl

end Metrics

def Served.sent (listeners : Publisher Listener) (x : Served) :
    List (Publisher.Delivery Listener) :=
  x.exchange.trace.events.flatMap fun e => listeners.notify x.arrival.now e

namespace Activity

variable {s : Server} {w next : Activity} {metrics : Metrics}

/-- The counters heard of some of what was sent, each of it once, and the rest
is under way. -/
def Heard (metrics : Metrics) (w : Activity) : Prop :=
  ∃ handled, w.server.metrics = handled.foldl Metrics.receive metrics ∧
    (handled ++ w.pending).Perm
      (w.served.flatMap (Served.sent w.server.listeners))

theorem Step.heard (step : Step w next) (heard : w.Heard metrics) :
    next.Heard metrics := by
  obtain ⟨handled, metrics_eq, perm⟩ := heard
  cases step with
  | serve _ a r =>
      refine ⟨handled, metrics_eq, ?_⟩
      simp only [Activity.serve, List.flatMap_append, List.flatMap_singleton]
      rw [← List.append_assoc]
      exact perm.append_right _
  | @handle server before after served d =>
      refine ⟨handled ++ [d], ?_, ?_⟩
      · rw [List.foldl_append, ← metrics_eq]
        rfl
      · have moved : (handled ++ [d] ++ (before ++ after)).Perm
            (handled ++ (before ++ d :: after)) := by
          rw [List.append_assoc, List.singleton_append]
          exact List.perm_middle.symm.append_left handled
        exact moved.trans perm
  | turn _ generator => exact ⟨handled, metrics_eq, perm⟩

theorem Run.heard (run : Run w next) (heard : w.Heard metrics) :
    next.Heard metrics := by
  induction run with
  | refl => exact heard
  | tail _ step induction => exact step.heard induction

private theorem bare_sent (listeners : Publisher Listener)
    (served : List Served) :
    (served.flatMap (Served.sent listeners)).map Publisher.Delivery.bare =
      listeners.announce (served.flatMap Served.marks) := by
  induction served with
  | nil => rfl
  | cons x rest induction =>
      rw [List.flatMap_cons, List.map_append, induction, Served.sent,
        Publisher.bare_notify, List.flatMap_cons]
      exact (List.flatMap_append ..).symm

theorem Run.distinct (run : Run w next) (distinct : w.server.metrics.Distinct) :
    next.server.metrics.Distinct := by
  induction run with
  | refl => exact distinct
  | tail _ step induction =>
      cases step with
      | serve _ a r => exact induction
      | handle d => exact Metrics.distinct_receive induction d
      | turn _ generator => exact induction

/-- Once everything is handled, the counters are those of what was published. -/
theorem Run.untimed_perm (fresh : s.metrics = [])
    (run : Run ⟨s, [], []⟩ w)
    (settled : w.pending = []) :
    w.server.metrics.untimed.Perm
      ((s.listeners.announce w.published).foldl Metrics.receive []) := by
  have start : (Activity.mk s [] []).Heard [] := ⟨[], fresh, .refl _⟩
  obtain ⟨handled, metrics_eq, perm⟩ := run.heard start
  rw [settled, List.append_nil] at perm
  have bare := perm.map Publisher.Delivery.bare
  rw [bare_sent, run.listeners_eq] at bare
  rw [metrics_eq, Metrics.untimed_foldl]
  exact Metrics.foldl_perm List.nodup_nil bare

end Activity

end ModelGateway
