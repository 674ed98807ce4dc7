import Mathlib.Algebra.Order.BigOperators.Group.List
import Mathlib.Algebra.Order.Ring.Int
import Mathlib.Data.List.Induction
import ModelGateway.Proofs.Rounding
import ModelGateway.Proofs.Tally

namespace ModelGateway

namespace Event

def onRoute (route : Bytes) (events : List Event) : List Event :=
  events.filter (·.route = route)

def times (events : List Event) : List Int :=
  (events.filter (·.kind = .completed)).map (·.elapsed)

/-- The average time of a completed request in whole microseconds. The times add
up in a word of sixty-four bits, and division goes toward zero. -/
def averageMicros (events : List Event) : Int :=
  Int.tdiv (Int.tdiv (Int.bmod (times events).sum 0x10000000000000000)
    (times events).length) 1000

private theorem onRoute_concat (route : Bytes) (events : List Event)
    (e : Event) :
    onRoute route (events ++ [e]) = onRoute route events ++
      if e.route = route then [e] else [] := by
  unfold onRoute
  rw [List.filter_append, List.filter_singleton]
  by_cases same : e.route = route <;> simp [same]

private theorem times_concat (events : List Event) (e : Event) :
    times (events ++ [e]) = times events ++ if e.kind = .completed then
      [e.elapsed] else [] := by
  unfold times
  rw [List.filter_append, List.map_append, List.filter_singleton]
  by_cases completed : e.kind = .completed <;> simp [completed]

end Event

namespace RouteCounts

/-- What the events of one route add up to. -/
def census (events : List Event) : RouteCounts where
  started := events.countP (·.kind = .started)
  completed := events.countP (·.kind = .completed)
  failed := events.countP (·.kind = .failed)
  rejected := events.countP (·.kind = .rejected)
  total := Int.bmod (Event.times events).sum 0x10000000000000000

private theorem census_concat (events : List Event) (e : Event) :
    census (events ++ [e]) = (census events).add e := by
  unfold census add
  simp only [List.countP_append, Event.times_concat]
  cases kind : e.kind <;> simp [kind, Int.bmod_add_bmod]

private theorem census_of_perm {events events' : List Event}
    (perm : events.Perm events') :
    census events = census events' := by
  have times : (Event.times events).sum = (Event.times events').sum :=
    ((perm.filter _).map _).sum_eq
  simp only [census, times, perm.countP_eq]

private theorem completed_census (events : List Event) :
    (census events).completed = (Event.times events).length := by
  simp [census, Event.times, List.countP_eq_length_filter]

private theorem averageMicros_census (events : List Event) :
    (census events).averageMicros = Event.averageMicros events := by
  unfold averageMicros Event.averageMicros
  rw [completed_census]
  split
  next none =>
    rw [eq_of_beq none]
    simp
  next => rfl

/-- The average in milliseconds, as doubles are divided: the microseconds become
a double first. -/
def IsMillis (micros : Int) (average : Binary) : Prop :=
  ∃ x, Format.double.IsNearest micros x ∧
    Format.double.IsNearest (x.value / 1000) average

private theorem IsMillis.isNearest {micros : Int} {average : Binary}
    (isMillis : IsMillis micros average) (short : micros.natAbs < 2 ^ 53) :
    Format.double.IsNearest (micros / 1000) average := by
  obtain ⟨x, nearest, divided⟩ := isMillis
  obtain ⟨y, holds, same⟩ := Format.exists_double short
  rwa [nearest.value_eq holds same] at divided

private theorem isMillis_averageMillis {c : RouteCounts}
    (small : |c.averageMicros| ≤ 2 ^ 63) :
    IsMillis c.averageMicros c.averageMillis := by
  obtain ⟨x, whole, nearest⟩ := Format.isNearest_ofInt small
  have bound : |x.value| ≤ 2 ^ 64 := by
    have small' : |(c.averageMicros : ℚ)| ≤ 2 ^ 63 := by exact_mod_cast small
    have twice := nearest.abs_value_le
    linarith
  obtain ⟨y, rounds, divided⟩ := x.isNearest_div bound
  have shown : c.averageMillis = y := by
    simp only [averageMillis, whole, rounds]
  rw [shown]
  exact ⟨x, nearest, divided⟩

end RouteCounts

namespace Event

variable {events : List Event}

private theorem abs_averageMicros_le (events : List Event) :
    |averageMicros events| ≤ 2 ^ 63 := by
  have lower := Int.le_bmod (x := (times events).sum) (m := 0x10000000000000000)
    (by decide)
  have upper := Int.bmod_lt (x := (times events).sum) (m := 0x10000000000000000)
    (by decide)
  unfold averageMicros
  generalize Int.bmod _ _ = total at *
  have smaller (n d : Int) : (Int.tdiv n d).natAbs ≤ n.natAbs := by
    rw [Int.natAbs_tdiv]
    exact Nat.div_le_self _ _
  have first := smaller total (times events).length
  have second := smaller (Int.tdiv total (times events).length) 1000
  rw [Int.abs_eq_natAbs]
  omega

private theorem averageMicros_of_none (none : times events = []) :
    averageMicros events = 0 := by
  rw [averageMicros, none]
  rfl

theorem averageMicros_eq (nonneg : ∀ t ∈ times events, 0 ≤ t)
    (bound : (times events).sum < 2 ^ 63) :
    averageMicros events =
      (times events).sum / (times events).length / 1000 := by
  have sum_nonneg : 0 ≤ (times events).sum := List.sum_nonneg nonneg
  have total : Int.bmod (times events).sum 0x10000000000000000 =
      (times events).sum := by
    apply Int.bmod_eq_of_le_mul_two
    · omega
    · omega
  rw [averageMicros, total, Int.tdiv_eq_ediv_of_nonneg sum_nonneg,
    Int.tdiv_eq_ediv_of_nonneg]
  exact Int.ediv_nonneg sum_nonneg (Int.natCast_nonneg _)

private theorem averageMicros_between {least most : Int}
    (nonneg : ∀ t ∈ times events, 0 ≤ t) (bound : (times events).sum < 2 ^ 63)
    (isLeast : (times events).min? = some least)
    (isMost : (times events).max? = some most) :
    least / 1000 ≤ averageMicros events ∧
      averageMicros events ≤ most / 1000 := by
  obtain ⟨member, least_le⟩ := List.min?_eq_some_iff.1 isLeast
  obtain ⟨-, le_most⟩ := List.max?_eq_some_iff.1 isMost
  have lower : (times events).length * least ≤ (times events).sum := by
    simpa using List.card_nsmul_le_sum _ least least_le
  have upper : (times events).sum ≤ (times events).length * most := by
    simpa using List.sum_le_card_nsmul _ most le_most
  have positive : (0 : Int) < (times events).length := by
    exact_mod_cast List.length_pos_of_mem member
  rw [averageMicros_eq nonneg bound]
  constructor
  · apply Int.ediv_le_ediv (by decide)
    rwa [Int.le_ediv_iff_mul_le positive, Int.mul_comm]
  · apply Int.ediv_le_ediv (by decide)
    apply Int.ediv_le_of_le_mul positive
    rwa [Int.mul_comm]

end Event

namespace Metrics

variable {events events' : List Event} {route : Bytes}

theorem observeAll_concat (events : List Event) (e : Event) (m : Metrics) :
    observeAll (events ++ [e]) m = (observeAll events m).observe e := by
  rw [observeAll, List.foldl_append]
  rfl

theorem distinct_observeAll (events : List Event) :
    (observeAll events []).Distinct := by
  induction events using List.reverseRecOn with
  | nil => exact List.nodup_nil
  | append_singleton events e induction =>
      rw [observeAll_concat]
      exact distinct_observe induction e

private theorem counts_observeAll (events : List Event) (route : Bytes) :
    (observeAll events []).counts route =
      RouteCounts.census (Event.onRoute route events) := by
  induction events using List.reverseRecOn with
  | nil => rfl
  | append_singleton events e induction =>
      rw [observeAll_concat, counts_observe, induction, Event.onRoute_concat]
      split
      next => rw [RouteCounts.census_concat]
      next => rw [List.append_nil]

private theorem get?_observeAll_eq_none_iff :
    (observeAll events []).get? route = none ↔
      ∀ e ∈ events, e.route ≠ route := by
  induction events using List.reverseRecOn with
  | nil => simp [observeAll, get?]
  | append_singleton events e induction =>
      rw [observeAll_concat, get?_observe]
      by_cases same : e.route = route
      · simp [same]
      · simp [same, induction, or_imp, forall_and]

theorem get?_observeAll {counts : RouteCounts} :
    (observeAll events []).get? route = some counts ↔
      (∃ e ∈ events, e.route = route) ∧
        counts = RouteCounts.census (Event.onRoute route events) := by
  have held := counts_observeAll events route
  have absent := @get?_observeAll_eq_none_iff events route
  cases found : (observeAll events []).get? route with
  | none =>
      rw [found] at absent
      have unnamed : ¬ ∃ e ∈ events, e.route = route := by simpa using absent
      simp only [unnamed, false_and, reduceCtorEq]
  | some here =>
      rw [found] at absent
      have named : ∃ e ∈ events, e.route = route := by simpa using absent
      rw [Metrics.counts, found, Option.getD_some] at held
      rw [← held, Option.some.injEq]
      exact ⟨fun same => ⟨named, same.symm⟩, fun both => both.2.symm⟩

theorem get?_observeAll_congr
    (named : (∃ e ∈ events, e.route = route) ↔ ∃ e ∈ events', e.route = route)
    (same : RouteCounts.census (Event.onRoute route events) =
      RouteCounts.census (Event.onRoute route events')) :
    (observeAll events []).get? route = (observeAll events' []).get? route := by
  apply Option.ext
  intro counts
  rw [get?_observeAll, get?_observeAll, named, same]

private theorem get?_observeAll_of_perm (perm : events.Perm events')
    (route : Bytes) :
    (observeAll events []).get? route = (observeAll events' []).get? route := by
  apply get?_observeAll_congr
  · simp only [perm.mem_iff]
  · exact RouteCounts.census_of_perm (perm.filter _)

private theorem get?_observeAll_of_onRoute
    (same : Event.onRoute route events = Event.onRoute route events') :
    (observeAll events []).get? route = (observeAll events' []).get? route := by
  have named (events : List Event) : (∃ e ∈ events, e.route = route) ↔
      Event.onRoute route events ≠ [] := by
    simp [Event.onRoute]
  apply get?_observeAll_congr
  · rw [named, named, same]
  · rw [same]

theorem mem_shown {m : Metrics} (distinct : m.Distinct) {d : Document} :
    (route, d) ∈ Fields.sorted (m.map fun (route, counts) =>
      (route, counts.document)) ↔
      ∃ counts, m.get? route = some counts ∧ d = counts.document := by
  rw [Fields.sorted, (List.mergeSort_perm _ _).mem_iff, List.mem_map]
  constructor
  · rintro ⟨⟨route', counts⟩, member, same⟩
    cases same
    exact ⟨counts, (mem_iff distinct).1 member, rfl⟩
  · rintro ⟨counts, found, rfl⟩
    exact ⟨(route, counts), (mem_iff distinct).2 found, rfl⟩

private theorem shown_nodup {m : Metrics} (distinct : m.Distinct) :
    (Fields.keys (Fields.sorted (m.map fun (route, counts) =>
      (route, counts.document)))).Nodup := by
  have keys : (m.map fun (route, counts) => (route, counts.document)).map
      Prod.fst = m.map Prod.fst := by
    rw [List.map_map]
    rfl
  apply ((List.mergeSort_perm _ _).map Prod.fst).nodup_iff.2
  rw [keys]
  exact distinct

private theorem keys_shown {m : Metrics} :
    route ∈ Fields.keys (Fields.sorted
        (m.map fun (route, counts) => (route, counts.document))) ↔
      ∃ d, (route, d) ∈ Fields.sorted
        (m.map fun (route, counts) => (route, counts.document)) := by
  rw [Fields.keys, List.mem_map]
  constructor
  · rintro ⟨⟨_, d⟩, member, rfl⟩
    exact ⟨d, member⟩
  · rintro ⟨d, member⟩
    exact ⟨_, member, rfl⟩

/-- What is shown after some events is a census of them: an entry for each route
that they name, with the number of its events of each kind and the average time
of its completed requests in milliseconds. -/
theorem shown_as_counted (events : List Event) :
    (∃ shown, (observeAll events []).document = .object shown ∧
      (Fields.keys shown).Nodup ∧
      (∀ route, route ∈ Fields.keys shown ↔ ∃ e ∈ events, e.route = route) ∧
      ∀ route d, (route, d) ∈ shown →
        ∀ here, here = Event.onRoute route events → ∃ average : Binary,
          d = .object [
            ("started", Document.ofNat (here.countP (·.kind = .started))),
            ("completed", Document.ofNat (here.countP (·.kind = .completed))),
            ("failed", Document.ofNat (here.countP (·.kind = .failed))),
            ("rejected", Document.ofNat (here.countP (·.kind = .rejected))),
            ("avg_processing_time_ms",
              .number (average.write Binary.document .double))] ∧
          RouteCounts.IsMillis (Event.averageMicros here) average ∧
          ((Event.averageMicros here).natAbs < 2 ^ 53 →
            Format.double.IsNearest
              (Event.averageMicros here / 1000) average)) ∧
    (∀ events', events.Perm events' →
      (observeAll events []).document = (observeAll events' []).document ∧
      ∀ route, (observeAll events []).get? route =
        (observeAll events' []).get? route) ∧
    (∀ route events', Event.onRoute route events = Event.onRoute route events' →
      (observeAll events []).get? route = (observeAll events' []).get? route) ∧
    ∀ route times average, times = Event.times (Event.onRoute route events) →
      average = Event.averageMicros (Event.onRoute route events) →
        (times = [] → average = 0) ∧
        ((∀ t ∈ times, 0 ≤ t) → times.sum < 2 ^ 63 →
          average = times.sum / times.length / 1000 ∧
          ∀ least most, times.min? = some least → times.max? = some most →
            least / 1000 ≤ average ∧ average ≤ most / 1000) := by
  have distinct := distinct_observeAll events
  refine ⟨⟨_, rfl, shown_nodup distinct, ?_, ?_⟩, ?_, ?_, ?_⟩
  · intro route
    rw [keys_shown]
    constructor
    · rintro ⟨d, member⟩
      obtain ⟨counts, found, -⟩ := (mem_shown distinct).1 member
      exact (get?_observeAll.1 found).1
    · intro named
      exact ⟨_, (mem_shown distinct).2 ⟨_, get?_observeAll.2 ⟨named, rfl⟩, rfl⟩⟩
  · rintro route d member _ rfl
    obtain ⟨counts, found, rfl⟩ := (mem_shown distinct).1 member
    obtain ⟨-, rfl⟩ := get?_observeAll.1 found
    have micros := RouteCounts.averageMicros_census (Event.onRoute route events)
    have isMillis := RouteCounts.isMillis_averageMillis
      (micros ▸ Event.abs_averageMicros_le (Event.onRoute route events))
    rw [micros] at isMillis
    exact ⟨_, rfl, isMillis, isMillis.isNearest⟩
  · intro events' perm
    have same := get?_observeAll_of_perm perm
    exact ⟨document_of_perm distinct
      (perm_of_get? distinct (distinct_observeAll events') same), same⟩
  · intro route events' same
    exact get?_observeAll_of_onRoute same
  · rintro route _ _ rfl rfl
    refine ⟨Event.averageMicros_of_none, ?_⟩
    intro nonneg bound
    refine ⟨Event.averageMicros_eq nonneg bound, ?_⟩
    intro least most isLeast isMost
    exact Event.averageMicros_between nonneg bound isLeast isMost

def visits : List Event :=
  [{ kind := .completed, route := "/a", elapsed := 1999 },
    { kind := .other "paused", route := "/b" },
    { kind := .completed, route := "/a", elapsed := 3002 }]

theorem visits_shown_as_counted :
    (observeAll visits []).document = (observeAll visits.reverse []).document ∧
      Event.times (Event.onRoute "/a" visits) = [1999, 3002] ∧
        (1 : Int) ≤ Event.averageMicros (Event.onRoute "/a" visits) ∧
          Event.averageMicros (Event.onRoute "/a" visits) ≤ 3 := by
  obtain ⟨-, reordered, -, averaged⟩ := shown_as_counted visits
  obtain ⟨-, averaged⟩ := averaged "/a" [1999, 3002] _ (by decide) rfl
  obtain ⟨-, between⟩ := averaged (by decide) (by decide)
  exact ⟨(reordered _ (List.reverse_perm visits).symm).1, by decide,
    between 1999 3002 (by decide) (by decide)⟩

end Metrics

end ModelGateway
