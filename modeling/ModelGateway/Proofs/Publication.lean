import Mathlib.Data.List.Induction
import Mathlib.Logic.Relation
import ModelGateway.Event.Publisher

/-!
A publisher at work. Calls subscribe, unsubscribe and publish; what is published
is handled later, in any order, and a handler may break down. Who handles an
event is settled when it is published.
-/

namespace ModelGateway.Publisher

inductive Call (σ : Type) where
  | subscribe (s : σ)
  | unsubscribe (s : σ)
  | notify (now : Instant) (e : Event)

variable {σ : Type}

def receive (nameOf : σ → Bytes) (p : Publisher σ) : Call σ → Publisher σ
  | .subscribe s => p.subscribe s
  | .unsubscribe s => p.unsubscribe nameOf (nameOf s)
  | .notify _ _ => p

def sends (p : Publisher σ) : Call σ → List (Delivery σ)
  | .notify now e => p.notify now e
  | _ => []

def after (nameOf : σ → Bytes) (calls : List (Call σ)) : Publisher σ :=
  calls.foldl (receive nameOf) {}

/-- The list without the earliest subscription that bears the name, if there is
one. -/
inductive Dropped (nameOf : σ → Bytes) (name : Bytes) : List σ → List σ → Prop
  | absent {live : List σ} (others : ∀ s ∈ live, nameOf s ≠ name) :
      Dropped nameOf name live live
  | earliest {before after : List σ} {s : σ}
      (others : ∀ s ∈ before, nameOf s ≠ name) (named : nameOf s = name) :
      Dropped nameOf name (before ++ s :: after) (before ++ after)

/-- The subscriptions that are live after calls. -/
inductive Live (nameOf : σ → Bytes) : List (Call σ) → List σ → Prop
  | start : Live nameOf [] []
  | subscribe {calls : List (Call σ)} {live : List σ} (s : σ)
      (before : Live nameOf calls live) :
      Live nameOf (calls ++ [.subscribe s]) (live ++ [s])
  | unsubscribe {calls : List (Call σ)} {live left : List σ} (s : σ)
      (before : Live nameOf calls live)
      (dropped : Dropped nameOf (nameOf s) live left) :
        Live nameOf (calls ++ [.unsubscribe s]) left
  | notify {calls : List (Call σ)} {live : List σ} (now : Instant) (e : Event)
      (before : Live nameOf calls live) :
      Live nameOf (calls ++ [.notify now e]) live

variable {nameOf : σ → Bytes} {name : Bytes} {calls : List (Call σ)}
    {live left : List σ}

private theorem dropNamed_of_absent (others : ∀ s ∈ live, nameOf s ≠ name) :
    dropNamed nameOf name live = live := by
  induction live with
  | nil => rfl
  | cons s rest induction =>
      obtain ⟨other, others⟩ := List.forall_mem_cons.1 others
      rw [dropNamed, if_neg (by simpa using other), induction others]

private theorem dropNamed_append {before after : List σ} {s : σ}
    (others : ∀ s ∈ before, nameOf s ≠ name)
    (named : nameOf s = name) :
    dropNamed nameOf name (before ++ s :: after) = before ++ after := by
  induction before with
  | nil =>
      rw [List.nil_append, dropNamed, if_pos (by simpa using named)]
      rfl
  | cons s' rest induction =>
      obtain ⟨other, others⟩ := List.forall_mem_cons.1 others
      rw [List.cons_append, dropNamed, if_neg (by simpa using other),
        induction others]
      rfl

theorem dropped_dropNamed (live : List σ) :
    Dropped nameOf name live (dropNamed nameOf name live) := by
  induction live with
  | nil => exact .absent nofun
  | cons s rest induction =>
      by_cases named : nameOf s = name
      · rw [dropNamed, if_pos (by simpa using named)]
        exact @Dropped.earliest _ _ _ [] rest s nofun named
      · rw [dropNamed, if_neg (by simpa using named)]
        generalize dropNamed nameOf name rest = left at induction
        cases induction with
        | absent others =>
            exact .absent (List.forall_mem_cons.2 ⟨named, others⟩)
        | @earliest before after s' others named' =>
            have all_others : ∀ s' ∈ s :: before, nameOf s' ≠ name :=
              List.forall_mem_cons.2 ⟨named, others⟩
            exact .earliest all_others named'

private theorem dropped_iff :
    Dropped nameOf name live left ↔ dropNamed nameOf name live = left := by
  constructor
  · intro dropped
    cases dropped with
    | absent others => exact dropNamed_of_absent others
    | earliest others named => exact dropNamed_append others named
  · rintro rfl
    exact dropped_dropNamed live

theorem after_append (calls : List (Call σ)) (c : Call σ) :
    after nameOf (calls ++ [c]) = (after nameOf calls).receive nameOf c :=
  List.foldl_append

theorem live_after (nameOf : σ → Bytes) (calls : List (Call σ)) :
    Live nameOf calls (after nameOf calls).subscribers := by
  induction calls using List.reverseRecOn with
  | nil => exact .start
  | append_singleton calls c induction =>
      rw [after_append]
      cases c with
      | subscribe s => exact .subscribe s induction
      | unsubscribe s => exact .unsubscribe s induction (dropped_dropNamed _)
      | notify now e => exact .notify now e induction

private theorem Live.eq_after (isLive : Live nameOf calls live) :
    live = (after nameOf calls).subscribers := by
  induction isLive with
  | start => rfl
  | subscribe s before induction =>
      rw [after_append, induction]
      rfl
  | unsubscribe s before dropped induction =>
      rw [after_append, ← dropped_iff.1 dropped, induction]
      rfl
  | notify now e before induction =>
      rw [after_append, induction]
      rfl

def sent (nameOf : σ → Bytes)
    (calls : List (Call σ)) (n : Nat) : List (Delivery σ) :=
  match calls[n]? with
  | some c => (after nameOf (calls.take n)).sends c
  | none => []

theorem sent_of_le {n : Nat} (beyond : calls.length ≤ n) :
    sent nameOf calls n = [] := by
  rw [sent, List.getElem?_eq_none beyond]

private theorem sent_append_of_lt {n : Nat}
    (earlier : n < calls.length)
    (c : Call σ) :
    sent nameOf (calls ++ [c]) n = sent nameOf calls n := by
  rw [sent, sent, List.getElem?_append_left earlier,
    List.take_append_of_le_length (Nat.le_of_lt earlier)]

private theorem sent_append_length (calls : List (Call σ)) (c : Call σ) :
    sent nameOf (calls ++ [c]) calls.length = (after nameOf calls).sends c := by
  rw [sent, List.getElem?_concat_length, List.take_left]

private theorem sent_of_take_eq {calls' : List (Call σ)} {n : Nat}
    (same : calls'.take (n + 1) = calls.take (n + 1)) :
    sent nameOf calls' n = sent nameOf calls n := by
  have same_call : calls'[n]? = calls[n]? := by
    rw [← List.getElem?_take_of_succ, same, List.getElem?_take_of_succ]
  have same_before : calls'.take n = calls.take n := by
    have shorter := congrArg (List.take n) same
    rwa [List.take_take, List.take_take, Nat.min_eq_left (Nat.le_succ n)]
      at shorter
  rw [sent, sent, same_call, same_before]

structure Notice (σ : Type) where
  call : Nat
  delivery : Delivery σ

def deliveries (n : Nat) (notices : List (Notice σ)) : List (Delivery σ) :=
  (notices.filter (·.call == n)).map Notice.delivery

private theorem deliveries_append (n : Nat) (notices more : List (Notice σ)) :
    deliveries n (notices ++ more) = deliveries n notices ++
      deliveries n more := by
  rw [deliveries, List.filter_append, List.map_append]
  rfl

private theorem deliveries_map (n k : Nat) (ds : List (Delivery σ)) :
    deliveries n (ds.map (Notice.mk k)) = if k = n then ds else [] := by
  induction ds with
  | nil => simp [deliveries]
  | cons d rest induction =>
      unfold deliveries at induction ⊢
      by_cases same : k = n <;> simp_all

private theorem deliveries_perm {n : Nat} {notices more : List (Notice σ)}
    (perm : notices.Perm more) :
    (deliveries n notices).Perm (deliveries n more) :=
  (perm.filter _).map _

/-- A publisher, the calls it had, what is under way and what was handled, and
what was logged of handlers that broke down. -/
structure Traffic (σ : Type) where
  publisher : Publisher σ := {}
  calls : List (Call σ) := []
  pending : List (Notice σ) := []
  handled : List (Notice σ) := []
  records : List Log.Record := []

namespace Traffic

def call (nameOf : σ → Bytes) (t : Traffic σ) (c : Call σ) : Traffic σ :=
  { t with
    publisher := t.publisher.receive nameOf c
    calls := t.calls ++ [c]
    pending := t.pending ++ (t.publisher.sends c).map
      (Notice.mk t.calls.length) }

inductive Step (nameOf : σ → Bytes) : Traffic σ → Traffic σ → Prop
  | call (t : Traffic σ) (c : Call σ) : Step nameOf t (t.call nameOf c)
  -- A notice is handled, be it the earliest or not. The handler may break down
  -- for some reason.
  | handle {publisher : Publisher σ} {calls : List (Call σ)}
      {before after handled : List (Notice σ)}
      {records : List Log.Record} (x : Notice σ) (reason : Option Bytes) :
      Step nameOf ⟨publisher, calls, before ++ x :: after, handled, records⟩
        ⟨publisher, calls, before ++ after, handled ++ [x],
          records ++
            (reason.map (breakdown (nameOf x.delivery.subscriber))).toList⟩

abbrev Run (nameOf : σ → Bytes) : Traffic σ → Traffic σ → Prop :=
  Relation.ReflTransGen (Step nameOf)

/-- What was handled and what is under way make up what was sent out, call by
call. -/
structure Accounted (nameOf : σ → Bytes) (t : Traffic σ) : Prop where
  publisher_eq : t.publisher = after nameOf t.calls
  notices_perm : ∀ n, (deliveries n (t.handled ++ t.pending)).Perm
    (sent nameOf t.calls n)

variable {t next : Traffic σ}

theorem Accounted.call (accounted : Accounted nameOf t) (c : Call σ) :
    Accounted nameOf (t.call nameOf c) := by
  constructor
  · rw [Traffic.call, after_append, accounted.publisher_eq]
  · intro n
    have before := accounted.notices_perm n
    rw [Traffic.call, ← List.append_assoc, deliveries_append, deliveries_map]
    rcases Nat.lt_trichotomy n t.calls.length with earlier | rfl | later
    · rw [if_neg (Nat.ne_of_gt earlier), List.append_nil,
        sent_append_of_lt earlier]
      exact before
    · -- nothing bears the number of a call that is still to come
      rw [sent_of_le (Nat.le_refl _)] at before
      rw [if_pos rfl, before.eq_nil, sent_append_length, accounted.publisher_eq]
      exact .refl _
    · rw [sent_of_le (Nat.le_of_lt later)] at before
      have beyond : (t.calls ++ [c]).length ≤ n := by
        rw [List.length_append]
        exact later
      rw [if_neg (Nat.ne_of_lt later), before.eq_nil, sent_of_le beyond]
      exact .refl _

theorem Step.accounted (step : Step nameOf t next)
    (accounted : Accounted nameOf t) : Accounted nameOf next := by
  cases step with
  | call _ c => exact accounted.call c
  | @handle publisher calls before after handled records x reason =>
      refine ⟨accounted.publisher_eq, fun n => ?_⟩
      have moved : (handled ++ [x] ++ (before ++ after)).Perm
          (handled ++ (before ++ x :: after)) := by
        rw [List.append_assoc, List.singleton_append]
        exact List.perm_middle.symm.append_left handled
      exact (deliveries_perm moved).trans (accounted.notices_perm n)

private theorem accounted_empty : Accounted nameOf ({} : Traffic σ) :=
  ⟨rfl, fun _ => .refl _⟩

theorem Run.accounted (run : Run nameOf {} t) : Accounted nameOf t := by
  induction run with
  | refl => exact accounted_empty
  | tail _ step induction => exact step.accounted induction

theorem Run.handled_perm (run : Run nameOf {} t)
    (settled : t.pending = [])
    (n : Nat) :
    (deliveries n t.handled).Perm (sent nameOf t.calls n) := by
  have accounted := run.accounted.notices_perm n
  rwa [settled, List.append_nil] at accounted

private theorem run_of_calls (t : Traffic σ) (calls : List (Call σ)) :
    Run nameOf t (calls.foldl (call nameOf) t) := by
  induction calls generalizing t with
  | nil => exact .refl
  | cons c rest induction =>
      exact .head (.call t c) (induction (t.call nameOf c))

private theorem run_of_order {pending order : List (Notice σ)}
    (nameOf : σ → Bytes)
    (breaks : Notice σ → Option Bytes)
    (publisher : Publisher σ) (calls : List (Call σ))
    (handled : List (Notice σ)) (records : List Log.Record)
    (perm : pending.Perm order) :
    ∃ logged, Run nameOf ⟨publisher, calls, pending, handled, records⟩
      ⟨publisher, calls, [], handled ++ order, logged⟩ := by
  induction order generalizing pending handled records with
  | nil =>
      rw [perm.eq_nil, List.append_nil]
      exact ⟨records, .refl⟩
  | cons x rest induction =>
      obtain ⟨before, after, rfl⟩ :=
        List.append_of_mem (perm.mem_iff.2 List.mem_cons_self)
      have others : (before ++ after).Perm rest :=
        (List.perm_middle.symm.trans perm).cons_inv
      obtain ⟨logged, run⟩ := induction (handled ++ [x])
        (records ++
          ((breaks x).map (breakdown (nameOf x.delivery.subscriber))).toList)
        others
      rw [List.append_assoc] at run
      exact ⟨logged, .head (.handle x (breaks x)) run⟩

end Traffic

private theorem sent_of_notify {n : Nat} {now : Instant} {e : Event}
    (made : calls[n]? = some (.notify now e)) :
    sent nameOf calls n = (after nameOf (calls.take n)).subscribers.map fun s =>
      ⟨s, stamp now e⟩ := by
  rw [sent, made]
  rfl

private theorem notify_of_mem_sent {n : Nat} {d : Delivery σ}
    (member : d ∈ sent nameOf calls n) :
    ∃ now e, calls[n]? = some (.notify now e) := by
  unfold sent at member
  cases made : calls[n]? with
  | none =>
      rw [made] at member
      cases member
  | some c =>
      rw [made] at member
      cases c with
      | notify now e => exact ⟨now, e, rfl⟩
      | subscribe _ | unsubscribe _ => cases member

/-- Each event is handled once by each subscription that is live when it is
published, and by no other, whatever is called later, in whichever order the
notices are handled and whichever handlers break down. -/
theorem handled_once_by_the_live (nameOf : σ → Bytes) (t : Traffic σ)
    (run : Traffic.Run nameOf {} t)
    (settled : t.pending = []) :
    (∀ n now e live, t.calls[n]? = some (.notify now e) →
      Live nameOf (t.calls.take n) live →
      (deliveries n t.handled).Perm (live.map fun s => ⟨s, stamp now e⟩)) ∧
      (∀ x ∈ t.handled, ∃ now e, t.calls[x.call]? = some (.notify now e)) ∧
      (∀ t' n, Traffic.Run nameOf {} t' → t'.pending = [] →
        t'.calls.take (n + 1) = t.calls.take (n + 1) →
        (deliveries n t'.handled).Perm (deliveries n t.handled)) ∧
      ∀ (p : Publisher σ) (s : σ),
        Dropped nameOf (nameOf s) p.subscribers
          (p.unsubscribe nameOf (nameOf s)).subscribers := by
  refine ⟨?_, ?_, ?_, ?_⟩
  · intro n now e live made isLive
    rw [isLive.eq_after, ← sent_of_notify made]
    exact run.handled_perm settled n
  · intro x member
    have handled : x.delivery ∈ deliveries x.call t.handled :=
      List.mem_map_of_mem (List.mem_filter.2 ⟨member, beq_self_eq_true _⟩)
    exact notify_of_mem_sent
      ((run.handled_perm settled x.call).mem_iff.1 handled)
  · intro t' n run' settled' same
    have handled := run'.handled_perm settled' n
    rw [sent_of_take_eq same] at handled
    exact handled.trans (run.handled_perm settled n).symm
  · intro p s
    exact dropped_dropNamed p.subscribers

def crowdCalls : List (Call (Bytes × Nat)) :=
  [.subscribe ("a", 1), .subscribe ("a", 2), .subscribe ("a", 1),
    .notify Instant.zero { kind := .started, route := "/" },
    .unsubscribe ("a", 2),
    .notify Instant.zero { kind := .completed, route := "/" }]

def crowd : Traffic (Bytes × Nat) :=
  crowdCalls.foldl (Traffic.call Prod.fst) {}

theorem crowd_handles_once :
    ∃ t, Traffic.Run Prod.fst {} t ∧ t.handled = crowd.pending.reverse ∧
      ((deliveries 3 t.handled).map Delivery.subscriber).Perm
        [("a", 1), ("a", 2), ("a", 1)] ∧
      ((deliveries 5 t.handled).map Delivery.subscriber).Perm
        [("a", 2), ("a", 1)] := by
  obtain ⟨logged, handling⟩ :=
    Traffic.run_of_order Prod.fst (fun _ => some "broken")
      crowd.publisher crowd.calls
    [] [] crowd.pending.reverse_perm.symm
  have run : Traffic.Run Prod.fst {} _ :=
    (Traffic.run_of_calls {} crowdCalls).trans handling
  obtain ⟨once, -⟩ := handled_once_by_the_live Prod.fst _ run rfl
  refine ⟨_, run, rfl, ?_, ?_⟩
  · exact (once 3 _ _ _ rfl (live_after _ _)).map Delivery.subscriber
  · exact (once 5 _ _ _ rfl (live_after _ _)).map Delivery.subscriber

end ModelGateway.Publisher
