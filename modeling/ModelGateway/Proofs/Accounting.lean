import Mathlib.Algebra.BigOperators.Group.List.Basic
import Mathlib.Algebra.GroupWithZero.Nat
import Mathlib.Data.List.Count
import ModelGateway.Proofs.Delivery

/-!
What the counters tell of the requests that were answered. They account for
every request that got as far as an image or the generator, and for every one
that met no model; the others leave no trace in them.
-/

namespace ModelGateway

private theorem Failure.status_ne_200 (failure : Failure) :
    failure.status ≠ 200 := by
  unfold status
  split
  next category found => cases category <;> decide
  next => decide

private theorem Failure.status_of_isOf {failure : Failure} {category : Category}
    (isOf : failure.isOf category = true) :
    failure.status = category.status := by
  rw [status, eq_of_beq isOf]

namespace Outcome

def isFailure : Outcome Bytes → Bool
  | .failure _ => true
  | _ => false

def isCrash : Outcome Bytes → Bool
  | .crash _ => true
  | _ => false

end Outcome

namespace Course

def replies : Course → List (Outcome Bytes)
  | .asked _ reply => [reply]
  | _ => []

def isRejected : Course → Bool
  | .rejected => true
  | _ => false

def isRefused : Course → Bool
  | .refused _ => true
  | _ => false

def isUndecodable : Course → Bool
  | .undecodable _ => true
  | _ => false

def isBrokenDown : Course → Bool
  | .brokenDown _ => true
  | _ => false

def breaksDown (course : Course) : Bool :=
  course.isBrokenDown || course.replies.any Outcome.isCrash

variable (course : Course)

theorem count_completed :
    course.kinds.count .completed = (course.status == 200).toNat := by
  cases course with
  | refused failure =>
      have other : (failure.status == 200) = false :=
        beq_false_of_ne failure.status_ne_200
      rw [status, other]
      rfl
  | rejected | undecodable | brokenDown => rfl
  | asked request reply => cases reply <;> rfl

theorem count_rejected :
    course.kinds.count .rejected = course.isRejected.toNat := by
  cases course with
  | rejected | refused | undecodable | brokenDown => rfl
  | asked request reply => cases reply <;> rfl

theorem count_failed :
    course.kinds.count .failed =
      (course.isUndecodable || course.replies.any Outcome.isFailure).toNat := by
  cases course with
  | rejected | refused | undecodable | brokenDown => rfl
  | asked request reply => cases reply <;> rfl

theorem count_started :
    course.kinds.count .started =
      course.kinds.count .completed + course.kinds.count .failed +
        course.breaksDown.toNat := by
  cases course with
  | rejected | refused | undecodable | brokenDown => rfl
  | asked request reply => cases reply <;> rfl

theorem failed_split :
    (course.isUndecodable || course.replies.any Outcome.isFailure).toNat =
      (course.replies.any Outcome.isFailure).toNat +
        course.isUndecodable.toNat := by
  cases course with
  | rejected | refused | undecodable | brokenDown => rfl
  | asked request reply => cases reply <;> rfl

theorem count_ends :
    course.kinds.count .rejected + course.kinds.count .completed +
      course.kinds.count .failed +
      course.breaksDown.toNat + course.isRefused.toNat = 1 := by
  cases course with
  | rejected | refused | undecodable | brokenDown => rfl
  | asked request reply => cases reply <;> rfl

end Course

namespace Served

def isFor (x : Served) (m : ModelRoute) : Bool :=
  x.request.isFor m

def status (x : Served) : Nat :=
  x.exchange.response.status

def outcome (x : Served) : Outcome Response :=
  let v : Visit :=
    { requestId := x.request.identity x.arrival.freshId
      now := x.arrival.now
      elapsed := x.arrival.elapsed }
  (x.gateway.serve x.metrics x.arrival v x.request).outcome

def failedAs (category : Category) (x : Served) : Bool :=
  match x.outcome with
  | .failure failure => failure.isOf category
  | _ => false

def replies (m : ModelRoute) (x : Served) : List (Outcome Bytes) :=
  x.exchange.trace.requests.filterMap fun request =>
    (x.gateway.access m).generator.map fun generator =>
      (generator request).outcome

/-- An image came that could not be decoded, with a breakdown or without. -/
def faultsWith (broken : Bool) (x : Served) : Bool :=
  x.isFor .analysis && (x.gateway.access .analysis).ready?.isSome &&
    ((Form.ofRequest x.gateway.settings.maxBody x.request).bind
        (Form.upload "image")).toOption.any fun upload =>
      match Decoded.decode upload.data with
      | .error fault => fault.isBreakdown == broken
      | .ok _ => false

def undecodable (x : Served) : Bool :=
  x.faultsWith false

def brokenDown (x : Served) : Bool :=
  x.faultsWith true

/-- The decoder or the generator broke down. -/
def breaksDown (m : ModelRoute) (x : Served) : Bool :=
  x.brokenDown || (x.replies m).any Outcome.isCrash

def mistyped (x : Served) : Bool :=
  x.isFor .prompt && (x.gateway.access .prompt).ready?.isSome &&
    (Gateway.bodyObject x.gateway.settings.maxBody x.request).toOption.any
      fun fields =>
        !(PromptRequest.decode fields).isOk

/-- The request was turned away for what it holds, or for how long it is. -/
def turnedAway (x : Served) : Bool :=
  x.status == 400 || x.status == 413 || x.mistyped

/-- All that can be seen of the answer to a request agrees with its course. -/
structure Follows (x : Served) (m : ModelRoute) (course : Course) : Prop
    extends x.exchange.Follows (x.gateway.access m) m course where
  failedAs_eq : x.failedAs .config = course.isRejected
  replies_eq : x.replies m = course.replies
  undecodable_eq : x.undecodable = course.isUndecodable
  brokenDown_eq : x.brokenDown = course.isBrokenDown
  turnedAway_eq : x.turnedAway = course.isRefused

end Served

theorem ModelRoute.path_injective : Function.Injective path := by
  intro m m' equal
  cases m with
  | analysis =>
      cases m' with
      | analysis => rfl
      | prompt => exact absurd equal (by decide)
  | prompt =>
      cases m' with
      | analysis => exact absurd equal (by decide)
      | prompt => rfl

private theorem Request.eq_of_isFor {r : Request} {m m' : ModelRoute}
    (isFor : r.isFor m = true)
    (isFor' : r.isFor m' = true) : m = m' := by
  apply ModelRoute.path_injective
  rw [← (isFor_iff.1 isFor).2, (isFor_iff.1 isFor').2]

namespace Gateway

variable {g : Gateway} {r : Request} {m : ModelRoute} {failure : Failure}

theorem status_bodyObject {limit : Int}
    (refused : bodyObject limit r = .error failure) :
    failure.status = 400 ∨ failure.status = 413 := by
  simp only [bodyObject] at refused
  split at refused
  · cases refused
    exact .inr rfl
  · cases refused
    exact .inl rfl
  · cases refused
    exact .inl rfl
  · cases refused
  · cases refused
    exact .inl rfl

end Gateway

namespace Gateway.Takes

variable {g : Gateway} {r : Request} {m : ModelRoute} {failure : Failure}

private theorem not_config (takes : g.Takes r m (.refused failure)) :
    failure.isOf .config = false := by
  cases takes with
  | noObject ready held =>
      rw [Bool.eq_false_iff]
      intro isConfig
      have status := Failure.status_of_isOf isConfig
      obtain invalid | large := status_bodyObject held
      · cases invalid.symm.trans status
      · cases large.symm.trans status
  | mistyped | tooLarge | noImage => rfl

theorem replied {request : GenerateRequest} {reply : Outcome Bytes}
    (takes : g.Takes r m (.asked request reply)) :
    ∃ generator, (g.access m).generator = some generator ∧
      (generator request).outcome = reply := by
  cases takes with
  | prompt ready held decoded =>
      exact ⟨_, (ModelAccess.ready?_eq_some_iff.1 ready).installed, rfl⟩
  | image ready read decodes =>
      exact ⟨_, (ModelAccess.ready?_eq_some_iff.1 ready).installed, rfl⟩

end Gateway.Takes

namespace Served

variable {x : Served} {m : ModelRoute} {course : Course}

theorem isFor_eq_false {m' : ModelRoute}
    (isFor : x.isFor m = true) (other : m ≠ m') : x.isFor m' = false := by
  rw [Bool.eq_false_iff]
  intro isFor'
  exact other (Request.eq_of_isFor isFor isFor')

theorem faultsWith_of_prompt {broken : Bool} (isFor : x.isFor .prompt = true) :
    x.faultsWith broken = false := by
  have elsewhere : x.isFor .analysis = false := isFor_eq_false isFor nofun
  rw [faultsWith, elsewhere]
  rfl

theorem mistyped_of_analysis (isFor : x.isFor .analysis = true) :
    x.mistyped = false := by
  have elsewhere : x.isFor .prompt = false := isFor_eq_false isFor nofun
  rw [mistyped, elsewhere]
  rfl

section Takes

variable (takes : x.gateway.Takes x.request m course)

include takes

theorem faultsWith_of_takes {broken : Bool} (isFor : x.isFor m = true) :
    x.faultsWith broken =
      if broken then course.isBrokenDown else course.isUndecodable := by
  cases takes with
  | unready unready =>
      have none_ready : x.faultsWith broken = false := by
        cases m with
        | prompt => exact faultsWith_of_prompt isFor
        | analysis => simp [faultsWith, unready]
      rw [none_ready]
      cases broken <;> rfl
  | noObject | mistyped | prompt =>
      rw [faultsWith_of_prompt isFor]
      cases broken <;> rfl
  | tooLarge ready read isCut =>
      have unread : x.faultsWith broken = false := by
        simp [faultsWith, read, Except.bind, Except.toOption]
      rw [unread]
      cases broken <;> rfl
  | noImage ready read isCut =>
      have unread : x.faultsWith broken = false := by
        simp [faultsWith, read, Except.toOption]
      rw [unread]
      cases broken <;> rfl
  | undecodable ready read decoded orderly =>
      have faults : x.faultsWith broken = (false == broken) := by
        simp [faultsWith, isFor, ready, read, Except.toOption, decoded, orderly]
      rw [faults]
      cases broken <;> rfl
  | brokenDown ready read decoded breaks =>
      have faults : x.faultsWith broken = (true == broken) := by
        simp [faultsWith, isFor, ready, read, Except.toOption, decoded, breaks]
      rw [faults]
      cases broken <;> rfl
  | image ready read decodes =>
      have decoded : x.faultsWith broken = false := by
        simp [faultsWith, read, Except.toOption, decodes]
      rw [decoded]
      cases broken <;> rfl

private theorem turnedAway_of_takes (isFor : x.isFor m = true)
    (status_eq : x.status = course.status) :
    x.turnedAway = course.isRefused := by
  rw [turnedAway, status_eq]
  cases takes with
  | unready unready =>
      cases m with
      | prompt => simp [mistyped, unready, Course.status, Course.isRefused]
      | analysis =>
          rw [mistyped_of_analysis isFor]
          rfl
  | noObject ready held =>
      obtain invalid | large := Gateway.status_bodyObject held
      · simp [Course.status, Course.isRefused, invalid]
      · simp [Course.status, Course.isRefused, large]
  | mistyped ready held decoded =>
      simp [mistyped, isFor, ready, held, Except.toOption, decoded, Except.isOk,
        Except.toBool, Course.isRefused]
  | @prompt generator fields request ready held decoded =>
      obtain answered | failed :=
        Course.status_asked (x.gateway.prompts.toGenerate request)
        (generator (x.gateway.prompts.toGenerate request)).outcome
      · simp [mistyped, held, Except.toOption, decoded, Except.isOk,
          Except.toBool, Course.isRefused, answered]
      · simp [mistyped, held, Except.toOption, decoded, Except.isOk,
          Except.toBool, Course.isRefused, failed]
  | tooLarge ready read isCut => rfl
  | noImage ready read isCut => rfl
  | undecodable | brokenDown =>
      rw [mistyped_of_analysis isFor]
      rfl
  | @image generator upload decoded prompt ready read decodes =>
      rw [mistyped_of_analysis isFor]
      obtain answered | failed :=
        Course.status_asked (x.gateway.analysis.toGenerate prompt decoded)
        (generator (x.gateway.analysis.toGenerate prompt decoded)).outcome
      · rw [answered]
        rfl
      · rw [failed]
        rfl

private theorem failedAs_of_takes
    (outcome_eq : x.outcome = course.outcome m.document) :
    x.failedAs .config = course.isRejected := by
  rw [failedAs, outcome_eq]
  cases course with
  | refused failure => exact takes.not_config
  | rejected | undecodable | brokenDown => rfl
  | asked request reply => cases reply <;> rfl

private theorem replies_of_takes
    (requests_eq : x.exchange.trace.requests = course.requests) :
    x.replies m = course.replies := by
  rw [replies, requests_eq]
  cases course with
  | rejected | refused | undecodable | brokenDown => rfl
  | asked request reply =>
      obtain ⟨generator, installed, replied⟩ := takes.replied
      simp [Course.requests, Course.replies, installed, replied]

end Takes

theorem follows (isFor : x.isFor m = true) :
    x.Follows m (x.gateway.course m x.request) := by
  have takes := x.gateway.takes_course x.request m
  have answered : x.exchange.Follows (x.gateway.access m) m
      (x.gateway.course m x.request) :=
    x.gateway.answer_follows isFor
  have outcome_eq :
      x.outcome = (x.gateway.course m x.request).outcome m.document :=
    (Gateway.leaves_serve isFor).outcome_eq
  exact
    { toFollows := answered
      failedAs_eq := failedAs_of_takes takes outcome_eq
      replies_eq := replies_of_takes takes answered.requests_eq
      undecodable_eq := faultsWith_of_takes takes isFor
      brokenDown_eq := faultsWith_of_takes takes isFor
      turnedAway_eq := turnedAway_of_takes takes isFor answered.status_eq }

theorem breaksDown_of_follows (follows : x.Follows m course) :
    x.breaksDown m = course.breaksDown := by
  rw [breaksDown, follows.brokenDown_eq, follows.replies_eq]
  rfl

theorem events_of_elsewhere (elsewhere : ¬ ∃ m, x.isFor m = true) :
    x.exchange.trace.events = [] := by
  apply Gateway.answer_events_of_elsewhere
  intro m
  exact Bool.eq_false_iff.2 fun isFor => elsewhere ⟨m, isFor⟩

private theorem events_of_turnedAway (turned : x.turnedAway = true) :
    x.exchange.trace.events = [] := by
  by_cases someFor : ∃ m, x.isFor m = true
  · obtain ⟨m, isFor⟩ := someFor
    have follows := follows isFor
    have marks := follows.marks_eq
    rw [follows.turnedAway_eq] at turned
    cases reached : x.gateway.course m x.request with
    | refused failure =>
        rw [reached, Course.kinds, ModelAccess.published_nil] at marks
        exact List.map_eq_nil_iff.1 marks
    | rejected | undecodable | brokenDown | asked =>
        rw [reached] at turned
        cases turned
  · exact events_of_elsewhere someFor

theorem marks_of_isFor (publishing : x.gateway.Publishing)
    (isFor : x.isFor m = true) :
    x.marks = (x.gateway.course m x.request).kinds.map (m.path, ·) := by
  rw [marks, (follows isFor).marks_eq, ModelAccess.published,
    publishing m, if_pos rfl]

theorem count_marks {kind : EventKind} (publishing : x.gateway.Publishing) :
    x.marks.count (m.path, kind) =
      if x.isFor m then (x.gateway.course m x.request).kinds.count kind
      else 0 := by
  split
  next isFor =>
    rw [marks_of_isFor publishing isFor]
    apply List.count_map_of_injective
    intro kind kind' equal
    exact congrArg Prod.snd equal
  next elsewhere =>
    rw [List.count_eq_zero]
    intro member
    by_cases other : ∃ m', x.isFor m' = true
    · -- the events of the other route bear another path
      obtain ⟨m', isFor⟩ := other
      rw [marks_of_isFor publishing isFor, List.mem_map] at member
      obtain ⟨_, -, equal⟩ := member
      rw [ModelRoute.path_injective (congrArg Prod.fst equal)] at isFor
      exact elsewhere isFor
    · have silent : x.marks = [] := by
        rw [marks, events_of_elsewhere other]
        rfl
      rw [silent] at member
      cases member

section Publishing

variable (publishing : x.gateway.Publishing)

include publishing

theorem count_marks_eq {kind : EventKind} {p : Bool}
    (seen : x.isFor m = true →
      (x.gateway.course m x.request).kinds.count kind = p.toNat) :
    x.marks.count (m.path, kind) = (x.isFor m && p).toNat := by
  rw [count_marks publishing]
  cases isFor : x.isFor m with
  | false => rfl
  | true => exact seen isFor

theorem count_completed :
    x.marks.count (m.path, .completed) =
      (x.isFor m && x.status == 200).toNat := by
  apply count_marks_eq publishing
  intro isFor
  rw [Course.count_completed, status, (follows isFor).status_eq]

theorem count_rejected :
    x.marks.count (m.path, .rejected) =
      (x.isFor m && x.failedAs .config).toNat := by
  apply count_marks_eq publishing
  intro isFor
  rw [Course.count_rejected, (follows isFor).failedAs_eq]

theorem count_failed :
    x.marks.count (m.path, .failed) =
      (x.isFor m && (x.undecodable ||
        (x.replies m).any Outcome.isFailure)).toNat := by
  apply count_marks_eq publishing
  intro isFor
  rw [Course.count_failed, (follows isFor).undecodable_eq,
    (follows isFor).replies_eq]

theorem count_started :
    x.marks.count (m.path, .started) =
      x.marks.count (m.path, .completed) + x.marks.count (m.path, .failed) +
        (x.isFor m && x.breaksDown m).toNat := by
  rw [count_marks publishing, count_marks publishing, count_marks publishing]
  cases isFor : x.isFor m with
  | false => rfl
  | true =>
      simp only [Bool.true_and, breaksDown_of_follows (follows isFor), if_true]
      exact Course.count_started _

theorem count_ends :
    x.marks.count (m.path, .rejected) + x.marks.count (m.path, .completed) +
      x.marks.count (m.path, .failed) + (x.isFor m && x.breaksDown m).toNat +
      (x.isFor m && x.turnedAway).toNat =
      (x.isFor m).toNat := by
  rw [count_marks publishing, count_marks publishing, count_marks publishing]
  cases isFor : x.isFor m with
  | false => rfl
  | true =>
      simp only [Bool.true_and, breaksDown_of_follows (follows isFor),
        (follows isFor).turnedAway_eq, if_true]
      exact Course.count_ends _

private theorem marks_of_unasked (isFor : x.isFor m = true)
    (unasked : x.exchange.trace.requests = []) :
    x.marks =
        (if (x.gateway.access m).ready?.isNone then [(m.path, .rejected)]
          else if x.undecodable then [(m.path, .started), (m.path, .failed)]
          else if x.brokenDown then [(m.path, .started)] else []) ∧
      (x.marks = [] ↔ x.turnedAway = true) := by
  have follows := follows isFor
  have takes := x.gateway.takes_course x.request m
  have requests_eq := follows.requests_eq
  rw [unasked] at requests_eq
  rw [marks_of_isFor publishing isFor, follows.undecodable_eq,
    follows.brokenDown_eq, follows.turnedAway_eq]
  generalize x.gateway.course m x.request = course at takes requests_eq
  cases takes with
  | unready unready => simp [Course.kinds, Course.isRefused, unready]
  | noObject ready | mistyped ready | tooLarge ready | noImage ready =>
      simp [Course.kinds, Course.isRefused, Course.isUndecodable,
        Course.isBrokenDown, ready]
  | undecodable ready | brokenDown ready =>
      simp [Course.kinds, Course.isRefused, Course.isUndecodable,
        Course.isBrokenDown, ready]
  | prompt | image => cases requests_eq

end Publishing

theorem failed_split :
    (x.isFor m && (x.undecodable ||
      (x.replies m).any Outcome.isFailure)).toNat =
      (x.isFor m && (x.replies m).any Outcome.isFailure).toNat +
        (x.isFor m && x.undecodable).toNat := by
  cases isFor : x.isFor m with
  | false => rfl
  | true =>
      simp only [Bool.true_and, (follows isFor).undecodable_eq,
        (follows isFor).replies_eq]
      exact Course.failed_split _

end Served

theorem sum_eq_countP {served : List Served} {f : Served → Nat}
    {p : Served → Bool} (each : ∀ x ∈ served, f x = (p x).toNat) :
    (served.map f).sum = served.countP p := by
  induction served with
  | nil => rfl
  | cons x rest induction =>
      rw [List.map_cons, List.sum_cons, List.countP_cons,
        each x List.mem_cons_self, induction fun x member =>
        each x (List.mem_cons_of_mem _ member), Nat.add_comm]
      cases p x <;> rfl

private theorem countP_add {served : List Served} {p q r : Served → Bool}
    (each : ∀ x, (p x).toNat = (q x).toNat + (r x).toNat) :
    served.countP p = served.countP q + served.countP r := by
  rw [← sum_eq_countP fun x _ => (each x).symm, List.sum_map_add,
    sum_eq_countP fun _ _ => rfl, sum_eq_countP fun _ _ => rfl]

namespace Activity

variable {s : Server} {w : Activity} {m : ModelRoute}

theorem Run.served_publishing (run : Run ⟨s, [], []⟩ w)
    (publishing : s.gateway.Publishing) :
    ∀ x ∈ w.served, x.gateway.Publishing :=
  (run.publishing (among_fresh publishing)).2

private theorem count_published (w : Activity) (mark : Bytes × EventKind) :
    w.published.count mark = (w.served.map fun x => x.marks.count mark).sum :=
  List.count_flatMap

section Settled

variable (fresh : s.metrics = [])
    (counted : s.listeners.subscribers.count .counters = 1)
  (publishing : s.gateway.Publishing) (run : Run ⟨s, [], []⟩ w)
  (settled : w.pending = [])

include fresh counted run settled

theorem counter_eq_sum (kind : EventKind) (known : kind.isKnown = true) :
    (w.server.metrics.counts m.path).of kind =
      (w.served.map fun x => x.marks.count (m.path, kind)).sum := by
  rw [run.published_eq fresh settled known, run.listeners_eq, counted,
    Nat.one_mul, count_published]

include publishing

theorem counter_eq_countP {p : Served → Bool} (kind : EventKind)
    (known : kind.isKnown = true)
    (each : ∀ x : Served, x.gateway.Publishing →
      x.marks.count (m.path, kind) = (p x).toNat) :
    (w.server.metrics.counts m.path).of kind = w.served.countP p := by
  rw [counter_eq_sum fresh counted run settled kind known]
  apply sum_eq_countP
  intro x member
  exact each x (run.served_publishing publishing x member)

private theorem completed_eq :
    (w.server.metrics.counts m.path).completed =
      w.served.countP (fun x => x.isFor m && x.status == 200) :=
  counter_eq_countP fresh counted publishing run settled .completed rfl fun _ =>
    Served.count_completed

private theorem rejected_eq :
    (w.server.metrics.counts m.path).rejected =
      w.served.countP (fun x => x.isFor m && x.failedAs .config) :=
  counter_eq_countP fresh counted publishing run settled .rejected rfl fun _ =>
    Served.count_rejected

theorem failed_eq :
    (w.server.metrics.counts m.path).failed =
      w.served.countP (fun x => x.isFor m &&
        (x.undecodable || (x.replies m).any Outcome.isFailure)) :=
  counter_eq_countP fresh counted publishing run settled .failed rfl fun _ =>
    Served.count_failed

private theorem started_eq :
    (w.server.metrics.counts m.path).of .started =
      (w.server.metrics.counts m.path).of .completed +
        (w.server.metrics.counts m.path).of .failed +
        w.served.countP (fun x => x.isFor m && x.breaksDown m) := by
  rw [counter_eq_sum fresh counted run settled .started rfl,
    counter_eq_sum fresh counted run settled .completed rfl,
    counter_eq_sum fresh counted run settled .failed rfl,
    ← sum_eq_countP fun _ _ => rfl, ← List.sum_map_add, ← List.sum_map_add]
  congr 1
  apply List.map_congr_left
  intro x member
  exact Served.count_started (run.served_publishing publishing x member)

private theorem count_eq :
    (w.server.metrics.counts m.path).of .rejected +
      (w.server.metrics.counts m.path).of .completed +
      (w.server.metrics.counts m.path).of .failed +
      w.served.countP (fun x => x.isFor m && x.breaksDown m) +
      w.served.countP (fun x => x.isFor m && x.turnedAway) =
      w.served.countP (fun x => x.isFor m) := by
  rw [counter_eq_sum fresh counted run settled .rejected rfl,
    counter_eq_sum fresh counted run settled .completed rfl,
    counter_eq_sum fresh counted run settled .failed rfl,
    ← sum_eq_countP fun _ _ => rfl,
    ← sum_eq_countP fun _ _ => rfl, ← List.sum_map_add, ← List.sum_map_add,
    ← List.sum_map_add, ← List.sum_map_add]
  apply sum_eq_countP
  intro x member
  exact Served.count_ends (run.served_publishing publishing x member)

end Settled

end Activity

namespace Server

/-- The counters tell how many requests were answered, rejected, failed and
begun, whatever the order in which the events reach them. -/
theorem counters_account_for_requests
    (s : Server) (w : Activity) (m : ModelRoute)
    (fresh : s.metrics = [])
    (counted : s.listeners.subscribers.count .counters = 1)
    (publishing : s.gateway.Publishing)
    (run : Activity.Run ⟨s, [], []⟩ w)
    (settled : w.pending = []) :
    (w.server.metrics.counts m.path).completed =
        w.served.countP (fun x => x.isFor m && x.status == 200) ∧
      (w.server.metrics.counts m.path).rejected =
        w.served.countP (fun x => x.isFor m && x.failedAs .config) ∧
      (w.server.metrics.counts m.path).failed =
        w.served.countP (fun x => x.isFor m &&
          (x.undecodable || (x.replies m).any Outcome.isFailure)) ∧
      (w.server.metrics.counts m.path).started =
        (w.server.metrics.counts m.path).completed +
          (w.server.metrics.counts m.path).failed +
          w.served.countP (fun x => x.isFor m && x.breaksDown m) ∧
      ∀ x ∈ w.served, x.status = 400 ∨ x.status = 413 ∨ x.mistyped = true →
        x.exchange.trace.events = [] := by
  refine ⟨?_, ?_, ?_, ?_, ?_⟩
  · exact Activity.completed_eq fresh counted publishing run settled
  · exact Activity.rejected_eq fresh counted publishing run settled
  · exact Activity.failed_eq fresh counted publishing run settled
  · exact Activity.started_eq fresh counted publishing run settled
  · intro x _ turned
    apply Served.events_of_turnedAway
    simpa [Served.turnedAway, or_assoc] using turned

theorem publishing_echoing : echoing.gateway.Publishing := by
  intro m
  cases m with
  | analysis => rfl
  | prompt => rfl

def greetingSent : Activity :=
  (Activity.mk echoing [] []).serve ⟨[], [], [], Instant.zero, 0⟩ greeting

def greetingHeard : Activity :=
  ⟨{ echoing with
      metrics := greetingSent.pending.reverse.foldl Metrics.receive [] },
    [], greetingSent.served⟩

theorem greeting_accounted :
    (greetingHeard.server.metrics.counts PromptService.route).started = 1 ∧
      (greetingHeard.server.metrics.counts PromptService.route).completed =
        1 := by
  have run : Activity.Run ⟨echoing, [], []⟩ greetingHeard :=
    .head (.serve _ _ greeting)
      (run_of_perm echoing greetingSent.served
        greetingSent.pending.reverse_perm.symm)
  obtain ⟨completed, rejected, failed, started, silent⟩ :=
    counters_account_for_requests echoing greetingHeard .prompt
      rfl rfl publishing_echoing run rfl
  exact ⟨started, completed⟩

/-- Only a request that meets no model is counted as rejected. Of the others
that fail before the generator is asked, those with an image that cannot be
decoded count as failed, and no counter tells of the rest. -/
theorem early_failures_accounted (s : Server) (w : Activity) (m : ModelRoute)
    (fresh : s.metrics = [])
    (counted : s.listeners.subscribers.count .counters = 1)
    (publishing : s.gateway.Publishing)
    (run : Activity.Run ⟨s, [], []⟩ w)
    (settled : w.pending = []) :
    (∀ x ∈ w.served, x.isFor m = true → x.exchange.trace.requests = [] →
        x.marks =
          (if (x.gateway.access m).ready?.isNone then [(m.path, .rejected)]
          else if x.undecodable then [(m.path, .started), (m.path, .failed)]
          else if x.brokenDown then [(m.path, .started)]
          else []) ∧
        (x.marks = [] ↔ x.turnedAway = true)) ∧
      (w.server.metrics.counts m.path).rejected +
          (w.server.metrics.counts m.path).completed +
          (w.server.metrics.counts m.path).failed +
          w.served.countP (fun x => x.isFor m && x.breaksDown m) +
          w.served.countP (fun x => x.isFor m && x.turnedAway) =
        w.served.countP (fun x => x.isFor m) ∧
      (w.server.metrics.counts m.path).failed =
        w.served.countP
            (fun x => x.isFor m && (x.replies m).any Outcome.isFailure) +
          w.served.countP (fun x => x.isFor m && x.undecodable) := by
  refine ⟨?_, ?_, ?_⟩
  · intro x member
    exact Served.marks_of_unasked (run.served_publishing publishing x member)
  · exact Activity.count_eq fresh counted publishing run settled
  · rw [Activity.failed_eq fresh counted publishing run settled]
    apply countP_add
    intro x
    exact Served.failed_split

def scrawl : Request :=
  { greeting with body := "hello" }

def blot : Request :=
  { pixelUpload none with
    body :=
      Multipart.write "b"
        [⟨[("Content-Disposition",
          "form-data; name=\"image\"; filename=\"a\"")], "x"⟩] }

theorem scrawl_accounted :
    ((echoing.step ⟨[], [], [], Instant.zero, 0⟩ scrawl).1.metrics.counts
      PromptService.route).rejected +
      ((echoing.step ⟨[], [], [], Instant.zero, 0⟩ scrawl).1.metrics.counts
        PromptService.route).completed +
        ((echoing.step ⟨[], [], [], Instant.zero, 0⟩ scrawl).1.metrics.counts
          PromptService.route).failed + 1 = 1 :=
  (early_failures_accounted echoing _ .prompt rfl rfl publishing_echoing
    (run_of_step echoing ⟨[], [], [], Instant.zero, 0⟩ scrawl []) rfl).2.1

theorem early_failures_overlooked :
    ((echoing.step ⟨[], [], [], Instant.zero, 0⟩ scrawl).2.response.status =
        400 ∧
      (echoing.step ⟨[], [], [], Instant.zero, 0⟩ scrawl).2.trace.requests =
        [] ∧
      (echoing.step ⟨[], [], [], Instant.zero, 0⟩ scrawl).2.trace.events =
        []) ∧
      (describing.step ⟨[], [], [], Instant.zero, 0⟩ blot).2.response.status =
        500 ∧
      (describing.step ⟨[], [], [], Instant.zero, 0⟩ blot).2.trace.requests =
        [] ∧
      (describing.step ⟨[], [], [], Instant.zero, 0⟩ blot).2.trace.events.map
          Event.mark =
        [(AnalysisService.route, .started),
          (AnalysisService.route, .failed)] := by
  refine ⟨⟨rfl, rfl, rfl⟩, ?_, ?_, ?_⟩
  · decide +kernel
  · rw [← List.isEmpty_iff]
    decide +kernel
  · decide +kernel

end Server

end ModelGateway
