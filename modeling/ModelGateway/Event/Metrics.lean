import ModelGateway.Event.Basic

namespace ModelGateway

/-- What the events of one route add up to. Durations add as words of sixty-four
bits. -/
structure RouteCounts where
  started : Nat := 0
  completed : Nat := 0
  failed : Nat := 0
  rejected : Nat := 0
  -- The time that completed requests took, in nanoseconds.
  total : Int := 0
  deriving DecidableEq, Repr

namespace RouteCounts

def add (c : RouteCounts) (e : Event) : RouteCounts :=
  match e.kind with
  | .started => { c with started := c.started + 1 }
  | .completed =>
      { c with
        completed := c.completed + 1, total :=
          Int.bmod (c.total + e.elapsed) 0x10000000000000000 }
  | .failed => { c with failed := c.failed + 1 }
  | .rejected => { c with rejected := c.rejected + 1 }
  | .other _ => c

/-- The average time of a completed request in whole microseconds, both
divisions toward zero. -/
def averageMicros (c : RouteCounts) : Int :=
  if c.completed == 0 then 0 else Int.tdiv (Int.tdiv c.total c.completed) 1000

def averageMillis (c : RouteCounts) : Binary :=
  match Format.double.ofInt c.averageMicros with
  | .finite x =>
      let (num, den) := x.ratio
      match Format.double.round x.neg num (den * 1000) with
      | .finite y => y
      | _ => .zero
  | _ => .zero

def document (c : RouteCounts) : Document :=
  .object [
    ("started", Document.ofNat c.started),
    ("completed", Document.ofNat c.completed),
    ("failed", Document.ofNat c.failed),
    ("rejected", Document.ofNat c.rejected),
    ("avg_processing_time_ms",
      .number (c.averageMillis.write Binary.document .double))]

end RouteCounts

abbrev Metrics := List (Bytes × RouteCounts)

namespace Metrics

def get? (route : Bytes) : Metrics → Option RouteCounts
  | [] => none
  | (name, counts) :: rest =>
      if name == route then some counts else get? route rest

def observe (e : Event) : Metrics → Metrics
  | [] => [(e.route, ({} : RouteCounts).add e)]
  | (name, counts) :: rest =>
      if name == e.route then (name, counts.add e) :: rest
      else (name, counts) :: observe e rest

def observeAll (events : List Event) (m : Metrics) : Metrics :=
  events.foldl (fun m e => observe e m) m

def document (m : Metrics) : Document :=
  .object (Fields.sorted (m.map fun (route, counts) =>
    (route, counts.document)))

end Metrics

end ModelGateway
