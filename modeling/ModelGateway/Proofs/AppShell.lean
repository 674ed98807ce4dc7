import ModelGateway.Proofs.Course

namespace ModelGateway

namespace Route

def Registered (method path : Bytes) : Prop :=
  method = utf8 "GET" ∧ path = utf8 "/health" ∨
    method = utf8 "POST" ∧ (path = utf8 "/analyze" ∨ path = utf8 "/api/ai") ∨
    (method = utf8 "GET" ∨ method = utf8 "HEAD") ∧ utf8 "/static/" <+: path

instance {method path : Bytes} : Decidable (Registered method path) :=
  inferInstanceAs (Decidable (_ ∨ _ ∨ _))

/-- Where a path leads with a slash more or less at its end: to an endpoint or
to the root. -/
def Misses (method path target : Bytes) : Prop :=
  (Registered method target ∨ method = utf8 "GET" ∧ target = utf8 "/") ∧
    (path = target ++ utf8 "/" ∨ target = path ++ utf8 "/")

variable {method path target : Bytes}

private theorem isSome_assetPath?_iff :
    (assetPath? path).isSome = true ↔ utf8 "/static/" <+: path := by
  constructor
  · intro found
    obtain ⟨rest, found⟩ := Option.isSome_iff_exists.1 found
    obtain ⟨dropped, slash⟩ := Option.filter_eq_some_iff.1 found
    obtain ⟨more, rfl⟩ := Bytes.startsWith_iff.1 slash
    rw [Bytes.dropStart?_eq_some_iff.1 dropped]
    exact ⟨more, rfl⟩
  · intro below
    obtain ⟨more, rfl⟩ := below
    have dropped : Bytes.dropStart? assets (utf8 "/static/" ++ more) =
        some (utf8 "/" ++ more) :=
      Bytes.dropStart?_eq_some_iff.2 rfl
    rw [assetPath?, dropped]
    rfl

theorem isSome_find?_iff :
    (find? method path).isSome = true ↔ Registered method path ∨
      method = utf8 "GET" ∧ path = utf8 "/" := by
  have get_head : utf8 "GET" ≠ utf8 "HEAD" := by decide
  have get_post : utf8 "GET" ≠ utf8 "POST" := by decide
  have head_post : utf8 "HEAD" ≠ utf8 "POST" := by decide
  unfold find? Registered
  split_ifs with get health root head post upload prompt <;>
    simp_all [isSome_assetPath?_iff]

theorem find?_of_not_registered (unregistered : ¬ Registered method path) :
    find? method path = none ∨ find? method path = some .entry ∧
      method = utf8 "GET" ∧ path = utf8 "/" := by
  cases found : find? method path with
  | none => exact .inl rfl
  | some route =>
      have routed : (find? method path).isSome = true := by rw [found]; rfl
      obtain ⟨rfl, rfl⟩ := (isSome_find?_iff.1 routed).resolve_left unregistered
      cases found
      exact .inr ⟨rfl, rfl, rfl⟩

private theorem ne_nil_of_isSome_find?
    (found : (find? method path).isSome = true) : path ≠ [] := by
  intro empty
  subst empty
  rcases isSome_find?_iff.1 found with (⟨-, whole⟩ | ⟨-, whole | whole⟩ |
    ⟨-, below⟩) | ⟨-, whole⟩
  · cases whole
  · cases whole
  · cases whole
  · cases List.prefix_nil.1 below
  · cases whole

theorem eq_of_isSome_find?_slash
    (found : (find? method (path ++ utf8 "/")).isSome = true)
    (unregistered : ¬ Registered method path) :
    path = [] ∨ path = utf8 "/static" := by
  have ending : (path ++ utf8 "/").getLast? = some 0x2f := List.getLast?_concat
  rcases isSome_find?_iff.1 found with (⟨-, whole⟩ | ⟨-, whole | whole⟩ |
    ⟨read, below⟩) | ⟨-, whole⟩
  · rw [whole] at ending
    cases ending
  · rw [whole] at ending
    cases ending
  · rw [whole] at ending
    cases ending
  · rcases List.prefix_concat_iff.1 below with whole | inside
    · exact .inr (List.append_cancel_right
        (show path ++ utf8 "/" = utf8 "/static" ++ utf8 "/" from whole.symm))
    · exact absurd (.inr (.inr ⟨read, inside⟩)) unregistered
  · exact .inl (List.append_cancel_right
      (show path ++ utf8 "/" = [] ++ utf8 "/" from whole))

theorem nearby?_eq_some_iff (unregistered : ¬ Registered method path) :
    nearby? method path = some target ↔ Misses method path target := by
  rw [Misses, ← isSome_find?_iff]
  constructor
  · intro near
    unfold nearby? at near
    split_ifs at near with skipped ending routed routed
    · cases near
      obtain ⟨front, rfl⟩ := Bytes.endsWith_iff.1 ending
      refine ⟨routed, .inl ?_⟩
      exact congrArg (· ++ utf8 "/") List.dropLast_concat.symm
    · cases near
      exact ⟨routed, .inr rfl⟩
  · intro near
    obtain ⟨routed, near⟩ := near
    -- Neither way the path is the root itself, and it has no route.
    have notRoot : path ≠ utf8 "/" := by
      intro root
      subst root
      rcases near with whole | whole
      · exact ne_nil_of_isSome_find? routed
          (List.append_cancel_right
            (show target ++ utf8 "/" = [] ++ utf8 "/" from whole.symm))
      · rw [whole] at routed
        rcases eq_of_isSome_find?_slash routed unregistered with empty | assets
        · cases empty
        · cases assets
    have unrouted : (find? method path).isSome = false := by
      rcases find?_of_not_registered unregistered with none | ⟨-, -, root⟩
      · rw [none]
        rfl
      · exact absurd root notRoot
    have skipped :
        ((find? method path).isSome || path == utf8 "/") = false := by
      rw [unrouted, Bool.false_or]
      exact beq_eq_false_iff_ne.2 notRoot
    rcases near with rfl | rfl
    · have ending : Bytes.endsWith "/" (target ++ utf8 "/") = true :=
        Bytes.endsWith_iff.2 (List.suffix_append _ _)
      have shorter : (target ++ utf8 "/").dropLast = target :=
        List.dropLast_concat
      rw [nearby?, skipped, ending, shorter, routed]
      rfl
    · have ending : Bytes.endsWith "/" path = false := by
        rcases eq_of_isSome_find?_slash routed unregistered with rfl |
          rfl <;> decide
      rw [nearby?, skipped, ending, routed]
      rfl

end Route

/-- The request reads a path outside the interface and the assets. -/
def Request.AsksForPage (r : Request) : Prop :=
  (r.method = utf8 "GET" ∨ r.method = utf8 "HEAD") ∧
    ¬ utf8 "/api/" <+: r.target.path ∧ ¬ utf8 "/static/" <+: r.target.path

instance {r : Request} : Decidable r.AsksForPage :=
  inferInstanceAs (Decidable (_ ∧ _ ∧ _))

/-- The request wants a file whole, whatever version of it the client has. -/
structure Request.IsUnconditional (r : Request) : Prop where
  ifMatch : r.header "If-Match" = []
  ifNoneMatch : r.header "If-None-Match" = []
  ifModifiedSince : r.header "If-Modified-Since" = []
  ifUnmodifiedSince : r.header "If-Unmodified-Since" = []
  range : r.header "Range" = []

namespace Serve

variable {r : Request} {boundary : Bytes} {entry : File}

def entryPage (r : Request) (entry : File) : Response where
  status := 200
  headers :=
    [("Last-Modified", Date.write entry.modified),
      ("Content-Type", "text/html; charset=utf-8"), ("Accept-Ranges", "bytes"),
      ("Content-Length", Bytes.ofNat entry.content.length)]
  body := if r.method = utf8 "HEAD" then [] else entry.content

private theorem rangeField_of_empty {modified : Instant}
    (range : r.header "Range" = []) :
    rangeField r modified = [] := by
  simp only [rangeField, range]
  split
  · rfl
  · split
    · split <;> rfl
    · rfl

private theorem file_of_isUnconditional (unconditional : r.IsUnconditional) :
    file r boundary indexName entry = entryPage r entry := by
  obtain ⟨ifMatch, ifNoneMatch, ifModifiedSince, ifUnmodifiedSince, range⟩ :=
    unconditional
  have undated : Date.read? [] = none := by decide
  have passes : fails r entry.modified = false := by
    simp [fails, matching?, ifMatch, unchangedSince?,
      ifUnmodifiedSince, undated]
  have unknown : isKnown r entry.modified = false := by
    simp [isKnown, matching?, ifNoneMatch, unchangedSince?,
      ifModifiedSince, undated]
  have named : ContentType.byExtension.lookup
      (Bytes.lower (Path.extension indexName)) =
      some (utf8 "text/html; charset=utf-8") := by
    decide
  rw [file, passes, unknown]
  simp [rangeField_of_empty range, ByteRange.read, ByteRange.isExcessive,
    content, lastModified, ContentType.ofFile, named, entryPage]

private theorem status_file (r : Request) (boundary name : Bytes) (f : File) :
    (file r boundary name f).status ∈ [200, 206, 304, 412, 416] := by
  unfold file
  dsimp only
  split_ifs
  · simp
  · simp
  · split
    · split_ifs <;> simp [content, Response.plain]
    · split_ifs
      · simp [content]
      · split <;> simp [content]

theorem document_of_climbs (climbs : Path.climbs r.target.path = true) :
    document r boundary indexName entry =
      Response.plain 400 "invalid URL path" :=
  if_pos climbs

theorem document_of_namesIndex (stays : Path.climbs r.target.path = false)
    (names : utf8 "/index.html" <:+ r.target.path) :
    document r boundary indexName entry = moved r "./" := by
  have ends : namesIndex r.target.path = true := Bytes.endsWith_iff.2 names
  rw [document, stays, ends]
  rfl

theorem document_of_page (stays : Path.climbs r.target.path = false)
    (unnamed : ¬ utf8 "/index.html" <:+ r.target.path) :
    document r boundary indexName entry = file r boundary indexName entry := by
  have ends : namesIndex r.target.path = false :=
    Bool.eq_false_iff.2 (mt Bytes.endsWith_iff.1 unnamed)
  rw [document, stays, ends]
  rfl

private theorem status_document (r : Request) (boundary name : Bytes)
    (f : File) :
    (document r boundary name f).status ∈
      [200, 206, 301, 304, 400, 412, 416] := by
  unfold document
  split_ifs
  · simp [Response.plain]
  · simp [moved]
  · have served := status_file r boundary name f
    simp only [List.mem_cons] at served ⊢
    tauto

end Serve

namespace Gateway

variable {g : Gateway} {metrics : Metrics} {a : Arrival} {v : Visit}
    {r : Request} {document : File}

private theorem serve_page
    (unregistered : ¬ Route.Registered r.method r.target.path)
    (asks : r.AsksForPage)
    (present : g.files.find
      (Path.names (Path.join g.settings.templateDir Serve.indexName)) =
      .ok (.file document)) :
    g.serve metrics a v r = Step.done
      (Serve.document r a.boundary Serve.indexName document) := by
  have entry : g.serveEntry a r =
      Step.done (Serve.document r a.boundary Serve.indexName document) := by
    simp only [serveEntry, present]
  obtain ⟨read, noApi, noAsset⟩ := asks
  rcases Route.find?_of_not_registered unregistered with none | ⟨root, -⟩
  · have isRead : r.isRead = true := by
      rw [Request.isRead, Bool.or_eq_true, beq_iff_eq, beq_iff_eq]
      exact read
    have api : Bytes.startsWith "/api/" r.target.path = false :=
      Bool.eq_false_iff.2 (mt Bytes.startsWith_iff.1 noApi)
    have asset : Bytes.startsWith "/static/" r.target.path = false :=
      Bool.eq_false_iff.2 (mt Bytes.startsWith_iff.1 noAsset)
    rw [serve, none]
    simp only [serveRest, isRead, api, asset]
    exact entry
  · rw [serve, root]
    exact entry

private theorem serve_unknown
    (unregistered : ¬ Route.Registered r.method r.target.path)
    (noPage : ¬ r.AsksForPage) :
    g.serve metrics a v r = notFound none := by
  rcases Route.find?_of_not_registered unregistered with none | ⟨-, get, root⟩
  · have refused : (!r.isRead || Bytes.startsWith "/api/" r.target.path ||
        Bytes.startsWith "/static/" r.target.path) = true := by
      by_contra passed
      apply noPage
      simp only [Request.isRead, Bool.or_eq_true, Bool.not_eq_true', not_or,
        Bool.not_eq_false, Bytes.startsWith_iff, beq_iff_eq] at passed
      exact ⟨passed.1.1, passed.1.2, passed.2⟩
    rw [serve, none]
    simp only [serveRest, refused]
    rfl
  · apply absurd _ noPage
    rw [Request.AsksForPage, get, root]
    decide

end Gateway

namespace Server

variable {s : Server} {a : Arrival} {r : Request} {document : File}

private theorem isFor_of_not_registered
    (unregistered : ¬ Route.Registered r.method r.target.path)
    (m : ModelRoute) :
    r.isFor m = false := by
  rw [Bool.eq_false_iff]
  intro isFor
  obtain ⟨post, path⟩ := Request.isFor_iff.1 isFor
  apply unregistered
  cases m with
  | analysis => exact .inr (.inl ⟨post, .inl path⟩)
  | prompt => exact .inr (.inl ⟨post, .inr path⟩)

private theorem step_of_not_registered
    (unregistered : ¬ Route.Registered r.method r.target.path) :
    (s.step a r).2.trace.requests = [] ∧ (s.step a r).2.trace.events = [] ∧
      (s.step a r).1 = s := by
  have elsewhere := isFor_of_not_registered unregistered
  have events : (s.gateway.answer (if s.showsMetrics then s.metrics else []) a
      r).trace.events = [] :=
    Gateway.answer_events_of_elsewhere elsewhere
  refine ⟨?_, events, ?_⟩
  · change (s.gateway.answer _ a r).trace.requests = []
    unfold Gateway.answer
    split
    · rfl
    · change (s.gateway.serve _ a _ r).trace.requests ++ [] = []
      rw [Gateway.serve_trace_of_elsewhere elsewhere]
      rfl
  · simp only [step, events]
    rfl

private theorem status_redirect (r : Request) (target : Bytes) :
    (Redirect.response r target).status = 301 ∨
      (Redirect.response r target).status = 307 := by
  simp only [Redirect.response]
  split_ifs
  · exact .inl rfl
  · exact .inr rfl

theorem step_of_misses {target : Bytes}
    (unregistered : ¬ Route.Registered r.method r.target.path)
    (misses : Route.Misses r.method r.target.path target) :
    (s.step a r).2.response = Redirect.response r target := by
  change (s.gateway.answer _ a r).response = _
  rw [Gateway.answer, (Route.nearby?_eq_some_iff unregistered).2 misses]

theorem step_of_straight
    (unregistered : ¬ Route.Registered r.method r.target.path)
    (straight : ∀ target, ¬ Route.Misses r.method r.target.path target) :
    ∃ metrics v, (s.step a r).2.response =
      (s.gateway.serve metrics a v r).outcome.response.named
        (r.identity a.freshId) := by
  have near : Route.nearby? r.method r.target.path = none := by
    rw [Option.eq_none_iff_forall_ne_some]
    intro target near
    exact straight target ((Route.nearby?_eq_some_iff unregistered).1 near)
  refine ⟨_, _, Eq.trans ?_
    (s.gateway.handle_response (if s.showsMetrics then s.metrics else []) a r)⟩
  change (s.gateway.answer _ a r).response = _
  rw [Gateway.answer, near]

theorem step_of_unknown
    (unregistered : ¬ Route.Registered r.method r.target.path)
    (straight : ∀ target, ¬ Route.Misses r.method r.target.path target)
    (noPage : ¬ r.AsksForPage) :
    (s.step a r).2.response =
      (Gateway.reply 404 (errorDocument "not found")).named
        (r.identity a.freshId) := by
  obtain ⟨metrics, v, response⟩ :=
    step_of_straight (s := s) (a := a) unregistered straight
  rw [response, Gateway.serve_unknown unregistered noPage]
  rfl

theorem step_of_page (unregistered : ¬ Route.Registered r.method r.target.path)
    (straight : ∀ target, ¬ Route.Misses r.method r.target.path target)
    (asks : r.AsksForPage)
    (present : s.gateway.files.find
      (Path.names (Path.join s.gateway.settings.templateDir Serve.indexName)) =
      .ok (.file document)) :
    (s.step a r).2.response =
      (Serve.document r a.boundary Serve.indexName document).named
        (r.identity a.freshId) := by
  obtain ⟨metrics, v, response⟩ :=
    step_of_straight (s := s) (a := a) unregistered straight
  rw [response, Gateway.serve_page unregistered asks present]
  rfl

/-- With its entry document present, the gateway answers a request for no
endpoint with that document exactly if a page is asked for by a path that misses
no route by a slash, does not lead up and does not name the document itself. A
path that misses a route by a slash is sent there, one that leads up is refused,
and one that names the document is sent to its directory; anything else is not
found. -/
theorem page_exactly_if_asked
    (unregistered : ¬ Route.Registered r.method r.target.path)
    (present :
      s.gateway.files.find
        (Path.names
          (Path.join s.gateway.settings.templateDir Serve.indexName)) =
        .ok (.file document)) :
    (r.IsUnconditional →
      ((s.step a r).2.response =
          (Serve.entryPage r document).named (r.identity a.freshId) ↔
        r.AsksForPage ∧
        (∀ target, ¬ Route.Misses r.method r.target.path target) ∧
        Path.climbs r.target.path = false ∧
        ¬ utf8 "/index.html" <:+ r.target.path)) ∧
    ((s.step a r).2.response =
        (Gateway.reply 404 (errorDocument "not found")).named
          (r.identity a.freshId) ↔
      ¬ r.AsksForPage ∧
      ∀ target, ¬ Route.Misses r.method r.target.path target) ∧
    (∀ target, Route.Misses r.method r.target.path target →
      (s.step a r).2.response = Redirect.response r target) ∧
    (r.AsksForPage → (∀ target, ¬ Route.Misses r.method r.target.path target) →
      (Path.climbs r.target.path = true →
        (s.step a r).2.response = (Response.plain 400 "invalid URL path").named
          (r.identity a.freshId)) ∧
      (Path.climbs r.target.path = false →
        utf8 "/index.html" <:+ r.target.path →
        (s.step a r).2.response =
          (Serve.moved r "./").named (r.identity a.freshId)) ∧
      (Path.climbs r.target.path = false →
        ¬ utf8 "/index.html" <:+ r.target.path →
        (s.step a r).2.response =
          (Serve.file r a.boundary Serve.indexName document).named
            (r.identity a.freshId))) ∧
    (s.step a r).2.trace.requests = [] ∧ (s.step a r).2.trace.events = [] ∧
      (s.step a r).1 = s := by
  have redirected : ∀ target, Route.Misses r.method r.target.path target →
      (s.step a r).2.response.status = 301 ∨
        (s.step a r).2.response.status = 307 := by
    intro target misses
    rw [step_of_misses unregistered misses]
    exact status_redirect r target
  refine ⟨fun unconditional => ⟨?_, ?_⟩, ⟨?_, ?_⟩, fun target =>
    step_of_misses unregistered, fun asks straight =>
    ?_, step_of_not_registered unregistered⟩
  -- Every other answer has another status than 200.
  · intro page
    have ok : (s.step a r).2.response.status = 200 :=
      congrArg Response.status page
    have straight : ∀ target, ¬ Route.Misses r.method r.target.path target := by
      intro target misses
      rcases redirected target misses with status |
        status <;> cases ok.symm.trans status
    have asks : r.AsksForPage := by
      by_contra noPage
      rw [step_of_unknown unregistered straight noPage] at ok
      cases ok
    rw [step_of_page unregistered straight asks present] at ok
    have stays : Path.climbs r.target.path = false := by
      by_contra climbs
      rw [Serve.document_of_climbs (Bool.not_eq_false _ ▸ climbs)] at ok
      cases ok
    refine ⟨asks, straight, stays, ?_⟩
    intro names
    rw [Serve.document_of_namesIndex stays names] at ok
    cases ok
  · intro page
    obtain ⟨asks, straight, stays, unnamed⟩ := page
    rw [step_of_page unregistered straight asks present,
      Serve.document_of_page stays unnamed,
      Serve.file_of_isUnconditional unconditional]
  · intro unknown
    have missing : (s.step a r).2.response.status = 404 :=
      congrArg Response.status unknown
    have straight : ∀ target, ¬ Route.Misses r.method r.target.path target := by
      intro target misses
      rcases redirected target misses with status |
        status <;> cases missing.symm.trans status
    refine ⟨?_, straight⟩
    intro asks
    rw [step_of_page unregistered straight asks present] at missing
    -- No answer made from the page document is a 404.
    have served := Serve.status_document r a.boundary Serve.indexName document
    rw [show (Serve.document r a.boundary Serve.indexName document).status = 404
      from missing] at served
    revert served
    decide
  · intro unknown
    exact step_of_unknown unregistered unknown.2 unknown.1
  · rw [step_of_page unregistered straight asks present]
    refine ⟨?_, ?_, ?_⟩
    · intro climbs
      rw [Serve.document_of_climbs climbs]
    · intro stays names
      rw [Serve.document_of_namesIndex stays names]
    · intro stays unnamed
      rw [Serve.document_of_page stays unnamed]

def shell : Server where
  gateway := gatewayOf { templateDir := "templates" } none false
    { files :=
        [(["templates", "index.html"],
          ⟨"<html>app shell</html>", Instant.zero⟩)]
      modified := Instant.zero }

def reading (path : Bytes) : Request where
  method := "GET"
  target := ⟨path, path, none⟩

theorem page_beside_interface :
    ¬ Route.Registered (reading "/apix/").method
      (reading "/apix/").target.path ∧ (reading "/apix/").IsUnconditional ∧
      (shell.step ⟨[], "rid", [], Instant.zero, 0⟩
        (reading "/apix/")).2.response =
        (Serve.entryPage (reading "/apix/")
          ⟨"<html>app shell</html>", Instant.zero⟩).named "rid" := by
  have unregistered : ¬ Route.Registered (reading "/apix/").method
      (reading "/apix/").target.path := by
    decide
  have unconditional : (reading "/apix/").IsUnconditional :=
    ⟨rfl, rfl, rfl, rfl, rfl⟩
  have straight :
      ∀ target, ¬ Route.Misses (utf8 "GET") (utf8 "/apix/") target := by
    intro target misses
    have near : Route.nearby? (utf8 "GET") (utf8 "/apix/") = none := by decide
    cases near.symm.trans ((Route.nearby?_eq_some_iff unregistered).2 misses)
  obtain ⟨page, -⟩ :=
    page_exactly_if_asked (s := shell) (a := ⟨[], "rid", [], Instant.zero, 0⟩)
      unregistered rfl
  exact ⟨unregistered, unconditional,
    (page unconditional).2 ⟨by decide, straight, by decide, by decide⟩⟩

theorem pages_not_shown :
    let a : Arrival := ⟨[], "rid", [], Instant.zero, 0⟩
    let partly : Request :=
      { reading "/docs" with headers := [("Range", "bytes=0-3")] }
    (∀ r ∈ [reading "/health/", reading "/docs/index.html",
        reading "/a/../b", partly],
      ¬ Route.Registered r.method r.target.path ∧ r.AsksForPage) ∧
      [reading "/health/", reading "/docs/index.html",
        reading "/a/../b", partly].map
        (fun r => (shell.step a r).2.response.status) =
          [301, 301, 400, 206] := by
  decide +kernel

end Server

end ModelGateway
