import ModelGateway.Proofs.Checked
import ModelGateway.Proofs.Handling

/-!
The answer to an upload. What the form in the body holds decides how a request
ends, and so does the query, which has to be sound although nothing in it is
used.
-/

namespace ModelGateway

namespace Multipart

variable {boundary : Bytes} {cut : Bool} {fault : MultipartFault}

private theorem cut_of_seek {state : Seeking} {s : Bytes}
    (failed : seek boundary cut state s = .error fault)
    (isCut : fault.isCut = true) : cut = true := by
  fun_induction seek boundary cut state s with
  | case1 | case4 | case8 | case11 =>
      cases failed
      cases isCut
  | case2 | case5 | case6 | case7 => cases failed
  | case3 =>
      cases failed
      exact isCut
  | case9 | case10 =>
      rename_i induction
      exact induction failed

private theorem fields_not_cut {a : Allowance} {most : Nat} {read : Headers}
    {s : Bytes} (broken : fields a most read s = .broken fault) :
    fault.isCut = false := by
  fun_induction fields a most read s with
  | case1 | case2 | case4 => cases broken
  | case3 | case5 | case6 | case7 | case8 =>
      cases broken
      rfl
  | case9 =>
      rename_i induction
      exact induction broken

private theorem header_not_cut {a : Allowance} {s : Bytes}
    (broken : header a s = .broken fault) : fault.isCut = false := by
  unfold header at broken
  split at broken
  · split at broken
    · cases broken
      rfl
    · cases broken
      rfl
    · cases broken
  · exact fields_not_cut broken

end Multipart

namespace Form

variable {limit : Int} {r : Request} {form : Form} {fault : FormFault}

section Parts

variable {boundary : Bytes} {cut : Bool} {a : Multipart.Allowance}
    {headers : Headers} {label : Label} {d : Multipart.Delivery}

private theorem cut_of_content (found : (content cut headers d).2 = some fault)
    (isCut : fault.isCut = true) : cut = true := by
  obtain broken | ⟨-, ended⟩ := Option.or_eq_some_iff.1 found
  · obtain ⟨inner, -, rfl⟩ := Option.map_eq_some_iff.1 broken
    cases isCut
  · split at ended
    · cases ended
    · cases ended
      cases cut with
      | true => rfl
      | false => cases isCut

private theorem fault_of_takeValue {name data : Bytes}
    {fault? : Option FormFault}
    (failed : takeValue a name data fault? = .error fault) :
    fault = tooLarge ∨ fault? = some fault := by
  simp only [takeValue] at failed
  by_cases full : a.memory - nameCost name - data.length < 0
  · rw [if_pos full] at failed
    cases failed
    exact .inl rfl
  · rw [if_neg full] at failed
    cases fault? with
    | none => cases failed
    | some _ =>
        cases failed
        exact .inr rfl

private theorem fault_of_takeFile {name filename data : Bytes}
    {fault? : Option FormFault}
    (failed : takeFile a headers name filename data fault? = .error fault) :
    fault = tooLarge ∨ fault? = some fault := by
  simp only [takeFile] at failed
  by_cases full : a.memory - nameCost name - fileCost headers < 0
  · rw [if_pos full] at failed
    cases failed
    exact .inl rfl
  · rw [if_neg full] at failed
    cases fault? with
    | none => cases failed
    | some _ =>
        cases failed
        exact .inr rfl

private theorem fault_of_takePart
    (failed : takePart cut a headers label d = .error fault) :
    fault = tooLarge ∨ (content cut headers d).2 = some fault := by
  simp only [takePart] at failed
  split at failed
  · exact fault_of_takeValue failed
  · exact fault_of_takeFile failed

private theorem cut_of_takePart
    (failed : takePart cut a headers label d = .error fault)
    (isCut : fault.isCut = true) : cut = true := by
  obtain rfl | broken := fault_of_takePart failed
  · cases isCut
  · exact cut_of_content broken isCut

private theorem cut_of_ofParts {left : Nat} {state : Multipart.Seeking}
    {s : Bytes} (failed : ofParts boundary cut left a state s = .error fault)
    (isCut : fault.isCut = true) : cut = true := by
  fun_induction ofParts boundary cut left a state s with
  | case1 =>
      cases failed
      exact Multipart.cut_of_seek ‹_› isCut
  | case2 | case4 => cases failed
  | case3 => assumption
  | case5 =>
      cases failed
      cases (Multipart.header_not_cut ‹_›).symm.trans isCut
  | case6 =>
      cases failed
      cases isCut
  | case7 =>
      cases failed
      exact isCut
  | case8 =>
      rename_i induction
      exact induction failed
  | case9 =>
      cases failed
      exact cut_of_takePart ‹_› isCut
  | case10 =>
      rename_i induction
      obtain failed | ⟨_, _, failed⟩ := bind_eq_error_iff.1 failed
      · exact induction failed
      · cases failed

end Parts

private theorem cut_of_ofIncoming {boundary : Bytes} {body : Incoming}
    (failed : ofIncoming boundary body = .error fault)
    (isCut : fault.isCut = true) : body.cut = true := by
  unfold ofIncoming at failed
  split at failed
  · cases failed
    cases isCut
  · exact cut_of_ofParts failed isCut

def ofBody (limit : Int) (r : Request) : Except FormFault Form := do
  let boundary ← Form.boundary (r.header "Content-Type")
  ofIncoming boundary (.limited limit r.body)

def queryFault? (r : Request) : Option QueryFault :=
  QueryFault.ofQuery? (r.target.query.getD [])

theorem ofRequest_eq (limit : Int) (r : Request) :
    ofRequest limit r = ofBody limit r >>= fun form =>
      match queryFault? r with
      | some fault => .error (.query fault)
      | none => .ok form := by
  simp only [ofRequest, ofBody, queryFault?, bind_assoc]
  rfl

private theorem boundary_not_cut {contentType : Bytes}
    (failed : boundary contentType = .error fault) :
    fault.isCut = false := by
  unfold boundary at failed
  split at failed
  · cases failed
    rfl
  · split at failed
    · cases failed
      rfl
    · cases failed

private theorem cut_of_ofBody (failed : ofBody limit r = .error fault)
    (isCut : fault.isCut = true) : limit.toNat < r.body.length := by
  unfold ofBody at failed
  obtain unknown | ⟨boundary, -, failed⟩ := bind_eq_error_iff.1 failed
  · cases (boundary_not_cut unknown).symm.trans isCut
  · exact of_decide_eq_true (cut_of_ofIncoming failed isCut)

end Form

/-- The body holds an image, and the query is sound. -/
structure ImageSent (limit : Int) (r : Request) (form : Form)
    (upload : Upload) : Prop where
  form_eq : Form.ofBody limit r = .ok form
  upload_eq : form.file? "image" = some upload
  sound : Form.queryFault? r = none

/-- No image can be had from the request, and no limit on the body is to
blame. -/
inductive NoImageSent (limit : Int) (r : Request) : Prop
  | noForm {fault : FormFault} (failed : Form.ofBody limit r = .error fault)
      (uncut : fault.isCut = false)
  | noFile {form : Form} (form_eq : Form.ofBody limit r = .ok form)
      (absent : form.file? "image" = none)
  | unsound {form : Form} {fault : QueryFault}
      (form_eq : Form.ofBody limit r = .ok form)
      (fault_eq : Form.queryFault? r = some fault)

inductive AnalysisCase where
  | tooLarge
  | noImage
  | undecodable
  | brokenDown
  | asked

/-- What each case says of the request, of the answer and of the generator. -/
def AnalysisCase.Holds (service : AnalysisService) (limit : Int)
    (generator : Generator) (r : Request) (exchange : Exchange) :
    AnalysisCase → Prop
  | .tooLarge =>
      (∃ fault, Form.ofBody limit r = .error fault ∧ fault.isCut = true) ∧
      limit.toNat < r.body.length ∧
        exchange.Answers 413 (errorDocument "request body too large") []
  | .noImage =>
      NoImageSent limit r ∧
        exchange.Answers 400 (errorDocument service.language.noImage) []
  | .undecodable => ∃ form upload fault, ImageSent limit r form upload ∧
      Decoded.decode upload.data = .error fault ∧
        fault.isBreakdown = false ∧
          exchange.Answers 500 (errorDocument fault.message) []
  | .brokenDown => ∃ form upload fault, ImageSent limit r form upload ∧
      Decoded.decode upload.data = .error fault ∧
        fault.isBreakdown = true ∧ exchange.BreaksDown
  | .asked => ∃ form upload decoded request, ImageSent limit r form upload ∧
      Decoded.decode upload.data = .ok decoded ∧
        request = GenerateRequest.mk service.model
          ((form.value? "prompt").getD service.language.defaultInstruction)
            (some decoded.payload) none ∧
          ((∃ text, (generator request).outcome = .value text ∧
              exchange.Answers 200 (.object [Document.textField "analysis" text,
                Document.textField "status" "success"]) [request]) ∨
            ∃ failure, (generator request).outcome = .failure failure ∧
              exchange.Answers 500 (errorDocument failure.text) [request])

namespace AnalysisCase

variable {service : AnalysisService} {limit : Int} {generator : Generator}
    {r : Request}
  {exchange : Exchange}

def of (limit : Int) (r : Request) : AnalysisCase :=
  match Form.ofBody limit r with
  | .error fault => if fault.isCut then .tooLarge else .noImage
  | .ok form =>
      match Form.queryFault? r, form.file? "image" with
      | none, some upload =>
          match Decoded.decode upload.data with
          | .error fault =>
              if fault.isBreakdown then .brokenDown else .undecodable
          | .ok _ => .asked
      | _, _ => .noImage

theorem Holds.eq_of {c : AnalysisCase}
    (holds : c.Holds service limit generator r exchange) :
    c = of limit r := by
  unfold of
  cases c with
  | tooLarge =>
      obtain ⟨⟨fault, failed, isCut⟩, -⟩ := holds
      simp only [failed, isCut, if_true]
  | noImage =>
      obtain ⟨none_sent, -⟩ := holds
      cases none_sent with
      | noForm failed uncut => simp [failed, uncut]
      | noFile form_eq absent =>
          simp only [form_eq, absent]
          cases Form.queryFault? r <;> rfl
      | unsound form_eq fault_eq => simp only [form_eq, fault_eq]
  | undecodable =>
      obtain ⟨form, upload, fault, sent, undecoded, orderly, -⟩ := holds
      simp [sent.form_eq, sent.sound, sent.upload_eq, undecoded, orderly]
  | brokenDown =>
      obtain ⟨form, upload, fault, sent, undecoded, broken, -⟩ := holds
      simp only [sent.form_eq, sent.sound, sent.upload_eq, undecoded, broken,
        if_true]
  | asked =>
      obtain ⟨form, upload, decoded, request, sent, decodes, -⟩ := holds
      simp only [sent.form_eq, sent.sound, sent.upload_eq, decodes]

end AnalysisCase

namespace AnalysisService

variable {service : AnalysisService} {generator : Generator} {v : Visit}
    {request : AnalysisRequest}

theorem analyze_of_none (ready : service.access.Ready generator)
    (absent : request.image = none) :
    service.analyze v request =
      Step.fail (.validation service.language.noImage none) := by
  rw [analyze, check, ready.require_eq, Step.done_bind, absent]

theorem analyze_of_error {file : Bytes} {fault : ImageFault}
    (ready : service.access.Ready generator) (sent : request.image = some file)
    (undecoded : Decoded.decode file = .error fault) :
    service.analyze v request =
      service.access.start v route service.model >>= fun _ =>
        if fault.isBreakdown then Step.breakDown fault.message
        else service.access.abort v route service.model
          (.plain fault.message) := by
  rw [analyze, check, ready.require_eq, Step.done_bind, sent]
  simp only [undecoded]

private theorem gives_analyze_of_fault {file : Bytes} {fault : ImageFault}
    (ready : service.access.Ready generator) (sent : request.image = some file)
    (undecoded : Decoded.decode file = .error fault)
    (orderly : fault.isBreakdown = false) :
    (service.analyze v request).Gives
      (.failure (.provider (some (.plain fault.message)))) [] := by
  rw [analyze_of_error ready sent undecoded, orderly]
  exact (ModelAccess.gives_announce _).bind (ModelAccess.gives_abort _)

private theorem gives_analyze_of_breakdown {file : Bytes} {fault : ImageFault}
    (ready : service.access.Ready generator) (sent : request.image = some file)
    (undecoded : Decoded.decode file = .error fault)
    (broken : fault.isBreakdown = true) :
    (service.analyze v request).Gives (.crash fault.message) [] := by
  rw [analyze_of_error ready sent undecoded, broken]
  exact (ModelAccess.gives_announce _).bind (Step.gives_breakDown _)

-- A bitmap of no more than its header, which announces more pixels than a
-- length can count.
example : Decoded.decode (utf8 "BM" ++
    [54, 0, 0, 0, 0, 0, 0, 0, 54, 0, 0, 0, 40, 0, 0, 0, 255, 255, 255, 127, 255,
      255, 255, 127, 1, 0, 24, 0] ++ List.replicate 24 0) =
    .error (.breakdown (.dimensions (Storage.colour8 false).name)) := by
  rfl

def toGenerate (service : AnalysisService) (prompt : Option Bytes)
    (decoded : Decoded) : GenerateRequest where
  model := service.model
  prompt := prompt.getD service.language.defaultInstruction
  image := some decoded.payload

private theorem gives_analyze_value {file text : Bytes} {decoded : Decoded}
    (ready : service.access.Ready generator)
    (sent : request.image = some file)
    (decodes : Decoded.decode file = .ok decoded)
    (replied : (generator (service.toGenerate request.prompt decoded)).outcome =
      .value text) :
    (service.analyze v request).Gives (.value text)
      [service.toGenerate request.prompt decoded] := by
  rw [analyze, check, ready.require_eq, Step.done_bind, sent]
  simp only [decodes]
  exact (ModelAccess.gives_announce _).bind
    ((Step.gives_write _).bind (ModelAccess.gives_generate_value replied))

private theorem gives_analyze_failure {file : Bytes} {cause : Failure}
    {decoded : Decoded} (ready : service.access.Ready generator)
    (sent : request.image = some file)
    (decodes : Decoded.decode file = .ok decoded)
    (replied : (generator (service.toGenerate request.prompt decoded)).outcome =
      .failure cause) :
    (service.analyze v request).Gives (.failure (.provider (some cause)))
      [service.toGenerate request.prompt decoded] := by
  rw [analyze, check, ready.require_eq, Step.done_bind, sent]
  simp only [decodes]
  exact (ModelAccess.gives_announce _).bind
    ((Step.gives_write _).bind (ModelAccess.gives_generate_failure replied))

end AnalysisService

namespace Gateway

variable {g : Gateway} {generator : Generator} {v : Visit} {r : Request}
    {form : Form} {upload : Upload}

theorem serveAnalysis_eq (ready : g.analysis.access.Ready generator) :
    g.serveAnalysis v r = g.analysisRequest v r >>= fun request =>
      g.analysis.analyze v request >>= fun text =>
        Step.done (reply 200 (AnalysisService.document text)) := by
  rw [serveAnalysis, AnalysisService.check, ready.require_eq, Step.done_bind]
  rfl

theorem analysisRequest_of_sent
    (sent : ImageSent g.settings.maxBody r form upload) :
    g.analysisRequest v r = Step.done
      { image := some upload.data, filename := upload.filename,
        prompt := form.value? "prompt" } := by
  have read : Form.ofRequest g.settings.maxBody r = .ok form := by
    rw [Form.ofRequest_eq, sent.form_eq, sent.sound]
    rfl
  have found : Form.upload "image" form = .ok upload := by
    rw [Form.upload, sent.upload_eq]
  simp only [analysisRequest, read, Except.bind, found]

private theorem analysisRequest_of_cut {fault : FormFault}
    (failed : Form.ofBody g.settings.maxBody r = .error fault)
    (isCut : fault.isCut = true) :
    g.analysisRequest v r = Step.fail (bodyTooLarge fault.message) := by
  have read : Form.ofRequest g.settings.maxBody r = .error fault := by
    rw [Form.ofRequest_eq, failed]
    rfl
  rw [analysisRequest, read]
  exact if_pos isCut

private theorem upload_of_none (none_sent : NoImageSent g.settings.maxBody r) :
    ∃ fault, (Form.ofRequest g.settings.maxBody r).bind (Form.upload "image") =
      .error fault ∧
      fault.isCut = false := by
  rw [Form.ofRequest_eq]
  cases none_sent with
  | noForm failed uncut =>
      rw [failed]
      exact ⟨_, rfl, uncut⟩
  | noFile form_eq absent =>
      rw [form_eq]
      cases Form.queryFault? r with
      | none =>
          exact ⟨.noFile, by simp [bind, Except.bind, Form.upload, absent], rfl⟩
      | some fault => exact ⟨.query fault, rfl, rfl⟩
  | unsound form_eq fault_eq =>
      rw [form_eq, fault_eq]
      exact ⟨_, rfl, rfl⟩

theorem gives_analysisRequest_of_none
    (none_sent : NoImageSent g.settings.maxBody r) :
    (g.analysisRequest v r).Gives (.value {}) [] := by
  obtain ⟨fault, failed, uncut⟩ := upload_of_none none_sent
  have logged : g.analysisRequest v r =
      Step.write (noImageRecord v fault) >>= fun _ => Step.done {} := by
    rw [analysisRequest]
    cases read : Form.ofRequest g.settings.maxBody r with
    | error e =>
        rw [read] at failed
        cases failed
        exact if_neg (Bool.not_eq_true _ ▸ uncut)
    | ok form =>
        rw [read] at failed
        simp only [failed]
        exact if_neg (Bool.not_eq_true _ ▸ uncut)
  rw [logged]
  exact (Step.gives_write _).bind (Step.gives_done _)

end Gateway

namespace Server

variable {s : Server} {a : Arrival} {r : Request} {generator : Generator}
    {form : Form} {upload : Upload}

theorem found_analysis (posted : r.method = utf8 "POST")
    (path : r.target.path = utf8 "/analyze") :
    Route.find? r.method r.target.path = some .analysis := by
  rw [posted, path]
  rfl

section Posted

variable (ready : s.gateway.analysis.access.Ready generator)
    (posted : r.method = utf8 "POST")
  (path : r.target.path = utf8 "/analyze")

include ready posted path

theorem serve_analysis_eq {metrics : Metrics} {v : Visit} :
    s.gateway.serve metrics a v r = s.gateway.analysisRequest v r >>=
      fun request =>
        s.gateway.analysis.analyze v request >>= fun text =>
          Step.done (Gateway.reply 200 (AnalysisService.document text)) := by
  rw [Gateway.serve, found_analysis posted path]
  exact Gateway.serveAnalysis_eq ready

theorem serve_sent_eq {metrics : Metrics} {v : Visit}
    (sent : ImageSent s.gateway.settings.maxBody r form upload) :
    s.gateway.serve metrics a v r = s.gateway.analysis.analyze v
      ⟨some upload.data, upload.filename, form.value? "prompt"⟩ >>= fun text =>
        Step.done (Gateway.reply 200 (AnalysisService.document text)) := by
  rw [serve_analysis_eq ready posted path, Gateway.analysisRequest_of_sent sent,
    Step.done_bind]

private theorem answers_tooLarge {fault : FormFault}
    (failed : Form.ofBody s.gateway.settings.maxBody r = .error fault)
    (isCut : fault.isCut = true) :
    (s.step a r).2.Answers 413 (errorDocument "request body too large") [] := by
  apply answers_of_failure (Gateway.bodyTooLarge fault.message)
    (found_analysis posted path)
  intro metrics v
  rw [serve_analysis_eq ready posted path,
    Gateway.analysisRequest_of_cut failed isCut, Step.fail_bind]
  exact Step.gives_fail _

theorem answers_noImage (none_sent : NoImageSent s.gateway.settings.maxBody r) :
    (s.step a r).2.Answers 400
      (errorDocument s.gateway.analysis.language.noImage) [] := by
  apply answers_of_failure
    (.validation s.gateway.analysis.language.noImage none)
    (found_analysis posted path)
  intro metrics v
  rw [serve_analysis_eq ready posted path]
  apply (Gateway.gives_analysisRequest_of_none none_sent).bind
  rw [AnalysisService.analyze_of_none ready rfl]
  exact Step.gives_fail _

private theorem answers_undecodable {fault : ImageFault}
    (sent : ImageSent s.gateway.settings.maxBody r form upload)
    (undecoded : Decoded.decode upload.data = .error fault)
    (orderly : fault.isBreakdown = false) :
    (s.step a r).2.Answers 500 (errorDocument fault.message) [] := by
  apply answers_of_failure (.provider (some (.plain fault.message)))
    (found_analysis posted path)
  intro metrics v
  rw [serve_sent_eq ready posted path sent]
  exact (AnalysisService.gives_analyze_of_fault ready rfl undecoded
    orderly).bind_failure

private theorem answers_brokenDown {fault : ImageFault}
    (sent : ImageSent s.gateway.settings.maxBody r form upload)
    (undecoded : Decoded.decode upload.data = .error fault)
    (broken : fault.isBreakdown = true) : (s.step a r).2.BreaksDown := by
  apply breaksDown_of_crash fault.message (found_analysis posted path)
  intro metrics v
  rw [serve_sent_eq ready posted path sent]
  exact (AnalysisService.gives_analyze_of_breakdown ready rfl undecoded
    broken).bind_crash

private theorem answers_analysis {decoded : Decoded} {text : Bytes}
    (sent : ImageSent s.gateway.settings.maxBody r form upload)
    (decodes : Decoded.decode upload.data = .ok decoded)
    (replied :
      (generator (s.gateway.analysis.toGenerate (form.value? "prompt")
        decoded)).outcome = .value text) :
    (s.step a r).2.Answers 200 (AnalysisService.document text)
      [s.gateway.analysis.toGenerate (form.value? "prompt") decoded] := by
  apply answers_of_value (found_analysis posted path)
  intro metrics v
  rw [serve_sent_eq ready posted path sent]
  exact (AnalysisService.gives_analyze_value ready rfl decodes replied).bind
    (Step.gives_done _)

private theorem answers_analysis_failure {decoded : Decoded} {cause : Failure}
    (sent : ImageSent s.gateway.settings.maxBody r form upload)
    (decodes : Decoded.decode upload.data = .ok decoded)
    (replied :
      (generator (s.gateway.analysis.toGenerate (form.value? "prompt")
        decoded)).outcome = .failure cause) :
    (s.step a r).2.Answers 500 (errorDocument cause.text)
      [s.gateway.analysis.toGenerate (form.value? "prompt") decoded] := by
  apply answers_of_failure (.provider (some cause)) (found_analysis posted path)
  intro metrics v
  rw [serve_sent_eq ready posted path sent]
  exact (AnalysisService.gives_analyze_failure ready rfl decodes
    replied).bind_failure

end Posted

/-- Every upload to a configured server ends in exactly one of the five ways. An
image that cannot be had because of the query counts as none. -/
theorem analysis_case_unique (s : Server) (a : Arrival) (r : Request)
    (generator : Generator) (ready : s.gateway.analysis.access.Ready generator)
    (steady : ∀ request message, (generator request).outcome ≠ .crash message)
    (posted : r.method = utf8 "POST")
    (path : r.target.path = utf8 "/analyze") :
    ∃! c : AnalysisCase,
      c.Holds s.gateway.analysis s.gateway.settings.maxBody generator r
        (s.step a r).2 := by
  suffices some_case : ∃ c : AnalysisCase,
      c.Holds s.gateway.analysis s.gateway.settings.maxBody generator r
        (s.step a r).2 by
    obtain ⟨c, holds⟩ := some_case
    exact ⟨c, holds, fun c' holds' => holds'.eq_of.trans holds.eq_of.symm⟩
  have refused (none_sent : NoImageSent s.gateway.settings.maxBody r) :
      AnalysisCase.noImage.Holds s.gateway.analysis s.gateway.settings.maxBody
        generator r (s.step a r).2 :=
    ⟨none_sent, answers_noImage ready posted path none_sent⟩
  -- Uniqueness is `eq_of`; what is left follows the handler from the form to
  -- the reply, one `AnalysisCase` for each way out.
  cases form_eq : Form.ofBody s.gateway.settings.maxBody r with
  | error fault =>
      cases isCut : fault.isCut with
      | true =>
          exact ⟨.tooLarge, ⟨fault, form_eq, isCut⟩,
            Form.cut_of_ofBody form_eq isCut,
            answers_tooLarge ready posted path form_eq isCut⟩
      | false => exact ⟨.noImage, refused (.noForm form_eq isCut)⟩
  | ok form =>
      cases upload_eq : form.file? "image" with
      | none => exact ⟨.noImage, refused (.noFile form_eq upload_eq)⟩
      | some upload =>
          cases sound : Form.queryFault? r with
          | some fault => exact ⟨.noImage, refused (.unsound form_eq sound)⟩
          | none =>
              have sent : ImageSent s.gateway.settings.maxBody r form upload :=
                ⟨form_eq, upload_eq, sound⟩
              cases decodes : Decoded.decode upload.data with
              | error fault =>
                  cases broken : fault.isBreakdown with
                  | true =>
                      exact ⟨.brokenDown, form, upload, fault, sent, decodes,
                        broken, answers_brokenDown ready posted path sent
                          decodes broken⟩
                  | false =>
                      exact ⟨.undecodable, form, upload, fault, sent, decodes,
                        broken, answers_undecodable ready posted path sent
                          decodes broken⟩
              | ok decoded =>
                  refine ⟨.asked, form, upload, decoded, _, sent,
                    decodes, rfl, ?_⟩
                  cases replied : (generator
                      (s.gateway.analysis.toGenerate (form.value? "prompt")
                        decoded)).outcome with
                  | value text =>
                      exact .inl ⟨text, replied,
                        answers_analysis ready posted path sent
                          decodes replied⟩
                  | failure cause =>
                      exact .inr ⟨cause, replied,
                        answers_analysis_failure ready posted path sent
                          decodes replied⟩
                  | crash message => exact absurd replied (steady _ message)

def describe : Generator := fun _ => { outcome := .value "a pixel" }

def describing : Server where
  gateway := gatewayOf { maxBody := 1024, analysisModel := "m" }
    (some describe) true
    { modified := Instant.zero }

def pixel : Bytes :=
  [0x42, 0x4d, 58, 0, 0, 0, 0, 0, 0, 0, 54, 0, 0, 0, 40, 0, 0, 0, 1, 0, 0, 0, 1,
    0, 0, 0, 1, 0, 24, 0, 0, 0, 0, 0, 4, 0, 0, 0, 0, 0, 0, 0, 0, 0, 0, 0, 0, 0,
    0, 0, 0, 0, 0, 0, 1, 2, 3, 0]

def pixelUpload (query : Option Bytes) : Request where
  method := "POST"
  target := ⟨"/analyze", "/analyze", query⟩
  headers := [("Content-Type", "multipart/form-data; boundary=b")]
  body := Multipart.write "b"
    [⟨[("Content-Disposition", "form-data; name=\"image\"; filename=\"a\"")],
      pixel⟩]

theorem pixel_case_unique :
    describing.gateway.analysis.access.Ready describe ∧
      ∃! c : AnalysisCase, c.Holds describing.gateway.analysis 1024 describe
        (pixelUpload none)
        (describing.step ⟨[], [], [], Instant.zero, 0⟩ (pixelUpload none)).2 :=
  ⟨⟨rfl, rfl⟩, analysis_case_unique describing ⟨[], [], [], Instant.zero, 0⟩
    (pixelUpload none) describe ⟨rfl, rfl⟩ nofun rfl rfl⟩

/-- The form holds a picture that can be decoded, and yet the answer says that
there is none. -/
theorem pixel_overlooked :
    ∃ form upload decoded, Form.ofBody 1024 (pixelUpload (some "%zz")) =
      .ok form ∧
      form.file? "image" = some upload ∧
        Decoded.decode upload.data = .ok decoded ∧
        (describing.step ⟨[], [], [], Instant.zero, 0⟩
          (pixelUpload (some "%zz"))).2.Answers 400
          (errorDocument "no image received") [] := by
  have holds : (Form.ofBody 1024 (pixelUpload (some "%zz"))).toOption =
      some ⟨[], [("image", ⟨"a", pixel⟩)]⟩ := by
    decide +kernel
  have accepted : (Decoded.decode pixel).isOk = true := by
    decide +kernel
  cases form_eq : Form.ofBody 1024 (pixelUpload (some "%zz")) with
  | error fault =>
      rw [form_eq] at holds
      cases holds
  | ok form =>
      rw [form_eq] at holds
      cases Option.some.inj holds
      cases decodes : Decoded.decode pixel with
      | error fault =>
          rw [decodes] at accepted
          cases accepted
      | ok decoded =>
          exact ⟨_, _, decoded, rfl, rfl, decodes,
            answers_noImage ⟨rfl, rfl⟩ rfl rfl (.unsound form_eq rfl)⟩

end Server

end ModelGateway
