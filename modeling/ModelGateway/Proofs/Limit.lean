import ModelGateway.Proofs.Trailing

/-!
Bodies over the limit. Only as much of a body is read as the limit allows, and a
reader that finds the end of an object or of a form before that never learns
that the body goes on.
-/

namespace ModelGateway

namespace Multipart

variable {boundary : Bytes} {state next : Seeking} {s text rest : Bytes}
    {found : Option (Bool × Bytes)}

inductive Verdict where
  | opens (bare : Bool)
  | closes
  | skipped (state : Seeking)
  | broken (fault : MultipartFault)

def judge (boundary : Bytes) (state : Seeking) (line : Bytes) : Verdict :=
  if maxLine < line.length then .broken .longLine
  else if !state.started && isDelimiter boundary true line then .opens true
  else if isDelimiter boundary state.bare line then .opens state.bare
  else if isLast boundary state.bare line then .closes
  else if state.expecting then .broken (.notDelimiter line)
  else if !state.started then .skipped state
  else if line == lineEnd state.bare then
    .skipped { state with expecting := true }
  else .broken (.strayLine line)

private theorem isLast_of_judge {line : Bytes}
    (closes : judge boundary state line = .closes) :
    isLast boundary state.bare line = true := by
  unfold judge at closes
  split_ifs at closes with _ _ _ last
  exact last

theorem seek_of_line {cut : Bool} (solid : (0x0a : UInt8) ∉ text) :
    seek boundary cut state (text ++ 0x0a :: rest) =
      match judge boundary state (text ++ [0x0a]) with
      | .opens bare => .ok (some (bare, rest))
      | .closes => .ok none
      | .skipped next => seek boundary cut next rest
      | .broken fault => .error fault := by
  have others : ∀ b ∈ text, (b != 0x0a) = true := by
    intro b member
    rw [bne_iff_ne]
    intro equal
    exact solid (equal ▸ member)
  have dropped :
      (text ++ 0x0a :: rest).dropWhile (· != 0x0a) = 0x0a :: rest := by
    rw [List.dropWhile_append_of_pos others]
    rfl
  have taken : (text ++ 0x0a :: rest).takeWhile (· != 0x0a) = text := by
    rw [List.takeWhile_append_of_pos others]
    exact List.append_nil text
  rw [seek]
  split
  next ended =>
    rw [dropped] at ended
    cases ended
  next lineFeed rest' found =>
    cases dropped.symm.trans found
    simp only [taken, judge]
    split_ifs <;> rfl

private theorem line_of_dropWhile (nonempty : s.dropWhile (· != 0x0a) ≠ []) :
    ∃ text rest, (0x0a : UInt8) ∉ text ∧ s = text ++ 0x0a :: rest := by
  induction s with
  | nil => exact absurd rfl nonempty
  | cons b s induction =>
      by_cases equal : b = 0x0a
      · exact ⟨[], s, List.not_mem_nil, by rw [equal]; rfl⟩
      · have unequal : (b != 0x0a) = true := bne_iff_ne.2 equal
        rw [List.dropWhile_cons, if_pos unequal] at nonempty
        obtain ⟨text, rest, solid, rfl⟩ := induction nonempty
        exact ⟨b :: text, rest, List.not_mem_cons_of_ne_of_not_mem
          (Ne.symm equal) solid, rfl⟩

/-- What a search comes to that meets complete lines only. -/
inductive Reaches (boundary : Bytes) :
    Seeking → Bytes → Option (Bool × Bytes) → Prop
  | opens {state : Seeking} {text rest : Bytes} {bare : Bool}
      (solid : (0x0a : UInt8) ∉ text)
      (judged : judge boundary state (text ++ [0x0a]) = .opens bare) :
      Reaches boundary state (text ++ 0x0a :: rest) (some (bare, rest))
  | closes {state : Seeking} {text rest : Bytes} (solid : (0x0a : UInt8) ∉ text)
      (judged : judge boundary state (text ++ [0x0a]) = .closes) :
      Reaches boundary state (text ++ 0x0a :: rest) none
  | skips {state next : Seeking} {text rest : Bytes}
      {found : Option (Bool × Bytes)}
      (solid : (0x0a : UInt8) ∉ text)
      (judged : judge boundary state (text ++ [0x0a]) = .skipped next)
      (others : Reaches boundary next rest found) :
      Reaches boundary state (text ++ 0x0a :: rest) found

theorem reaches_of_seek (sought : seek boundary true state s = .ok found) :
    Reaches boundary state s found := by
  induction length : s.length using Nat.strongRecOn generalizing s state with
  | ind n induction =>
      by_cases ended : s.dropWhile (· != 0x0a) = []
      · -- without the end of its last line the search fails, the text being
        -- cut off
        rw [seek] at sought
        split at sought
        next =>
          simp only [Bool.not_true, Bool.false_and, Bool.false_eq_true,
            if_false] at sought
          split_ifs at sought
        next found => cases ended.symm.trans found
      · obtain ⟨text, rest, solid, rfl⟩ := line_of_dropWhile ended
        rw [seek_of_line solid] at sought
        cases judged : judge boundary state (text ++ [0x0a]) with
        | opens bare =>
            rw [judged] at sought
            cases sought
            exact .opens solid judged
        | closes =>
            rw [judged] at sought
            cases sought
            exact .closes solid judged
        | skipped next =>
            rw [judged] at sought
            apply Reaches.skips solid judged
            apply induction rest.length ?_ sought rfl
            rw [← length, List.length_append, List.length_cons]
            omega
        | broken fault =>
            rw [judged] at sought
            cases sought

theorem Reaches.seek_eq {cut : Bool}
    (reaches : Reaches boundary state s found) :
    seek boundary cut state s = .ok found := by
  induction reaches with
  | opens solid judged => rw [seek_of_line solid, judged]
  | closes solid judged => rw [seek_of_line solid, judged]
  | skips solid judged _ induction =>
      rw [seek_of_line solid, judged]
      exact induction

def HasLastLine (boundary s : Bytes) : Prop :=
  ∃ before line after bare, s = before ++ (line ++ 0x0a :: after) ∧
    isLast boundary bare (line ++ [0x0a]) = true

theorem HasLastLine.of_suffix (has : HasLastLine boundary rest)
    (suffix : rest <:+ s) :
    HasLastLine boundary s := by
  obtain ⟨before, line, after, bare, rfl, last⟩ := has
  obtain ⟨front, rfl⟩ := suffix
  exact ⟨front ++ before, line, after, bare,
    (List.append_assoc _ _ _).symm, last⟩

theorem suffix_line : rest <:+ text ++ 0x0a :: rest :=
  ⟨text ++ [0x0a], by rw [List.append_assoc]; rfl⟩

private theorem Reaches.hasLastLine (reaches : Reaches boundary state s none) :
    HasLastLine boundary s := by
  generalize ended : (none : Option (Bool × Bytes)) = found at reaches
  induction reaches with
  | opens => cases ended
  | @closes state text rest solid judged =>
      exact ⟨[], text, rest, state.bare, rfl, isLast_of_judge judged⟩
  | skips solid judged _ induction =>
      exact (induction ended).of_suffix suffix_line

theorem Reaches.suffix {bare : Bool}
    (reaches : Reaches boundary state s (some (bare, rest))) : rest <:+ s := by
  generalize opened : some (bare, rest) = found at reaches
  induction reaches with
  | opens =>
      cases opened
      exact suffix_line
  | closes => cases opened
  | skips _ _ _ induction => exact (induction opened).trans suffix_line

def LineRead.Leaves (s : Bytes) : LineRead → Prop
  | .line _ rest => rest <:+ s
  | .tooLong rest => rest <:+ s
  | .missing => True

theorem headerLine_leaves (limit : Int) (read s : Bytes) :
    (headerLine limit read s).Leaves s := by
  fun_induction headerLine limit read s with
  | case1 => exact List.drop_suffix _ _
  | case2 read s line long next rest within induction =>
      cases reads : headerLine limit next rest with
      | line | tooLong =>
          rw [reads] at induction
          exact List.IsSuffix.trans induction (List.drop_suffix _ _)
      | missing => trivial
  | case3 => trivial
  | case4 | case5 => exact List.nil_suffix
  | case6 read s line short b rest found
  | case7 read s line short b rest found =>
      exact (List.suffix_cons b rest).trans (found ▸ List.drop_suffix _ s)

theorem suffix_of_line {limit : Int} {read line : Bytes}
    (reads : headerLine limit read s = .line line rest) : rest <:+ s := by
  have leaves := headerLine_leaves limit read s
  rw [reads] at leaves
  exact leaves

private theorem suffix_of_tooLong {limit : Int} {read : Bytes}
    (reads : headerLine limit read s = .tooLong rest) : rest <:+ s := by
  have leaves := headerLine_leaves limit read s
  rw [reads] at leaves
  exact leaves

private theorem suffix_of_continued {limit : Int} {most : Nat}
    {line whole : Bytes}
    (reads : continued limit most line s = some (whole, rest)) :
    rest <:+ s := by
  fun_induction continued limit most line s with
  | case1 | case2 =>
      cases reads
      exact List.suffix_refl _
  | case3 => cases reads
  | case4 =>
      obtain ⟨-, rfl⟩ := Prod.mk.inj (Option.some.inj reads)
      exact List.nil_suffix
  | case5 =>
      obtain ⟨-, rfl⟩ := Prod.mk.inj (Option.some.inj reads)
      exact (suffix_of_tooLong ‹_›).trans (List.dropWhile_suffix _)
  | case6 =>
      rename_i induction
      exact ((induction reads).trans (suffix_of_line ‹_›)).trans
        (List.dropWhile_suffix _)

private theorem suffix_of_fields {a : Allowance} {most : Nat}
    {read headers : Headers}
    (complete : fields a most read s = .complete headers rest) :
    rest <:+ s := by
  fun_induction fields a most read s with
  | case1 | case2 | case3 | case5 | case6 | case7 | case8 => cases complete
  | case4 =>
      cases complete
      exact suffix_of_line ‹_›
  | case9 =>
      rename_i induction
      exact ((induction complete).trans (suffix_of_continued ‹_›)).trans
        (suffix_of_line ‹_›)

theorem suffix_of_header {a : Allowance} {headers : Headers}
    (complete : header a s = .complete headers rest) : rest <:+ s := by
  unfold header at complete
  split at complete
  · split at complete <;> cases complete
  · exact suffix_of_fields complete

private theorem suffix_of_split? {bare : Bool} {data : Bytes}
    (found : split? boundary bare s = some (data, rest)) :
    rest <:+ s := by
  unfold split? at found
  split_ifs at found
  · cases found
    exact List.suffix_refl _
  · obtain ⟨n, -, cut⟩ := Option.map_eq_some_iff.1 found
    cases cut
    exact List.drop_suffix n s

theorem suffix_of_deliver {bare : Bool}
    (delivered : (deliver boundary bare s).rest = some rest) : rest <:+ s := by
  unfold deliver at delivered
  split at delivered
  next data rest' found =>
    cases delivered
    exact suffix_of_split? found
  next => cases delivered

end Multipart

namespace Incoming

variable {limit : Int} {body : Bytes}

private theorem limited_of_lt (long : limit.toNat < body.length) :
    limited limit body = ⟨body.take limit.toNat, true⟩ := by
  simp [limited, long]

private theorem limited_take :
    limited limit (body.take limit.toNat) = ⟨body.take limit.toNat, false⟩ := by
  have short : ¬ limit.toNat < (body.take limit.toNat).length :=
    Nat.not_lt.2 (List.length_take_le _ _)
  simp only [limited, List.take_take, Nat.min_self, short, decide_false]

end Incoming

namespace Form

variable {limit : Int} {r : Request} {form : Form}

section Parts

variable {boundary : Bytes} {cut : Bool} {a : Multipart.Allowance}
  {headers : Headers} {label : Label} {d : Multipart.Delivery}
  {taken : Form × Multipart.Allowance}

private theorem content_of_rest {rest : Bytes} (complete : d.rest = some rest) :
    content true headers d = content cut headers d := by
  simp only [content, complete, Option.isSome_some, if_true]

private theorem rest_of_content (faultless : (content cut headers d).2 = none) :
    d.rest.isSome = true := by
  have ending := (Option.or_eq_none_iff.1 faultless).2
  split at ending
  · assumption
  · cases ending

private theorem faultless_of_takePart
    (success : takePart cut a headers label d = .ok taken) :
    (content cut headers d).2 = none := by
  cases broken : (content cut headers d).2 with
  | none => rfl
  | some fault =>
      simp only [takePart, takeValue, takeFile, broken] at success
      split at success <;> split at success <;> cases success

private theorem takePart_of_cut
    (success : takePart true a headers label d = .ok taken) :
    takePart false a headers label d = .ok taken ∧ d.rest.isSome = true := by
  have complete := rest_of_content (faultless_of_takePart success)
  obtain ⟨rest, rest_eq⟩ := Option.isSome_iff_exists.1 complete
  refine ⟨?_, complete⟩
  rw [takePart, ← content_of_rest rest_eq]
  exact success

/-- Where reading succeeds although the text is cut off, it would have succeeded
at the end of the body as well, and the last line was seen. -/
theorem ofParts_of_cut {left : Nat} {state : Multipart.Seeking} {s : Bytes}
    (success : ofParts boundary true left a state s = .ok form) :
    ofParts boundary false left a state s = .ok form ∧
      Multipart.HasLastLine boundary s := by
  fun_induction ofParts boundary true left a state s generalizing form with
  | case1 | case3 | case5 | case6 | case7 | case9 => cases success
  | case2 left a state s ended =>
      cases success
      have reaches := Multipart.reaches_of_seek ended
      refine ⟨?_, reaches.hasLastLine⟩
      rw [ofParts, reaches.seek_eq]
  | case4 => contradiction
  -- A part without a name is skipped; its end was found, so the rest is
  -- a suffix of what a longer body would have left.
  | case8 a state s bare behind opened headers inside headed left d rest
      delivered nameless =>
      rename_i induction
      change (Multipart.deliver boundary bare inside).rest =
        some rest at delivered
      obtain ⟨uncut, has⟩ := induction success
      have reaches := Multipart.reaches_of_seek opened
      refine ⟨?_, ?_⟩
      · rw [ofParts, reaches.seek_eq]
        simp only [headed, nameless, delivered, uncut]
      · apply has.of_suffix
        exact ((Multipart.suffix_of_deliver delivered).trans
          (Multipart.suffix_of_header headed)).trans reaches.suffix
  | case10 a state s bare behind opened headers inside headed left d label
      named taken a' took =>
      rename_i induction
      obtain ⟨others, success, joined⟩ := bind_eq_ok_iff.1 success
      obtain ⟨uncut, has⟩ := induction success
      obtain ⟨took', complete⟩ := takePart_of_cut took
      have reaches := Multipart.reaches_of_seek opened
      refine ⟨?_, ?_⟩
      · rw [ofParts, reaches.seek_eq]
        simp only [headed, named]
        change takePart false a headers label
          (Multipart.deliver boundary bare inside) = _ at took'
        rw [took']
        exact bind_eq_ok_iff.2 ⟨others, uncut, joined⟩
      · obtain ⟨rest, rest_eq⟩ := Option.isSome_iff_exists.1 complete
        rw [rest_eq] at has
        apply has.of_suffix
        exact ((Multipart.suffix_of_deliver rest_eq).trans
          (Multipart.suffix_of_header headed)).trans reaches.suffix

end Parts

private theorem ofIncoming_of_cut {boundary s : Bytes}
    (success : ofIncoming boundary ⟨s, true⟩ = .ok form) :
    ofIncoming boundary ⟨s, false⟩ = .ok form ∧
      Multipart.HasLastLine boundary s := by
  unfold ofIncoming at success ⊢
  split_ifs at success with empty
  rw [if_neg empty]
  exact ofParts_of_cut success

/-- The boundary of a form whose last line is within the limit. -/
def ClosedWithin (limit : Int) (r : Request) : Prop :=
  ∃ boundary, Form.boundary (r.header "Content-Type") = .ok boundary ∧
    Multipart.HasLastLine boundary (r.body.take limit.toNat)

theorem ofBody_of_long (long : limit.toNat < r.body.length)
    (success : ofBody limit r = .ok form) :
    ofBody limit { r with body := r.body.take limit.toNat } = .ok form ∧
      ClosedWithin limit r := by
  unfold ofBody at success
  obtain ⟨boundary, known, success⟩ := bind_eq_ok_iff.1 success
  rw [Incoming.limited_of_lt long] at success
  obtain ⟨uncut, has⟩ := ofIncoming_of_cut success
  refine ⟨?_, boundary, known, has⟩
  unfold ofBody
  apply bind_eq_ok_iff.2 ⟨boundary, known, ?_⟩
  rw [Incoming.limited_take]
  exact uncut

end Form

private theorem ImageSent.of_long {limit : Int} {r : Request} {form : Form}
    {upload : Upload} (long : limit.toNat < r.body.length)
    (sent : ImageSent limit r form upload) :
    ImageSent limit { r with body := r.body.take limit.toNat } form upload :=
  ⟨(Form.ofBody_of_long long sent.form_eq).1, sent.upload_eq, sent.sound⟩

/-- All that the generator would be asked is within the limit. -/
inductive CompleteWithin (limit : Int) (r : Request) : ModelRoute → Prop
  | prompt {fields : Fields Bytes} {request : PromptRequest}
      (begins : Document.Begins (r.body.take limit.toNat) (.object fields))
      (decoded : PromptRequest.decode fields = .ok request) :
        CompleteWithin limit r .prompt
  | analysis {form : Form} {upload : Upload} {decoded : Decoded}
      (closed : Form.ClosedWithin limit r)
      (sent : ImageSent limit r form upload)
      (decodes : Decoded.decode upload.data = .ok decoded) :
      CompleteWithin limit r .analysis

private theorem imageSent_iff {limit : Int} {r : Request} {form : Form}
    {upload : Upload} :
    ImageSent limit r form upload ↔
      Form.ofRequest limit r = .ok form ∧ form.file? "image" = some upload := by
  rw [Form.ofRequest_eq, bind_eq_ok_iff]
  constructor
  · intro sent
    refine ⟨⟨form, sent.form_eq, ?_⟩, sent.upload_eq⟩
    rw [sent.sound]
  · intro read
    obtain ⟨⟨form', form_eq, read⟩, upload_eq⟩ := read
    cases sound : Form.queryFault? r with
    | none =>
        rw [sound] at read
        cases read
        exact ⟨form_eq, upload_eq, sound⟩
    | some fault =>
        rw [sound] at read
        cases read

namespace Gateway

variable {g : Gateway} {r : Request} {m : ModelRoute}

theorem bodyObject_eq_ok_iff {limit : Int} {fields : Fields Bytes} :
    bodyObject limit r = .ok fields ↔
      Document.Begins (r.body.take limit.toNat) (.object fields) := by
  constructor
  · intro held
    simp only [bodyObject] at held
    split at held <;> cases held
    exact Document.readFirst_eq_object_iff.1 ‹_›
  · intro begins
    have read : Document.readFirst (Incoming.limited limit r.body).cut
        (Incoming.limited limit r.body).bytes = .ok (.object fields) :=
      Document.readFirst_eq_object_iff.2 begins
    simp only [bodyObject, read]

private theorem promptCourse_asked_iff :
    (g.promptCourse r).requests ≠ [] ↔
      ∃ generator fields request, g.prompts.access.Ready generator ∧
      bodyObject g.settings.maxBody r = .ok fields ∧
        PromptRequest.decode fields = .ok request := by
  simp only [← ModelAccess.ready?_eq_some_iff, promptCourse]
  cases g.prompts.access.ready? with
  | none => simp [Course.requests]
  | some generator =>
      cases bodyObject g.settings.maxBody r with
      | error failure => simp [Course.requests]
      | ok fields =>
          cases decoded : PromptRequest.decode fields <;>
            simp [Course.requests, decoded]

theorem analysisCourse_asked_iff :
    (g.analysisCourse r).requests ≠ [] ↔
      ∃ generator form upload decoded, g.analysis.access.Ready generator ∧
      ImageSent g.settings.maxBody r form upload ∧
        Decoded.decode upload.data = .ok decoded := by
  simp only [← ModelAccess.ready?_eq_some_iff, imageSent_iff, analysisCourse]
  cases g.analysis.access.ready? with
  | none => simp [Course.requests]
  | some generator =>
      cases Form.ofRequest g.settings.maxBody r with
      | error fault => simp [Course.requests]
      | ok form =>
          cases found : form.file? "image" with
          | none => simp [Course.requests, found]
          | some upload =>
              cases decodes : Decoded.decode upload.data with
              | ok decoded => simp [Course.requests, found, decodes]
              | error fault =>
                  cases broken : fault.isBreakdown <;>
                    simp [Course.requests, found, decodes, broken]

private theorem asked_iff (long : g.settings.maxBody.toNat < r.body.length) :
    (g.course m r).requests ≠ [] ↔
      (∃ generator, (g.access m).Ready generator) ∧
        CompleteWithin g.settings.maxBody r m := by
  cases m with
  | prompt =>
      apply promptCourse_asked_iff.trans
      constructor
      · intro asked
        obtain ⟨generator, fields, request, ready, held, decoded⟩ := asked
        exact ⟨⟨generator, ready⟩,
          .prompt (bodyObject_eq_ok_iff.1 held) decoded⟩
      · intro asked
        obtain ⟨⟨generator, ready⟩, complete⟩ := asked
        cases complete with
        | prompt begins decoded =>
            exact ⟨generator, _, _, ready,
              bodyObject_eq_ok_iff.2 begins, decoded⟩
  | analysis =>
      apply analysisCourse_asked_iff.trans
      constructor
      · intro asked
        obtain ⟨generator, form, upload, decoded, ready, sent, decodes⟩ := asked
        exact ⟨⟨generator, ready⟩,
          .analysis (Form.ofBody_of_long long sent.form_eq).2 sent decodes⟩
      · intro asked
        obtain ⟨⟨generator, ready⟩, complete⟩ := asked
        cases complete with
        | analysis closed sent decodes =>
            exact ⟨generator, _, _, _, ready, sent, decodes⟩

private theorem serve_of_complete {metrics : Metrics} {a : Arrival} {v : Visit}
    (isFor : r.isFor m = true)
    (long : g.settings.maxBody.toNat < r.body.length)
    (complete : CompleteWithin g.settings.maxBody r m) :
    g.serve metrics a v r =
      g.serve metrics a v
        { r with body := r.body.take g.settings.maxBody.toNat } := by
  obtain ⟨posted, path⟩ := Request.isFor_iff.1 isFor
  simp only [serve]
  cases complete with
  | @prompt fields request begins decoded =>
      have held : bodyObject g.settings.maxBody r = .ok fields :=
        bodyObject_eq_ok_iff.2 begins
      have held' : bodyObject g.settings.maxBody
          { r with body := r.body.take g.settings.maxBody.toNat } =
          .ok fields := by
        rw [bodyObject_eq_ok_iff, List.take_take, Nat.min_self]
        exact begins
      rw [Server.found_prompt posted path]
      simp only [servePrompt, held, held']
  | @analysis form upload decoded closed sent decodes =>
      rw [Server.found_analysis posted path]
      simp only [serveAnalysis, analysisRequest_of_sent sent,
        analysisRequest_of_sent (sent.of_long long)]

end Gateway

namespace Server

/-- A body over the limit is put to the generator exactly if what is asked is
complete within the limit, and then the answer is the one to the body that ends
there. -/
theorem overlong_asked_iff (s : Server) (a : Arrival)
    (r : Request) (m : ModelRoute)
    (isFor : r.isFor m = true)
    (long : s.gateway.settings.maxBody.toNat < r.body.length) :
    ((s.step a r).2.trace.requests ≠ [] ↔
        (∃ generator, (s.gateway.access m).Ready generator) ∧
          CompleteWithin s.gateway.settings.maxBody r m) ∧
      ((s.step a r).2.trace.requests ≠ [] →
        s.step a r = s.step a
          { r with body := r.body.take s.gateway.settings.maxBody.toNat }) := by
  have asked := s.gateway.asked_iff (m := m) long
  rw [← (step_follows (s := s) (a := a) isFor).requests_eq] at asked
  refine ⟨asked, ?_⟩
  intro some_asked
  apply step_of_body
  intro metrics v
  exact Gateway.serve_of_complete isFor long (asked.1 some_asked).2

def paddedGreeting : Request :=
  { greeting with
    body := utf8 "\x7b\"prompt\":\"hi\"\x7d" ++ List.replicate 64 0x20 }

def paddedUpload : Request :=
  { pixelUpload none with
    body := (pixelUpload none).body ++ List.replicate 1024 0x20 }

theorem padded_greeting_cut_off :
    64 < paddedGreeting.body.length ∧
      (echoing.step ⟨[], [], [], Instant.zero, 0⟩
        paddedGreeting).2.trace.requests ≠ [] ∧
        echoing.step ⟨[], [], [], Instant.zero, 0⟩ paddedGreeting =
          echoing.step ⟨[], [], [], Instant.zero, 0⟩
            { paddedGreeting with body := paddedGreeting.body.take 64 } := by
  have long : 64 < paddedGreeting.body.length := by decide
  obtain ⟨asked, same⟩ :=
    overlong_asked_iff echoing ⟨[], [], [], Instant.zero, 0⟩ paddedGreeting
      .prompt rfl long
  have some_asked :=
    asked.2 ⟨⟨echo, rfl, rfl⟩, .prompt (Gateway.bodyObject_eq_ok_iff.1 rfl) rfl⟩
  exact ⟨long, some_asked, same some_asked⟩

/-- On both routes the generator is asked although the body is over the
limit. -/
theorem padding_overlooked :
    (64 < paddedGreeting.body.length ∧
        (echoing.step ⟨[], [], [], Instant.zero, 0⟩
          paddedGreeting).2.trace.requests ≠ []) ∧
      1024 < paddedUpload.body.length ∧
        (describing.step ⟨[], [], [], Instant.zero, 0⟩
          paddedUpload).2.trace.requests ≠ [] := by
  have read : (Form.ofBody 1024 paddedUpload).toOption =
      some ⟨[], [("image", ⟨"a", pixel⟩)]⟩ := by
    decide +kernel
  have accepted : (Decoded.decode pixel).isOk = true := by
    decide +kernel
  refine ⟨⟨by decide, List.cons_ne_nil _ _⟩, by decide +kernel, ?_⟩
  rw [(step_follows (m := .analysis) rfl).requests_eq]
  change (describing.gateway.analysisCourse paddedUpload).requests ≠ []
  cases form_eq : Form.ofBody 1024 paddedUpload with
  | error fault =>
      rw [form_eq] at read
      cases read
  | ok form =>
      rw [form_eq] at read
      cases Option.some.inj read
      cases decodes : Decoded.decode pixel with
      | error fault =>
          rw [decodes] at accepted
          cases accepted
      | ok decoded =>
          apply Gateway.analysisCourse_asked_iff.2
          exact ⟨describe, _, _, decoded, ⟨rfl, rfl⟩,
            ⟨form_eq, rfl, rfl⟩, decodes⟩

end Server

end ModelGateway
