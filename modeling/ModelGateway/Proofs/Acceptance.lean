import ModelGateway.Proofs.Reading

namespace ModelGateway.Document

def EndsScalar (b : UInt8) : Prop :=
  isSpace b = true ∨ b = 0x2c ∨ b = 0x5d ∨ b = 0x7d

def readAfter : List Frame → Document → Bytes → Reading
  | [], value, s => .complete value s
  | .items done :: outer, value, s =>
      (ReaderState.mk (.items (value :: done) :: outer) .after).run s
  | .fields done key :: outer, value, s =>
      (ReaderState.mk (.fields ((key, value) :: done) [] :: outer) .after).run s

section

variable {stack outer : List Frame} {value : Document} {b : UInt8} {s : Bytes}
    {depth : Nat}

private theorem isSpace_iff :
    isSpace b = true ↔ b = 0x20 ∨ b = 0x09 ∨ b = 0x0a ∨ b = 0x0d := by
  simp [isSpace, or_assoc]

theorem nextPart?_eq_none {part : NumberPart} (ends : EndsScalar b) :
    nextPart? part b = none := by
  rw [EndsScalar, isSpace_iff] at ends
  obtain (rfl | rfl | rfl | rfl) | rfl | rfl | rfl :=
    ends <;> cases part <;> rfl

theorem run_cons {state next : ReaderState}
    (stepped : state.step b = .next next) :
    state.run (b :: s) = next.run s := by
  rw [ReaderState.run, stepped]

theorem run_giveClosed {state : ReaderState}
    (stepped : state.step b = giveClosed stack value) :
    state.run (b :: s) = readAfter stack value s := by
  rw [ReaderState.run, stepped]
  cases stack with
  | nil => rfl
  | cons frame outer =>
      cases frame with
      | items done => rfl
      | fields done key => rfl

theorem run_giveScalar {state : ReaderState} (nonempty : stack ≠ [])
    (stepped : state.step b = giveScalar stack value) :
    state.run (b :: s) = readAfter stack value s := by
  apply run_giveClosed
  rw [stepped]
  cases stack with
  | nil => exact absurd rfl nonempty
  | cons frame outer => rfl

theorem run_blank {state : ReaderState} {blank : Bytes}
    (stays : ∀ b, isSpace b = true → state.step b = .next state)
    (isBlank : IsBlank blank) :
    state.run (blank ++ s) = state.run s := by
  induction blank with
  | nil => rfl
  | cons b blank induction =>
      obtain ⟨space, isBlank⟩ := isBlank_cons.1 isBlank
      rw [List.cons_append, run_cons (stays b space), induction isBlank]

private theorem run_hexDigits {name : Bool} {digits read : Bytes} {n : Nat}
    (length : digits.length = n + 1)
    (hex : ∀ b ∈ digits, IsHexDigit b) :
    (ReaderState.mk stack (.text name read (.digits (n + 1)))).run
      (digits ++ s) =
      (ReaderState.mk stack (.text name (digits.reverse ++ read) .none)).run
        s := by
  induction n generalizing digits read with
  | zero =>
      obtain ⟨d, rfl⟩ := List.length_eq_one_iff.1 length
      have d_hex : (Bytes.hexValue? d).isSome = true :=
        hex d (List.mem_singleton_self d)
      apply run_cons
      simp [ReaderState.step, stepText, d_hex]
  | succ n induction =>
      cases digits with
      | nil => cases length
      | cons d digits =>
          obtain ⟨d_hex, hex⟩ := List.forall_mem_cons.1 hex
          have stepped :
              (ReaderState.mk stack
                (.text name read (.digits (n + 1 + 1)))).step d =
              .next ⟨stack, .text name (d :: read) (.digits (n + 1))⟩ := by
            have d_hex : (Bytes.hexValue? d).isSome = true := d_hex
            simp [ReaderState.step, stepText, d_hex]
          rw [List.cons_append, run_cons stepped,
            induction (Nat.succ.inj length) hex, List.reverse_cons,
            List.append_assoc]
          rfl

theorem run_quoted {name : Bool} {raw read : Bytes} (isQuoted : IsQuoted raw) :
    (ReaderState.mk stack (.text name read .none)).run (raw ++ s) =
      (ReaderState.mk stack (.text name (raw.reverse ++ read) .none)).run
        s := by
  induction isQuoted generalizing read with
  | nil => rfl
  | @plain b raw noControl noQuote noBackslash _ induction =>
      have stepped : (ReaderState.mk stack (.text name read .none)).step b =
          .next ⟨stack, .text name (b :: read) .none⟩ := by
        simp [ReaderState.step, stepText, noControl, noQuote, noBackslash]
      rw [List.cons_append, run_cons stepped, induction, List.reverse_cons,
        List.append_assoc]
      rfl
  | @short b raw escape _ induction =>
      have stepped :
          (ReaderState.mk stack (.text name (0x5c :: read) .backslash)).step b =
          .next ⟨stack, .text name (b :: 0x5c :: read) .none⟩ := by
        have no_unit : b ≠ 0x75 := by
          rintro rfl
          cases escape
        simp [ReaderState.step, stepText, no_unit, escape]
      rw [List.cons_append, List.cons_append, run_cons rfl,
        run_cons stepped, induction]
      simp
  | @unit digits raw four hex _ induction =>
      simp only [List.cons_append, List.append_assoc]
      rw [run_cons rfl, run_cons rfl, run_hexDigits four hex, induction]
      simp

theorem run_number {raw more : Bytes} {part : NumberPart}
    (nonempty : stack ≠ [])
    (continues : part.Continues more) (ends : EndsScalar b) :
    (ReaderState.mk stack (.number raw part)).run (more ++ b :: s) =
      readAfter stack (.number (raw.reverse ++ more)) (b :: s) := by
  induction more generalizing raw part with
  | nil =>
      have complete : part.isComplete = true :=
        NumberPart.continues_nil_iff.1 continues
      simp only [List.nil_append, List.append_nil, ReaderState.run,
        ReaderState.step, nextPart?_eq_none ends, complete, if_true]
      obtain ⟨frame, outer, rfl⟩ := List.exists_cons_of_ne_nil nonempty
      cases frame with
      | items done => rfl
      | fields done key => rfl
  | cons c more induction =>
      obtain ⟨next, taken, continues⟩ :=
        NumberPart.continues_cons_iff.1 continues
      have stepped : (ReaderState.mk stack (.number raw part)).step c =
          .next ⟨stack, .number (c :: raw) next⟩ := by
        simp [ReaderState.step, taken]
      rw [List.cons_append, run_cons stepped, induction continues,
        List.reverse_cons, List.append_assoc]
      rfl

theorem step_value {closable : Bool}
    (solid : isSpace b = false) (notEnd : b ≠ 0x5d) :
    (ReaderState.mk stack (.value closable)).step b = beginValue stack b := by
  simp [ReaderState.step, solid, notEnd]

private theorem run_value_number {closable : Bool} {raw : Bytes}
    (nonempty : stack ≠ []) (isNumber : IsNumber raw)
    (ends : EndsScalar b) :
    (ReaderState.mk stack (.value closable)).run (raw ++ b :: s) =
      readAfter stack (.number raw) (b :: s) := by
  obtain ⟨more, rfl, continues⟩ | continues := isNumber_iff.1 isNumber
  · rw [List.cons_append, run_cons (step_value rfl (by decide))]
    exact run_number nonempty continues ends
  · cases raw with
    | nil => cases NumberPart.continues_nil_iff.1 continues
    | cons d more =>
        obtain ⟨rfl, others⟩ | ⟨nonzero, digit, others⟩ :=
          NumberPart.minus_continues_cons.1 continues
        · rw [List.cons_append, run_cons (step_value rfl (by decide))]
          exact run_number nonempty others ends
        · have stepped : (ReaderState.mk stack (.value closable)).step d =
              .next ⟨stack, .number [d] .whole⟩ := by
            grind [ReaderState.step, beginValue, isSpace, Bytes.isDigit]
          rw [List.cons_append, run_cons stepped]
          exact run_number nonempty others ends

theorem run_word {letters : Bytes} {c : UInt8} (nonempty : stack ≠ []) :
    (ReaderState.mk stack (.word (c :: letters) value)).run
      (c :: letters ++ s) =
      readAfter stack value s := by
  induction letters generalizing c with
  | nil =>
      apply run_giveScalar nonempty
      simp [ReaderState.step]
  | cons d letters induction =>
      have stepped :
          (ReaderState.mk stack (.word (c :: d :: letters) value)).step c =
          .next ⟨stack, .word (d :: letters) value⟩ := by
        simp [ReaderState.step]
      exact (run_cons stepped).trans induction

theorem run_value_blank {closable : Bool} {blank : Bytes}
    (isBlank : IsBlank blank) :
    (ReaderState.mk stack (.value closable)).run (blank ++ s) =
      (ReaderState.mk stack (.value closable)).run s :=
  run_blank (fun b space => by simp [ReaderState.step, space]) isBlank

theorem run_key_blank {closable : Bool} {blank : Bytes}
    (isBlank : IsBlank blank) :
    (ReaderState.mk stack (.key closable)).run (blank ++ s) =
      (ReaderState.mk stack (.key closable)).run s :=
  run_blank (fun b space => by simp [ReaderState.step, space]) isBlank

private theorem run_colon_blank {blank : Bytes} (isBlank : IsBlank blank) :
    (ReaderState.mk stack .colon).run (blank ++ s) =
      (ReaderState.mk stack .colon).run s :=
  run_blank (fun b space => by simp [ReaderState.step, space]) isBlank

theorem run_after_blank {blank : Bytes} (isBlank : IsBlank blank) :
    (ReaderState.mk stack .after).run (blank ++ s) =
      (ReaderState.mk stack .after).run s :=
  run_blank (fun b space => by simp [ReaderState.step, stepAfter.eq_def, space])
    isBlank

def Delimited (s : Bytes) : Prop :=
  ∃ b t, s = b :: t ∧ EndsScalar b

theorem delimited_of_blank {blank : Bytes}
    (isBlank : IsBlank blank)
    (ends : EndsScalar b) :
    Delimited (blank ++ b :: s) := by
  cases blank with
  | nil => exact ⟨b, s, rfl, ends⟩
  | cons c blank =>
      exact ⟨c, blank ++ b :: s, rfl, .inl (isBlank_cons.1 isBlank).1⟩

theorem delimited_itemsEnd {items : List Document} {tail : Bytes}
    (isEnd : ItemsEnd depth items tail) :
    Delimited (tail ++ s) := by
  cases isEnd with
  | close isBlank =>
      rw [List.append_assoc]
      exact delimited_of_blank isBlank (.inr (.inr (.inl rfl)))
  | more isBlank _ _ _ =>
      rw [List.append_assoc]
      exact delimited_of_blank isBlank (.inr (.inl rfl))

theorem delimited_fieldsEnd {fields : List (Bytes × Document)} {tail : Bytes}
    (isEnd : FieldsEnd depth fields tail) : Delimited (tail ++ s) := by
  cases isEnd with
  | close isBlank =>
      rw [List.append_assoc]
      exact delimited_of_blank isBlank (.inr (.inr (.inr rfl)))
  | more isBlank _ _ _ =>
      rw [List.append_assoc]
      exact delimited_of_blank isBlank (.inr (.inl rfl))

/-- What stands after a value does not belong to it: the value shows its own
end, or it is inside a list or object and what follows cannot go on with it. -/
def Settled (stack : List Frame) (value : Document) (s : Bytes) : Prop :=
  (∃ items, value = .array items) ∨ (∃ fields, value = .object fields) ∨
    stack ≠ [] ∧ Delimited s

theorem settled_inside {frame : Frame} (delimited : Delimited s) :
    Settled (frame :: outer) value s :=
  .inr (.inr ⟨List.cons_ne_nil _ _, delimited⟩)

def Fits (stack : List Frame) (depth : Nat) : Prop :=
  stack.length + depth ≤ maxDepth

theorem Fits.room (fits : Fits stack (depth + 1)) :
    stack.length < maxDepth := by
  unfold Fits at fits
  omega

theorem Fits.deeper {frame : Frame} (fits : Fits stack (depth + 1)) :
    Fits (frame :: stack) depth := by
  unfold Fits at *
  rw [List.length_cons]
  omega

theorem Fits.change {frame frame' : Frame}
    (fits : Fits (frame :: outer) depth) :
    Fits (frame' :: outer) depth :=
  fits

theorem step_openList {closable : Bool} (room : stack.length < maxDepth) :
    (ReaderState.mk stack (.value closable)).step 0x5b =
      .next ⟨.items [] :: stack, .value true⟩ := by
  rw [step_value rfl (by decide)]
  exact if_pos room

theorem step_openObject {closable : Bool} (room : stack.length < maxDepth) :
    (ReaderState.mk stack (.value closable)).step 0x7b =
      .next ⟨.fields [] [] :: stack, .key true⟩ := by
  rw [step_value rfl (by decide)]
  exact if_pos room

theorem Settled.scalar (settled : Settled stack value s)
    (noList : ∀ items, value ≠ .array items)
    (noObject : ∀ fields, value ≠ .object fields) :
    stack ≠ [] ∧ Delimited s := by
  obtain ⟨items, isList⟩ | ⟨fields, isObject⟩ | inside := settled
  · exact absurd isList (noList items)
  · exact absurd isObject (noObject fields)
  · exact inside

end

mutual

theorem run_text {depth : Nat} {value : Document} {text s : Bytes}
    {stack : List Frame} {closable : Bool} (isText : Text depth value text)
    (fits : Fits stack depth) (settled : Settled stack value s) :
    (ReaderState.mk stack (.value closable)).run (text ++ s) =
      readAfter stack value s := by
  cases isText with
  | null =>
      obtain ⟨nonempty, -⟩ := settled.scalar nofun nofun
      exact (run_cons (step_value rfl (by decide))).trans (run_word nonempty)
  | yes =>
      obtain ⟨nonempty, -⟩ := settled.scalar nofun nofun
      exact (run_cons (step_value rfl (by decide))).trans (run_word nonempty)
  | no =>
      obtain ⟨nonempty, -⟩ := settled.scalar nofun nofun
      exact (run_cons (step_value rfl (by decide))).trans (run_word nonempty)
  | number isNumber =>
      obtain ⟨nonempty, b, t, rfl, ends⟩ := settled.scalar nofun nofun
      exact run_value_number nonempty isNumber ends
  | @string _ raw isQuoted =>
      obtain ⟨nonempty, -⟩ := settled.scalar nofun nofun
      rw [List.cons_append, run_cons (step_value rfl (by decide)),
        List.append_assoc, run_quoted isQuoted]
      apply run_giveScalar nonempty
      simp [ReaderState.step, stepText]
  | @emptyArray depth blank isBlank =>
      rw [List.cons_append, run_cons (step_openList fits.room),
        List.append_assoc, run_value_blank isBlank]
      exact run_giveClosed rfl
  | @array depth blank text tail item items isBlank first others =>
      rw [List.cons_append, run_cons (step_openList fits.room),
        List.append_assoc, run_value_blank isBlank, List.append_assoc,
        run_text first fits.deeper (settled_inside (delimited_itemsEnd others))]
      exact run_itemsEnd others fits.deeper
  | @emptyObject depth blank isBlank =>
      rw [List.cons_append, run_cons (step_openObject fits.room),
        List.append_assoc, run_key_blank isBlank]
      exact run_giveClosed rfl
  | @object depth blank text tail field fields isBlank first others =>
      rw [List.cons_append, run_cons (step_openObject fits.room),
        List.append_assoc, run_key_blank isBlank, List.append_assoc,
        run_fieldText first fits.deeper (delimited_fieldsEnd others)]
      exact run_fieldsEnd others fits.deeper

theorem run_itemsEnd {depth : Nat} {items done : List Document} {tail s : Bytes}
    {outer : List Frame} (isEnd : ItemsEnd depth items tail)
    (fits : Fits (.items done :: outer) depth) :
    (ReaderState.mk (.items done :: outer) .after).run (tail ++ s) =
      readAfter outer (.array (done.reverse ++ items)) s := by
  match isEnd with
  | .close isBlank =>
      rw [List.append_assoc, run_after_blank isBlank, List.append_nil]
      exact run_giveClosed rfl
  | .more isBlank isBlank' next others =>
      rw [List.append_assoc, run_after_blank isBlank, List.cons_append,
        run_cons rfl, List.append_assoc, run_value_blank isBlank',
        List.append_assoc, run_text next fits
          (settled_inside (delimited_itemsEnd others)), readAfter,
          run_itemsEnd others fits.change, List.reverse_cons, List.append_assoc]
      rfl

theorem run_fieldText {depth : Nat} {field : Bytes × Document}
    {done : List (Bytes × Document)} {key text s : Bytes} {outer : List Frame}
    {closable : Bool} (isText : FieldText depth field text)
    (fits : Fits (.fields done key :: outer) depth) (delimited : Delimited s) :
    (ReaderState.mk (.fields done key :: outer) (.key closable)).run
      (text ++ s) =
      (ReaderState.mk (.fields (field :: done) [] :: outer) .after).run s := by
  match isText with
  | @FieldText.mk _ raw _ _ _ value isQuoted isBlank isBlank' held =>
      have named : (ReaderState.mk (.fields done key :: outer)
          (.text true raw.reverse .none)).step 0x22 =
          .next ⟨.fields done (unescape raw) :: outer, .colon⟩ := by
        simp [ReaderState.step, stepText]
      rw [List.cons_append, run_cons rfl, List.append_assoc,
        run_quoted isQuoted, List.append_nil, List.cons_append, run_cons named,
        List.append_assoc, run_colon_blank isBlank, List.cons_append,
        run_cons rfl, List.append_assoc, run_value_blank isBlank',
        run_text held fits.change (settled_inside delimited)]
      rfl

theorem run_fieldsEnd {depth : Nat} {fields done : List (Bytes × Document)}
    {key tail s : Bytes} {outer : List Frame}
    (isEnd : FieldsEnd depth fields tail)
    (fits : Fits (.fields done key :: outer) depth) :
    (ReaderState.mk (.fields done key :: outer) .after).run (tail ++ s) =
      readAfter outer (.object (done.reverse ++ fields)) s := by
  match isEnd with
  | .close isBlank =>
      rw [List.append_assoc, run_after_blank isBlank, List.append_nil]
      exact run_giveClosed rfl
  | .more isBlank isBlank' next others =>
      rw [List.append_assoc, run_after_blank isBlank, List.cons_append,
        run_cons rfl, List.append_assoc, run_key_blank isBlank',
        List.append_assoc, run_fieldText next fits (delimited_fieldsEnd others),
        run_fieldsEnd others fits.change, List.reverse_cons, List.append_assoc]
      rfl

end

section

variable {blank text rest s t : Bytes} {d : Document}
    {fields : List (Bytes × Document)}

theorem run_object (isBlank : IsBlank blank)
    (isText : Text maxDepth (.object fields) text) :
    ReaderState.start.run (blank ++ (text ++ rest)) =
      .complete (.object fields) rest := by
  have fits : Fits [] maxDepth := Nat.le_of_eq (Nat.zero_add maxDepth)
  rw [ReaderState.start, run_value_blank isBlank,
    run_text isText fits (.inr (.inl ⟨fields, rfl⟩))]
  rfl

theorem run_append {state next : ReaderState}
    (unfinished : state.run s = .unfinished next) :
    state.run (s ++ t) = next.run t := by
  induction s generalizing state with
  | nil =>
      cases unfinished
      rfl
  | cons b s induction =>
      rw [List.cons_append]
      cases stepped : state.step b <;> simp only [ReaderState.run, stepped]
        at unfinished ⊢
      case next state => exact induction unfinished
      all_goals cases unfinished

theorem run_of_atEnd? {state : ReaderState} (complete : state.atEnd? = some d) :
    state.run [0x20] = .complete d [0x20] := by
  obtain ⟨stack, mode⟩ := state
  cases mode with
  | scalar value =>
      cases complete
      rfl
  | number raw part =>
      simp only [ReaderState.atEnd?, Option.ite_none_right_eq_some,
        Bool.and_eq_true, List.isEmpty_iff] at complete
      obtain ⟨⟨rfl, complete⟩, value_eq⟩ := complete
      cases value_eq
      have untaken : nextPart? part 0x20 = none := nextPart?_eq_none (.inl rfl)
      simp [ReaderState.run, ReaderState.step, untaken, complete, giveScalar]
  | value _ | key _ | colon | after | text _ _ _ | word _ _ => cases complete

private theorem begins_of_readFirst {more : Bool}
    (read : readFirst more s = .ok d) : Begins s d := by
  unfold readFirst at read
  cases run : ReaderState.start.run s with
  | complete value rest =>
      rw [run] at read
      cases read
      obtain ⟨blank, text, split, isBlank, isText⟩ := text_of_run run
      exact ⟨blank, text, rest, split, isBlank, isText⟩
  | malformed =>
      rw [run] at read
      cases read
  | unfinished state =>
      rw [run] at read
      cases more with
      | true => cases read
      | false =>
          cases atEnd : state.atEnd? with
          | none => simp [atEnd] at read
          | some value =>
              simp only [atEnd, Bool.false_eq_true, if_false, Except.ok.injEq]
                at read
              subst read
              have ended := (run_append run).trans (run_of_atEnd? atEnd)
              obtain ⟨blank, text, split, isBlank, isText⟩ := text_of_run ended
              rw [← List.append_assoc] at split
              rw [List.append_cancel_right split]
              exact ⟨blank, text, [], by rw [List.append_nil], isBlank, isText⟩

/-- The reader finds an object exactly in the texts that begin with one. -/
theorem readFirst_eq_object_iff {more : Bool} :
    readFirst more s = .ok (.object fields) ↔ Begins s (.object fields) := by
  constructor
  · exact begins_of_readFirst
  · rintro ⟨blank, text, rest, rfl, isBlank, isText⟩
    rw [readFirst, run_object isBlank isText]

end

end ModelGateway.Document
