import Mathlib.Tactic.SplitIfs
import ModelGateway.Proofs.Grammar

/-!
What the reader takes is in the grammar. For each state of the reader a
predicate says which texts complete the value that it is reading; a step takes a
byte off the front of such a text.
-/

namespace ModelGateway.Document

/-- The texts that complete a string. A count of digits that is 0 never arises;
it is read as 1. -/
def Escape.Continues : Escape → Bytes → Prop
  | .none, s => IsQuoted s
  | .backslash, s => IsQuoted (0x5c :: s)
  | .digits n, s =>
      ∃ digits rest, s = digits ++ rest ∧ digits.length = n - 1 + 1 ∧
      (∀ b ∈ digits, IsHexDigit b) ∧ IsQuoted rest

section

variable (whole : Document) (rest : Bytes)

/-- The texts after which `rest` follows and the whole value is read, once the
innermost open list or object is given a value. -/
def Closes : List Frame → Document → Bytes → Prop
  | [], value, s => whole = value ∧ s = rest
  | .items done :: outer, value, s => ∃ items tail after, s = tail ++ after ∧
      ItemsEnd (maxDepth - (outer.length + 1)) items tail ∧
        Closes outer (.array (done.reverse ++ value :: items)) after
  | .fields done key :: outer, value, s =>
      ∃ fields tail after, s = tail ++ after ∧
      FieldsEnd (maxDepth - (outer.length + 1)) fields tail ∧
        Closes outer (.object (done.reverse ++ (key, value) :: fields)) after

def Follows : List Frame → Bytes → Prop
  | [], _ => False
  | .items done :: outer, s => ∃ items tail after, s = tail ++ after ∧
      ItemsEnd (maxDepth - (outer.length + 1)) items tail ∧
        Closes whole rest outer (.array (done.reverse ++ items)) after
  | .fields done _ :: outer, s => ∃ fields tail after, s = tail ++ after ∧
      FieldsEnd (maxDepth - (outer.length + 1)) fields tail ∧
        Closes whole rest outer (.object (done.reverse ++ fields)) after

def ValueFollows (stack : List Frame) (s : Bytes) : Prop :=
  ∃ blank value text after, s = blank ++ (text ++ after) ∧ IsBlank blank ∧
    Text (maxDepth - stack.length) value text ∧
      Closes whole rest stack value after

def FieldFollows : List Frame → Bytes → Prop
  | .fields done _ :: outer, s =>
      ∃ blank field text after, s = blank ++ (text ++ after) ∧ IsBlank blank ∧
      FieldText (maxDepth - (outer.length + 1)) field text ∧
        Follows whole rest (.fields (field :: done) [] :: outer) after
  | _, _ => False

def ColonFollows (stack : List Frame) (s : Bytes) : Prop :=
  ∃ blank after, s = blank ++ 0x3a :: after ∧ IsBlank blank ∧
    ValueFollows whole rest stack after

def EndFollows (bracket : UInt8) (value : Document) (stack : List Frame)
    (s : Bytes) : Prop :=
  ∃ blank after, s = blank ++ bracket :: after ∧ IsBlank blank ∧
    Closes whole rest stack.tail value after

def StringFollows (name : Bool) (text : Bytes) (stack : List Frame)
    (s : Bytes) : Prop :=
  match name, stack with
  | true, .fields done _ :: outer =>
      ColonFollows whole rest (.fields done text :: outer) s
  | true, _ => False
  | false, stack => Closes whole rest stack (.string text) s

/-- The texts after which `rest` follows and the whole value is read, for each
state of the reader. -/
def ReaderState.Ends (state : ReaderState) (s : Bytes) : Prop :=
  match state.mode with
  | .value closable => ValueFollows whole rest state.stack s ∨
      closable = true ∧ EndFollows whole rest 0x5d (.array []) state.stack s
  | .key closable => FieldFollows whole rest state.stack s ∨
      closable = true ∧ EndFollows whole rest 0x7d (.object []) state.stack s
  | .colon => ColonFollows whole rest state.stack s
  | .after => Follows whole rest state.stack s
  | .text name raw escape =>
      ∃ more after, s = more ++ 0x22 :: after ∧ escape.Continues more ∧
      StringFollows whole rest name (unescape (raw.reverse ++ more))
        state.stack after
  | .word letters value =>
      ∃ after, s = letters ++ after ∧ Closes whole rest state.stack value after
  | .number raw part => ∃ more after, s = more ++ after ∧ part.Continues more ∧
      Closes whole rest state.stack (.number (raw.reverse ++ more)) after
  | .scalar value => whole = value ∧ s = rest

def Step.Ends (b : UInt8) (s : Bytes) : Step → Prop
  | .next state => state.Ends whole rest s
  | .finished value => whole = value ∧ s = rest
  | .ended value => whole = value ∧ b :: s = rest
  | .malformed => False

end

section

variable {whole : Document} {rest : Bytes} {stack : List Frame}
    {value : Document} {b : UInt8} {s : Bytes}

theorem closes_of_giveScalar
    (ends : (giveScalar stack value).Ends whole rest b s) :
    Closes whole rest stack value s := by
  match stack with
  | [] => exact ends
  | .items done :: outer =>
      obtain ⟨items, tail, after, split, isEnd, closes⟩ := ends
      rw [List.reverse_cons, List.append_assoc] at closes
      exact ⟨items, tail, after, split, isEnd, closes⟩
  | .fields done key :: outer =>
      obtain ⟨fields, tail, after, split, isEnd, closes⟩ := ends
      rw [List.reverse_cons, List.append_assoc] at closes
      exact ⟨fields, tail, after, split, isEnd, closes⟩

theorem closes_of_giveClosed
    (ends : (giveClosed stack value).Ends whole rest b s) :
    Closes whole rest stack value s := by
  cases stack with
  | nil => exact ends
  | cons frame outer => exact closes_of_giveScalar ends

private theorem valueFollows_of_list (room : stack.length < maxDepth)
    (ends : (ReaderState.mk (.items [] :: stack) (.value true)).Ends
      whole rest s) :
    ∃ value text after, 0x5b :: s = text ++ after ∧
      Text (maxDepth - stack.length) value text ∧
      Closes whole rest stack value after := by
  have deeper :
      maxDepth - stack.length = maxDepth - (stack.length + 1) + 1 := by
    omega
  rw [deeper]
  obtain ⟨blank, item, text, after, rfl, isBlank, first, items, tail, after,
    rfl, others, closes⟩ |
    ⟨-, blank, after, rfl, isBlank, closes⟩ := ends
  · refine ⟨.array (item :: items), 0x5b :: (blank ++ (text ++ tail)), after,
      ?_, .array isBlank first others, closes⟩
    simp
  · refine ⟨.array [], 0x5b :: (blank ++ [0x5d]), after, ?_,
      .emptyArray isBlank, closes⟩
    simp

private theorem valueFollows_of_object (room : stack.length < maxDepth)
    (ends : (ReaderState.mk (.fields [] [] :: stack) (.key true)).Ends
      whole rest s) :
    ∃ value text after, 0x7b :: s = text ++ after ∧
      Text (maxDepth - stack.length) value text ∧
      Closes whole rest stack value after := by
  have deeper :
      maxDepth - stack.length = maxDepth - (stack.length + 1) + 1 := by
    omega
  rw [deeper]
  obtain ⟨blank, field, text, after, rfl, isBlank, first, fields, tail, after,
    rfl, others, closes⟩ |
    ⟨-, blank, after, rfl, isBlank, closes⟩ := ends
  · refine ⟨.object (field :: fields), 0x7b :: (blank ++ (text ++ tail)), after,
      ?_, .object isBlank first others, closes⟩
    simp
  · refine ⟨.object [], 0x7b :: (blank ++ [0x7d]), after, ?_,
      .emptyObject isBlank, closes⟩
    simp

private theorem valueFollows_of_beginValue
    (ends : (beginValue stack b).Ends whole rest b s) :
    ∃ value text after, b :: s = text ++ after ∧
      Text (maxDepth - stack.length) value text ∧
      Closes whole rest stack value after := by
  unfold beginValue openFrame at ends
  split_ifs at ends with brace room bracket room' quote minus zero digit t f n
  · rw [beq_iff_eq.1 brace]
    exact valueFollows_of_object room ends
  · exact ends.elim
  · rw [beq_iff_eq.1 bracket]
    exact valueFollows_of_list room' ends
  · exact ends.elim
  · obtain ⟨more, after, rfl, isQuoted, closes⟩ := ends
    refine ⟨.string (unescape more), 0x22 :: (more ++ [0x22]), after, ?_,
      .string isQuoted, closes⟩
    simp [beq_iff_eq.1 quote]
  · obtain ⟨more, after, rfl, continues, closes⟩ := ends
    rw [beq_iff_eq.1 minus] at closes ⊢
    exact ⟨_, 0x2d :: more, after, rfl,
      .number (isNumber_iff.2 (.inl ⟨more, rfl, continues⟩)), closes⟩
  · obtain ⟨more, after, rfl, continues, closes⟩ := ends
    have isNumber : IsNumber (b :: more) :=
      isNumber_iff.2
        (.inr (NumberPart.minus_continues_cons.2
          (.inl ⟨beq_iff_eq.1 zero, continues⟩)))
    exact ⟨_, b :: more, after, rfl, .number isNumber, closes⟩
  · obtain ⟨more, after, rfl, continues, closes⟩ := ends
    have nonzero : b ≠ 0x30 := fun equal => zero (beq_iff_eq.2 equal)
    have isNumber : IsNumber (b :: more) :=
      isNumber_iff.2
        (.inr (NumberPart.minus_continues_cons.2
          (.inr ⟨nonzero, digit, continues⟩)))
    exact ⟨_, b :: more, after, rfl, .number isNumber, closes⟩
  · obtain ⟨after, rfl, closes⟩ := ends
    rw [beq_iff_eq.1 t]
    exact ⟨.bool true, utf8 "true", after, rfl, .yes, closes⟩
  · obtain ⟨after, rfl, closes⟩ := ends
    rw [beq_iff_eq.1 f]
    exact ⟨.bool false, utf8 "false", after, rfl, .no, closes⟩
  · obtain ⟨after, rfl, closes⟩ := ends
    rw [beq_iff_eq.1 n]
    exact ⟨.null, utf8 "null", after, rfl, .null, closes⟩
  · exact ends.elim

private theorem follows_blank_cons (space : isSpace b = true)
    (follows : Follows whole rest stack s) :
    Follows whole rest stack (b :: s) := by
  match stack with
  | .items done :: outer =>
      obtain ⟨items, tail, after, rfl, isEnd, closes⟩ := follows
      refine ⟨items, b :: tail, after, rfl, ?_, closes⟩
      cases isEnd with
      | close isBlank => exact .close (isBlank_cons.2 ⟨space, isBlank⟩)
      | more isBlank isBlank' next others =>
          exact .more (isBlank_cons.2 ⟨space, isBlank⟩) isBlank' next others
  | .fields done _ :: outer =>
      obtain ⟨fields, tail, after, rfl, isEnd, closes⟩ := follows
      refine ⟨fields, b :: tail, after, rfl, ?_, closes⟩
      cases isEnd with
      | close isBlank => exact .close (isBlank_cons.2 ⟨space, isBlank⟩)
      | more isBlank isBlank' next others =>
          exact .more (isBlank_cons.2 ⟨space, isBlank⟩) isBlank' next others

theorem follows_of_stepAfter (ends : (stepAfter stack b).Ends whole rest b s) :
    Follows whole rest stack (b :: s) := by
  by_cases space : isSpace b = true
  · rw [stepAfter.eq_def, if_pos space] at ends
    exact follows_blank_cons space ends
  · rw [stepAfter.eq_def, if_neg space] at ends
    match stack with
    | [] => exact ends
    | .items done :: outer =>
        simp only at ends
        split_ifs at ends with comma bracket
        · obtain ⟨blank, item, text, after, rfl, isBlank, next, closes⟩ |
            ⟨impossible, -⟩ := ends
          · obtain ⟨items, tail, after, rfl, others, closes⟩ := closes
            refine ⟨item :: items, _, after, ?_,
              .more isBlank_nil isBlank next others, closes⟩
            simp [beq_iff_eq.1 comma]
          · cases impossible
        · refine ⟨[], _, s, ?_, .close isBlank_nil, ?_⟩
          · simp [beq_iff_eq.1 bracket]
          · simpa using closes_of_giveClosed ends
        · exact ends.elim
    | .fields done _ :: outer =>
        simp only at ends
        split_ifs at ends with comma brace
        · obtain ⟨blank, field, text, after, rfl, isBlank, next, closes⟩ |
            ⟨impossible, -⟩ := ends
          · obtain ⟨fields, tail, after, rfl, others, closes⟩ := closes
            refine ⟨field :: fields, _, after, ?_,
              .more isBlank_nil isBlank next others, ?_⟩
            · simp [beq_iff_eq.1 comma]
            · simpa using closes
          · cases impossible
        · refine ⟨[], _, s, ?_, .close isBlank_nil, ?_⟩
          · simp [beq_iff_eq.1 brace]
          · simpa using closes_of_giveClosed ends
        · exact ends.elim

private theorem ends_of_stepText {name : Bool} {raw : Bytes} {escape : Escape}
    (ends : (stepText stack name raw escape b).Ends whole rest b s) :
    (ReaderState.mk stack (.text name raw escape)).Ends whole rest
      (b :: s) := by
  -- A byte that the string keeps is the first of what completes it.
  have kept {escape escape' : Escape}
      (continues : ∀ more, escape'.Continues more →
        escape.Continues (b :: more))
      (ends : (ReaderState.mk stack (.text name (b :: raw) escape')).Ends
        whole rest s) :
      (ReaderState.mk stack (.text name raw escape)).Ends whole rest
        (b :: s) := by
    obtain ⟨more, after, rfl, holds, follows⟩ := ends
    rw [List.reverse_cons, List.append_assoc] at follows
    exact ⟨b :: more, after, rfl, continues more holds, follows⟩
  cases escape with
  | none =>
      simp only [stepText] at ends
      split_ifs at ends with quote isName backslash control
      · refine ⟨[], s, by simp [beq_iff_eq.1 quote], .nil, ?_⟩
        subst isName
        match stack with
        | [] => exact ends
        | .items _ :: _ => exact ends
        | .fields done _ :: outer =>
            rw [List.append_nil]
            exact ends
      · refine ⟨[], s, by simp [beq_iff_eq.1 quote], .nil, ?_⟩
        rw [Bool.not_eq_true] at isName
        subst isName
        simpa [StringFollows] using closes_of_giveScalar ends
      · refine kept ?_ ends
        intro more continues
        rw [beq_iff_eq.1 backslash]
        exact continues
      · exact ends.elim
      · refine kept ?_ ends
        intro more continues
        exact .plain control (fun equal => quote (beq_iff_eq.2 equal))
          (fun equal => backslash (beq_iff_eq.2 equal)) continues
  | backslash =>
      simp only [stepText] at ends
      split_ifs at ends with u short
      · refine kept ?_ ends
        rintro more ⟨digits, others, rfl, four, hex, isQuoted⟩
        rw [beq_iff_eq.1 u]
        exact .unit four hex isQuoted
      · refine kept ?_ ends
        intro more continues
        exact .short short continues
      · exact ends.elim
  | digits n =>
      simp only [stepText] at ends
      split_ifs at ends with hexadecimal last
      · refine kept ?_ ends
        intro more continues
        refine ⟨[b], more, rfl, ?_,
          List.forall_mem_singleton.2 hexadecimal, continues⟩
        simp only [List.length_singleton]
        omega
      · refine kept ?_ ends
        rintro more ⟨digits, others, rfl, length, hex, isQuoted⟩
        refine ⟨b :: digits, others, rfl, ?_,
          List.forall_mem_cons.2 ⟨hexadecimal, hex⟩, isQuoted⟩
        simp only [List.length_cons]
        omega
      · exact ends.elim

private theorem fieldFollows_blank_cons (space : isSpace b = true)
    (follows : FieldFollows whole rest stack s) :
    FieldFollows whole rest stack (b :: s) := by
  match stack with
  | .fields done _ :: outer =>
      obtain ⟨blank, field, text, after, rfl, isBlank, isText, follows⟩ :=
        follows
      exact ⟨b :: blank, field, text, after, rfl,
        isBlank_cons.2 ⟨space, isBlank⟩, isText, follows⟩

private theorem fieldFollows_of_name
    (ends : (ReaderState.mk stack (.text true [] .none)).Ends whole rest s) :
    FieldFollows whole rest stack (0x22 :: s) := by
  obtain ⟨raw, after, rfl, isQuoted, follows⟩ := ends
  match stack with
  | [] => exact follows.elim
  | .items _ :: _ => exact follows.elim
  | .fields done _ :: outer =>
      obtain ⟨before, after, rfl, isBlank, blank, value, text, after, rfl,
        isBlank', held, closes⟩ :=
        follows
      refine ⟨[], (unescape raw, value), _, after, ?_, isBlank_nil,
        .mk isQuoted isBlank isBlank' held, ?_⟩
      · simp
      · obtain ⟨fields, tail, after, split, isEnd, closes⟩ := closes
        refine ⟨fields, tail, after, split, isEnd, ?_⟩
        rw [List.reverse_cons, List.append_assoc]
        exact closes

private theorem valueFollows_blank_cons (space : isSpace b = true)
    (follows : ValueFollows whole rest stack s) :
    ValueFollows whole rest stack (b :: s) := by
  obtain ⟨blank, value, text, after, rfl, isBlank, isText, closes⟩ := follows
  exact ⟨b :: blank, value, text, after, rfl,
    isBlank_cons.2 ⟨space, isBlank⟩, isText, closes⟩

private theorem endFollows_blank_cons {bracket : UInt8}
    (space : isSpace b = true)
    (follows : EndFollows whole rest bracket value stack s) :
    EndFollows whole rest bracket value stack (b :: s) := by
  obtain ⟨blank, after, rfl, isBlank, closes⟩ := follows
  exact ⟨b :: blank, after, rfl, isBlank_cons.2 ⟨space, isBlank⟩, closes⟩

private theorem endFollows_of_giveClosed
    (ends : (giveClosed stack.tail value).Ends whole rest b s) :
    EndFollows whole rest b value stack (b :: s) :=
  ⟨[], s, rfl, isBlank_nil, closes_of_giveClosed ends⟩

private theorem ends_of_stepWord {letters : Bytes}
    (ends : ((ReaderState.mk stack (.word letters value)).step b).Ends
      whole rest b s) :
    (ReaderState.mk stack (.word letters value)).Ends whole rest (b :: s) := by
  match letters with
  | [] => exact ends.elim
  | [c] =>
      simp only [ReaderState.step] at ends
      split_ifs at ends with equal
      · exact ⟨s, by rw [beq_iff_eq.1 equal]; rfl, closes_of_giveScalar ends⟩
      · exact ends.elim
  | c :: d :: letters =>
      simp only [ReaderState.step] at ends
      split_ifs at ends with equal
      · obtain ⟨after, rfl, closes⟩ := ends
        exact ⟨after, by rw [beq_iff_eq.1 equal]; rfl, closes⟩
      · exact ends.elim

private theorem ends_of_stepNumber {raw : Bytes} {part : NumberPart}
    (ends : ((ReaderState.mk stack (.number raw part)).step b).Ends
      whole rest b s) :
    (ReaderState.mk stack (.number raw part)).Ends whole rest (b :: s) := by
  simp only [ReaderState.step] at ends
  split at ends
  next next taken =>
    obtain ⟨more, after, rfl, continues, closes⟩ := ends
    rw [List.reverse_cons, List.append_assoc] at closes
    exact ⟨b :: more, after, rfl,
      NumberPart.continues_cons_iff.2 ⟨next, taken, continues⟩, closes⟩
  next untaken =>
    split_ifs at ends with complete
    · refine ⟨[], b :: s, rfl, NumberPart.continues_nil_iff.2 complete, ?_⟩
      rw [List.append_nil]
      -- A number ends only at the byte behind it, which is then read as the
      -- byte after a value.
      match stack with
      | [] => exact ends
      | .items done :: outer =>
          exact closes_of_giveScalar (b := b) (follows_of_stepAfter ends)
      | .fields done key :: outer =>
          exact closes_of_giveScalar (b := b) (follows_of_stepAfter ends)
    · exact ends.elim

/-- A step takes a byte off the front of the texts that complete the value. -/
theorem ends_of_step {state : ReaderState}
    (ends : (state.step b).Ends whole rest b s) :
    state.Ends whole rest (b :: s) := by
  obtain ⟨stack, mode⟩ := state
  -- One case for each mode: what the reader does with one byte is undone on
  -- the text that is still expected.
  cases mode with
  | value closable =>
      simp only [ReaderState.step] at ends
      split_ifs at ends with space closes
      · exact ends.imp (valueFollows_blank_cons space)
          (And.imp_right (endFollows_blank_cons space))
      · obtain ⟨closable, bracket⟩ := Bool.and_eq_true_iff.1 closes
        cases beq_iff_eq.1 bracket
        exact .inr ⟨closable, endFollows_of_giveClosed ends⟩
      · obtain ⟨value, text, after, split, isText, closes⟩ :=
          valueFollows_of_beginValue ends
        exact .inl ⟨[], value, text, after, split, isBlank_nil, isText, closes⟩
  | key closable =>
      simp only [ReaderState.step] at ends
      split_ifs at ends with space quote closes
      · exact ends.imp (fieldFollows_blank_cons space)
          (And.imp_right (endFollows_blank_cons space))
      · cases beq_iff_eq.1 quote
        exact .inl (fieldFollows_of_name ends)
      · obtain ⟨closable, brace⟩ := Bool.and_eq_true_iff.1 closes
        cases beq_iff_eq.1 brace
        exact .inr ⟨closable, endFollows_of_giveClosed ends⟩
      · exact ends.elim
  | colon =>
      simp only [ReaderState.step] at ends
      split_ifs at ends with space colon
      · obtain ⟨blank, after, rfl, isBlank, follows⟩ := ends
        exact ⟨b :: blank, after, rfl, isBlank_cons.2 ⟨space, isBlank⟩, follows⟩
      · obtain follows | ⟨impossible, -⟩ := ends
        · exact ⟨[], s, by rw [beq_iff_eq.1 colon]; rfl, isBlank_nil, follows⟩
        · cases impossible
      · exact ends.elim
  | after => exact follows_of_stepAfter ends
  | text name raw escape => exact ends_of_stepText ends
  | word letters value => exact ends_of_stepWord ends
  | number raw part => exact ends_of_stepNumber ends
  | scalar value => exact ends

private theorem ends_of_run {state : ReaderState}
    (complete : state.run s = .complete whole rest) :
    state.Ends whole rest s := by
  induction s generalizing state with
  | nil => cases complete
  | cons b s induction =>
      apply ends_of_step
      simp only [ReaderState.run] at complete
      cases stepped : state.step b with
      | next state =>
          rw [stepped] at complete
          exact induction complete
      | finished value =>
          rw [stepped] at complete
          cases complete
          exact ⟨rfl, rfl⟩
      | ended value =>
          rw [stepped] at complete
          cases complete
          exact ⟨rfl, rfl⟩
      | malformed =>
          rw [stepped] at complete
          cases complete

theorem text_of_run (complete : ReaderState.start.run s =
    .complete whole rest) :
    ∃ blank text, s = blank ++ (text ++ rest) ∧ IsBlank blank ∧
      Text maxDepth whole text := by
  obtain ⟨blank, value, text, after, rfl, isBlank, isText, rfl, rfl⟩ |
    ⟨impossible, -⟩ :=
    ends_of_run complete
  · exact ⟨blank, text, rfl, isBlank, isText⟩
  · cases impossible

end

end ModelGateway.Document
