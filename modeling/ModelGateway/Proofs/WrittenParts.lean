import Mathlib.Data.List.Infix
import ModelGateway.Proofs.Limit

/-!
Bodies of several parts as they are written. Reading finds the parts again,
whatever bytes their data hold, as long as no line of the data is a delimiter
itself.
-/

namespace ModelGateway

/-- A field that comes through a header as it is: its name is spelled as usual,
and its value fills one line without blanks at its ends. -/
structure Headers.IsPlain (field : Bytes × Bytes) : Prop where
  named : field.1 ≠ []
  name : ∀ b ∈ field.1, isNameByte b = true
  usual : capitalize true field.1 = field.1
  value : field.2.all isValueByte = true
  start : ∃ b, field.2.head? = some b ∧ Multipart.isLineBlank b = false
  ending : ∃ b, field.2.getLast? = some b ∧ Multipart.isLineBlank b = false

namespace Bytes

private theorem cut?_of_not_mem {sep : UInt8} {before after : Bytes}
    (absent : sep ∉ before) :
    cut? sep (before ++ sep :: after) = some (before, after) := by
  induction before with
  | nil => simp [cut?]
  | cons b before induction =>
      obtain ⟨differs, absent⟩ := not_or.1 (mt List.mem_cons.2 absent)
      have other : (b == sep) = false := beq_eq_false_iff_ne.2 (Ne.symm differs)
      rw [List.cons_append, cut?, other, induction absent]
      rfl

theorem dropWhile_of_head? {p : UInt8 → Bool} {s : Bytes}
    (solid : ∀ b, s.head? = some b → p b = false) :
    s.dropWhile p = s := by
  cases s with
  | nil => rfl
  | cons b s => rw [List.dropWhile_cons, solid b rfl]; rfl

theorem takeWhile_append_of_stop {p : UInt8 → Bool} {s rest : Bytes}
    (inside : ∀ b ∈ s, p b = true)
    (stop : ∀ b, rest.head? = some b → p b = false) :
    (s ++ rest).takeWhile p = s := by
  rw [List.takeWhile_append_of_pos inside]
  cases rest with
  | nil => exact List.append_nil s
  | cons b rest => rw [List.takeWhile_cons, stop b rfl]; exact List.append_nil s

private theorem trimWhile_of_ends {p : UInt8 → Bool} {s : Bytes}
    (start : ∀ b, s.head? = some b → p b = false)
    (ending : ∀ b, s.getLast? = some b → p b = false) : trimWhile p s = s := by
  rw [trimWhile, dropEndWhile, dropWhile_of_head? start, dropWhile_of_head?,
    List.reverse_reverse]
  intro b last
  rw [List.head?_reverse] at last
  exact ending b last

theorem length_le_flatMap {α : Type} {f : α → Bytes}
    (filled : ∀ a, f a ≠ [])
    (l : List α) :
    l.length ≤ (l.flatMap f).length := by
  induction l with
  | nil => exact Nat.le_refl 0
  | cons a l induction =>
      have more := List.length_pos_iff.2 (filled a)
      rw [List.flatMap_cons, List.length_append, List.length_cons]
      omega

end Bytes

namespace Multipart

section Header

variable {a : Allowance} {field : Bytes × Bytes} {headers read : Headers}
  {line rest : Bytes} {most : Nat}

theorem bne_of_not_mem {b : UInt8} (absent : b ∉ line) :
    ∀ c ∈ line, (c != b) = true := by
  intro c member
  rw [bne_iff_ne]
  intro equal
  exact absent (equal ▸ member)

private theorem append_lineEnd (line rest : Bytes) :
    line ++ (utf8 "\r\n" ++ rest) = (line ++ [0x0d]) ++ 0x0a :: rest := by
  rw [List.append_assoc]
  rfl

private theorem takeWhile_line (solid : (0x0a : UInt8) ∉ line) :
    (line ++ (utf8 "\r\n" ++ rest)).takeWhile (· != 0x0a) = line ++ [0x0d] := by
  have solid' : (0x0a : UInt8) ∉ line ++ [0x0d] :=
    List.not_mem_append solid (by decide)
  rw [append_lineEnd]
  exact Bytes.takeWhile_append_of_stop (bne_of_not_mem solid') (by simp)

private theorem pieceLength_le (long : maxLine ≤ (line ++ [0x0d]).length) :
    pieceLength (line ++ [0x0d]) ≤ line.length := by
  rw [List.length_append, List.length_singleton] at long
  unfold pieceLength
  split
  · omega
  next inside =>
    by_cases last : line.length = maxLine - 1
    · have ends : (line ++ [0x0d]).getD (maxLine - 1) 0 = 0x0d := by
        rw [← last, List.getD_eq_getElem?_getD, List.getElem?_concat_length]
        rfl
      rw [ends] at inside
      exact absurd rfl inside
    · omega

private theorem headerLine_long {limit : Int} {before : Bytes}
    (solid : (0x0a : UInt8) ∉ line)
    (long : maxLine ≤ (line ++ [0x0d]).length) :
    headerLine limit before (line ++ (utf8 "\r\n" ++ rest)) =
      let next := before ++ line.take (pieceLength (line ++ [0x0d]))
      let left := line.drop (pieceLength (line ++ [0x0d])) ++
        (utf8 "\r\n" ++ rest)
      if exceeds limit next.length then .tooLong left
      else headerLine limit next left := by
  have inside := pieceLength_le long
  rw [headerLine]
  simp only [takeWhile_line solid]
  rw [if_pos long, List.take_append_of_le_length inside,
    List.drop_append_of_le_length inside]

private theorem headerLine_short {limit : Int} {before : Bytes}
    (solid : (0x0a : UInt8) ∉ line)
    (short : ¬ maxLine ≤ (line ++ [0x0d]).length) :
    headerLine limit before (line ++ (utf8 "\r\n" ++ rest)) =
      if exceeds limit (before ++ line).length then .tooLong rest
      else .line (before ++ line) rest := by
  have ended : (Bytes.dropStart? [0x0d] (line ++ [0x0d]).reverse).elim
      (line ++ [0x0d]) List.reverse = line := by
    simp [Bytes.dropStart?]
  rw [headerLine]
  simp only [takeWhile_line solid]
  rw [if_neg short, append_lineEnd, List.drop_left]
  simp only [ended]

/-- A line is read whole unless it exceeds the limit, in however many pieces it
is read. -/
theorem headerLine_line {limit : Int} {before : Bytes}
    (solid : (0x0a : UInt8) ∉ line) :
    (exceeds limit (before ++ line).length = false →
        headerLine limit before (line ++ (utf8 "\r\n" ++ rest)) =
          .line (before ++ line) rest) ∧
      (exceeds limit (before ++ line).length = true →
        ∃ left, headerLine limit before (line ++ (utf8 "\r\n" ++ rest)) =
          .tooLong left) := by
  induction size : line.length using Nat.strongRecOn
      generalizing before line with
  | ind n induction =>
      by_cases long : maxLine ≤ (line ++ [0x0d]).length
      · rw [headerLine_long solid long]
        generalize piece_eq : pieceLength (line ++ [0x0d]) = piece
        have joined :
            before ++ line.take piece ++ line.drop piece = before ++ line := by
          rw [List.append_assoc, List.take_append_drop]
        have shorter : (line.drop piece).length < n := by
          have positive := pieceLength_pos (line ++ [0x0d])
          have inside := pieceLength_le long
          rw [List.length_drop]
          omega
        have later := @induction _ shorter (line.drop piece)
          (before ++ line.take piece)
          (fun member => solid (List.mem_of_mem_drop member)) rfl
        rw [joined] at later
        dsimp only
        split
        next beyond =>
          -- a piece that is too long makes the whole line too long
          refine ⟨fun within => ?_, fun _ => ⟨_, rfl⟩⟩
          have longer : (before ++ line.take piece).length ≤
              (before ++ line).length := by
            rw [← joined]
            exact (List.prefix_append _ _).length_le
          simp only [exceeds, Bool.and_eq_true, decide_eq_true_eq] at beyond
          simp only [exceeds, Bool.and_eq_false_iff, decide_eq_false_iff_not]
            at within
          omega
        next => exact later
      · rw [headerLine_short solid long]
        constructor
        · intro within
          rw [within]
          rfl
        · intro beyond
          rw [beyond]
          exact ⟨rest, rfl⟩

theorem continued_of_solid {limit : Int}
    (solid : ∀ b, rest.head? = some b → isLineBlank b = false) :
    continued limit most line rest = some (line, rest) := by
  cases most with
  | zero => rfl
  | succ most =>
      rw [continued, Bytes.dropWhile_of_head? solid]
      simp

theorem not_mem_name (plain : Headers.IsPlain field)
    {b : UInt8} (other : Headers.isNameByte b = false) :
    b ∉ field.1 := by
  intro member
  cases (plain.name b member).symm.trans other

private theorem not_mem_value (plain : Headers.IsPlain field)
    {b : UInt8} (other : Headers.isValueByte b = false) :
    b ∉ field.2 := by
  intro member
  cases (List.all_eq_true.1 plain.value b member).symm.trans other

theorem isLineBlank_of_head? (plain : Headers.IsPlain field)
    {b : UInt8} (first : (field.1 ++ rest).head? = some b) :
    isLineBlank b = false := by
  have member : b ∈ field.1 := by
    rw [List.head?_append_of_ne_nil _ plain.named] at first
    exact List.mem_of_head? first
  rw [Bool.eq_false_iff]
  intro blank
  rw [isLineBlank, Bool.or_eq_true, beq_iff_eq, beq_iff_eq] at blank
  rcases blank with rfl | rfl
  · exact not_mem_name plain (by decide) member
  · exact not_mem_name plain (by decide) member

private theorem field?_plain (plain : Headers.IsPlain field) :
    field? (field.1 ++ (utf8 ": " ++ field.2)) = some field := by
  have found : Bytes.cut? 0x3a (field.1 ++ (utf8 ": " ++ field.2)) =
      some (field.1, 0x20 :: field.2) :=
    Bytes.cut?_of_not_mem (not_mem_name plain (by decide))
  have value : (0x20 :: field.2).dropWhile isLineBlank = field.2 := by
    obtain ⟨b, first, solid⟩ := plain.start
    rw [List.dropWhile_cons_of_pos (by decide)]
    apply Bytes.dropWhile_of_head?
    intro c first'
    cases first.symm.trans first'
    exact solid
  have nonempty : field.1.isEmpty = false :=
    List.isEmpty_eq_false_iff.2 plain.named
  have name :
      field.1.all (fun b => Headers.isNameByte b || b == 0x20) = true := by
    rw [List.all_eq_true]
    intro b member
    rw [plain.name b member, Bool.true_or]
  have canonical : Headers.canonicalName field.1 = field.1 := by
    rw [Headers.canonicalName, List.all_eq_true.2 plain.name]
    exact plain.usual
  have allowed : (0x20 :: field.2).all Headers.isValueByte = true := by
    rw [List.all_cons, plain.value]
    rfl
  rw [field?, found]
  simp only [Option.bind_eq_bind, Option.bind_some, nonempty, name, allowed,
    canonical, value]
  rfl

private theorem weight_cons_of_fresh
    (fresh : ∀ other ∈ read, other.1 ≠ field.1) :
    Headers.weight (field :: read) =
      field.2.length + (field.1.length + 200) + Headers.weight read := by
  have unnamed : read.any (·.1 == field.1) = false := by
    rw [List.any_eq_false]
    intro other member
    rw [beq_iff_eq]
    exact fresh other member
  obtain ⟨name, value⟩ := field
  simp [Headers.weight, unnamed]

private theorem weight_le_append (headers read : Headers) :
    Headers.weight read ≤ Headers.weight (headers ++ read) := by
  induction headers with
  | nil => exact Nat.le_refl _
  | cons field headers induction =>
      rw [List.cons_append, Headers.weight]
      omega

def Overdrawn (a : Allowance) (read : Headers) : Prop :=
  a.fields < read.length ∨ a.room read < 0

instance (a : Allowance) (read : Headers) : Decidable (Overdrawn a read) :=
  inferInstanceAs (Decidable (_ ∨ _))

theorem Overdrawn.append (overdrawn : Overdrawn a read) (headers : Headers) :
    Overdrawn a (headers ++ read) := by
  have heavier := weight_le_append headers read
  unfold Overdrawn Allowance.room at *
  rw [List.length_append]
  omega

private theorem fields_plain (plain : Headers.IsPlain field)
    (fresh : ∀ other ∈ read, other.1 ≠ field.1)
    (solid : ∀ b, rest.head? = some b → isLineBlank b = false) :
    fields a (most + 1) read
        (field.1 ++ (utf8 ": " ++ field.2) ++ (utf8 "\r\n" ++ rest)) =
      if Overdrawn a (field :: read) then .broken .tooLarge
      else fields a most (field :: read) rest := by
  have inLine : (0x0a : UInt8) ∉ field.1 ++ (utf8 ": " ++ field.2) := by
    simp only [List.mem_append, not_or]
    exact ⟨not_mem_name plain (by decide), by decide,
      not_mem_value plain (by decide)⟩
  have colon : (field.1 ++ (utf8 ": " ++ field.2)).contains 0x3a = true := by
    rw [List.contains_iff_mem]
    exact List.mem_append_right _ (List.mem_append_left _ (by decide))
  have trimmed :
      Bytes.trimWhile isLineBlank (field.1 ++ (utf8 ": " ++ field.2)) =
      field.1 ++ (utf8 ": " ++ field.2) := by
    apply Bytes.trimWhile_of_ends
    · intro b first
      exact isLineBlank_of_head? plain first
    · intro b last
      obtain ⟨c, last', solid⟩ := plain.ending
      rw [List.getLast?_append, List.getLast?_append, last'] at last
      cases last
      exact solid
  have nonempty : field.1 ++ (utf8 ": " ++ field.2) ≠ [] := by
    intro empty
    exact plain.named (List.append_eq_nil_iff.1 empty).1
  have reads := @headerLine_line (field.1 ++ (utf8 ": " ++ field.2)) rest
    (a.room read) [] inLine
  rw [List.nil_append] at reads
  rw [fields]
  cases beyond : exceeds (a.room read)
      (field.1 ++ (utf8 ": " ++ field.2)).length with
  | true =>
      -- a line that is too long is also too heavy
      obtain ⟨left, tooLong⟩ := reads.2 beyond
      have overdrawn : Overdrawn a (field :: read) := by
        have marks : (utf8 ": ").length = 2 := by decide
        simp only [exceeds, Bool.and_eq_true, decide_eq_true_eq,
          List.length_append] at beyond
        unfold Overdrawn Allowance.room at *
        rw [weight_cons_of_fresh fresh]
        omega
      simp only [tooLong]
      rw [if_pos overdrawn]
  | false =>
      simp only [reads.1 beyond, colon, trimmed, continued_of_solid solid,
        field?_plain plain, Overdrawn, Bool.or_eq_true, decide_eq_true_eq]
      rfl

theorem writeHeaders_cons (field : Bytes × Bytes) (headers : Headers) :
    writeHeaders (field :: headers) ++ rest =
      field.1 ++ (utf8 ": " ++ field.2) ++
        (utf8 "\r\n" ++ (writeHeaders headers ++ rest)) := by
  simp only [writeHeaders, List.flatMap_cons, List.append_assoc]

theorem isLineBlank_of_head?_writeHeaders
    (plain : ∀ field ∈ headers, Headers.IsPlain field)
    {b : UInt8}
    (first : (writeHeaders headers ++ (utf8 "\r\n" ++ rest)).head? = some b) :
    isLineBlank b = false := by
  cases headers with
  | nil =>
      cases first
      rfl
  | cons field headers =>
      rw [writeHeaders_cons, List.append_assoc] at first
      exact isLineBlank_of_head? (plain field List.mem_cons_self) first

private theorem fields_end :
    fields a (most + 1) read (utf8 "\r\n" ++ rest) =
      .complete read.reverse rest := by
  have unlimited : exceeds (a.room read) 0 = false := by
    simp only [exceeds, Bool.and_eq_false_iff, decide_eq_false_iff_not]
    omega
  have ended : headerLine (a.room read) [] ([] ++ (utf8 "\r\n" ++ rest)) =
      .line [] rest := (headerLine_line List.not_mem_nil).1 unlimited
  rw [List.nil_append] at ended
  rw [fields]
  simp only [ended]

private theorem fields_writeHeaders
    (plain : ∀ field ∈ headers, Headers.IsPlain field)
    (distinct : (headers.reverse ++ read).Pairwise fun f g => g.1 ≠ f.1)
    (filled : headers ≠ [])
    (enough : headers.length < most) :
    fields a most read (writeHeaders headers ++ (utf8 "\r\n" ++ rest)) =
      if Overdrawn a (headers.reverse ++ read) then .broken .tooLarge
      else .complete (read.reverse ++ headers) rest := by
  induction headers generalizing most read with
  | nil => exact absurd rfl filled
  | cons field headers induction =>
      obtain ⟨most, rfl⟩ := Nat.exists_eq_succ_of_ne_zero
        (Nat.ne_of_gt (Nat.zero_lt_of_lt enough))
      have plain' : ∀ other ∈ headers, Headers.IsPlain other := by
        intro other member
        exact plain other (List.mem_cons_of_mem field member)
      have enough := Nat.lt_of_succ_lt_succ enough
      rw [List.reverse_cons, List.append_assoc, List.singleton_append]
        at distinct ⊢
      have fresh : ∀ other ∈ read, other.1 ≠ field.1 := by
        intro other member
        exact List.rel_of_pairwise_cons
          (List.pairwise_append.1 distinct).2.1 member
      rw [writeHeaders_cons, Nat.succ_eq_add_one,
        fields_plain (plain field List.mem_cons_self) fresh]
      · split
        next overdrawn => rw [if_pos (overdrawn.append _)]
        next within =>
          cases headers with
          | nil =>
              obtain ⟨most, rfl⟩ := Nat.exists_eq_succ_of_ne_zero
                (Nat.ne_of_gt enough)
              rw [List.reverse_nil, List.nil_append, if_neg within,
                ← List.reverse_cons]
              exact fields_end
          | cons next headers =>
              have turned : (field :: read).reverse ++ next :: headers =
                  read.reverse ++ field :: next :: headers := by
                rw [List.reverse_cons, List.append_assoc]
                rfl
              rw [induction plain' distinct (List.cons_ne_nil _ _) enough,
                turned]
      · intro b first
        exact isLineBlank_of_head?_writeHeaders plain' first

theorem header_writeHeaders (plain : ∀ field ∈ headers, Headers.IsPlain field)
    (distinct : headers.reverse.Pairwise fun f g => g.1 ≠ f.1)
    (filled : headers ≠ []) :
    header a (writeHeaders headers ++ (utf8 "\r\n" ++ rest)) =
      if Overdrawn a headers.reverse then .broken .tooLarge
      else .complete headers rest := by
  have solid : ((writeHeaders headers ++ (utf8 "\r\n" ++ rest)).head?.map
      isLineBlank).getD false = false := by
    cases first : (writeHeaders headers ++ (utf8 "\r\n" ++ rest)).head? with
    | none => rfl
    | some b => exact isLineBlank_of_head?_writeHeaders plain first
  have enough : headers.length <
      (writeHeaders headers ++ (utf8 "\r\n" ++ rest)).length + 1 := by
    have fewer : headers.length ≤ (writeHeaders headers).length := by
      apply Bytes.length_le_flatMap
      intro field
      exact List.append_ne_nil_of_right_ne_nil _ (by decide)
    rw [List.length_append]
    omega
  have reads := @fields_writeHeaders a headers [] rest _ plain
    (by rwa [List.append_nil]) filled enough
  rw [List.append_nil, List.reverse_nil, List.nil_append] at reads
  rw [header, solid]
  exact reads

end Header

section Data

variable {boundary data rest more : Bytes}

/-- No line of the data is a delimiter, which starts with the dashes and the
boundary and then ends or goes on with blanks or two more dashes. -/
def IsFree (boundary data : Bytes) : Prop :=
  startsDelimiter (dashes boundary) data = false ∧
    ∀ line, utf8 "\r\n" ++ line <:+ data →
      startsDelimiter (dashes boundary) line = false

instance : Decidable (IsFree boundary data) :=
  decidable_of_iff
    (startsDelimiter (dashes boundary) data = false ∧
      ∀ rest ∈ data.tails, ∀ line ∈ Bytes.dropStart? (utf8 "\r\n") rest,
      startsDelimiter (dashes boundary) line = false) <| by
    refine and_congr_right' ⟨?_, ?_⟩
    · intro free line suffix
      exact free _ ((List.mem_tails _ _).2 suffix) line
        (Bytes.dropStart?_eq_some_iff.2 rfl)
    · intro free rest member line dropped
      rw [List.mem_tails, Bytes.dropStart?_eq_some_iff.1 dropped] at member
      exact free line member

private theorem endsBoundary_of_append
    (ends : endsBoundary (rest ++ 0x0d :: more) = true) :
    endsBoundary rest = true := by
  fun_cases endsBoundary rest with
  | case1 => rfl
  | case2 => rfl
  | case3 b tail single =>
      rw [List.cons_append] at ends
      unfold endsBoundary at ends
      split at ends
      next nothing => cases nothing
      next after doubled =>
        cases tail with
        | nil => cases doubled
        | cons c tail =>
            cases doubled
            exact absurd rfl (single tail rfl)
      next c after _ whole =>
        cases whole
        exact ends

theorem startsDelimiter_iff {delimiter s : Bytes} :
    startsDelimiter delimiter s = true ↔ ∃ rest, s = delimiter ++ rest ∧
      endsBoundary rest = true := by
  unfold startsDelimiter
  cases dropped : Bytes.dropStart? delimiter s with
  | none =>
      constructor
      · intro starts
        cases starts
      · intro starts
        obtain ⟨rest, whole, -⟩ := starts
        cases dropped.symm.trans (Bytes.dropStart?_eq_some_iff.2 whole)
  | some rest =>
      have whole := Bytes.dropStart?_eq_some_iff.1 dropped
      constructor
      · intro ends
        exact ⟨rest, whole, ends⟩
      · intro starts
        obtain ⟨rest', whole', ends⟩ := starts
        cases List.append_cancel_left (whole.symm.trans whole')
        exact ends

theorem startsDelimiter_of_append (solid : (0x0d : UInt8) ∉ boundary)
    (starts : startsDelimiter (dashes boundary) (data ++ 0x0d :: more) = true) :
    startsDelimiter (dashes boundary) data = true := by
  obtain ⟨rest, whole, ends⟩ := startsDelimiter_iff.1 starts
  rcases List.append_eq_append_iff.1 whole with ⟨part, front, back⟩ |
    ⟨part, front, back⟩
  · cases part with
    | nil =>
        exact startsDelimiter_iff.2
          ⟨[], by rw [front, List.append_nil, List.append_nil], rfl⟩
    | cons b part =>
        cases back
        have inside : (0x0d : UInt8) ∈ dashes boundary := by
          rw [front]
          exact List.mem_append_right data List.mem_cons_self
        have dash : (0x0d : UInt8) ∉ utf8 "--" := by decide
        exact absurd inside (List.not_mem_append dash solid)
  · subst back
    exact startsDelimiter_iff.2 ⟨part, front, endsBoundary_of_append ends⟩

private theorem dataLength?_eq (solid : (0x0d : UInt8) ∉ boundary)
    (free : ∀ line, utf8 "\r\n" ++ line <:+ data →
      startsDelimiter (dashes boundary) line = false)
    (ends : endsBoundary rest = true)
    (passed : Nat) :
    dataLength? (utf8 "\r\n" ++ dashes boundary) passed
      (data ++ (utf8 "\r\n" ++ (dashes boundary ++ rest))) =
      some (passed + data.length) := by
  induction data generalizing passed with
  | nil =>
      have here : startsDelimiter (utf8 "\r\n" ++ dashes boundary)
          (utf8 "\r\n" ++ (dashes boundary ++ rest)) = true :=
        startsDelimiter_iff.2 ⟨rest, (List.append_assoc _ _ _).symm, ends⟩
      rw [List.nil_append, dataLength?.eq_def, here]
      rfl
  | cons b data induction =>
      have notHere : startsDelimiter (utf8 "\r\n" ++ dashes boundary)
          (b :: data ++ (utf8 "\r\n" ++ (dashes boundary ++ rest))) =
            false := by
        rw [Bool.eq_false_iff]
        intro starts
        obtain ⟨after, whole, ends⟩ := startsDelimiter_iff.1 starts
        cases data with
        | nil => cases whole
        | cons c line =>
            obtain ⟨carriage, whole⟩ := List.cons.inj whole
            obtain ⟨feed, inner⟩ := List.cons.inj whole
            subst carriage feed
            have begins : startsDelimiter (dashes boundary) line = true :=
              startsDelimiter_of_append solid
                (startsDelimiter_iff.2 ⟨after, inner, ends⟩)
            cases begins.symm.trans (free line List.suffix_rfl)
      have later : ∀ line, utf8 "\r\n" ++ line <:+ data →
          startsDelimiter (dashes boundary) line = false := by
        intro line suffix
        exact free line (suffix.trans (List.suffix_cons b data))
      rw [dataLength?.eq_def, notHere]
      change dataLength? _ (passed + 1) (data ++ _) = _
      rw [induction later, List.length_cons, Nat.add_assoc, Nat.add_comm 1]

private theorem split?_eq (solid : (0x0d : UInt8) ∉ boundary)
    (free : IsFree boundary data)
    (ends : endsBoundary rest = true) :
    split? boundary false (data ++ (utf8 "\r\n" ++ (dashes boundary ++ rest))) =
      some (data, utf8 "\r\n" ++ (dashes boundary ++ rest)) := by
  have notHere : startsDelimiter (dashes boundary)
      (data ++ (utf8 "\r\n" ++ (dashes boundary ++ rest))) = false := by
    rw [Bool.eq_false_iff]
    intro starts
    cases (startsDelimiter_of_append solid starts).symm.trans free.1
  have length := dataLength?_eq solid free.2 ends 0
  rw [Nat.zero_add] at length
  rw [split?, notHere]
  change Option.map _ (dataLength? (utf8 "\r\n" ++ dashes boundary) 0 _) = _
  rw [length, Option.map_some, List.take_left, List.drop_left]

end Data

/-- A boundary that may separate parts: of letters, digits and a few marks, not
too long, without a space at its end. -/
structure IsBoundary (boundary : Bytes) : Prop where
  nonempty : boundary ≠ []
  short : boundary.length ≤ 70
  bytes : ∀ b ∈ boundary, (Bytes.isLetter b || Bytes.isDigit b ||
    (utf8 "'()+_,-./:=? ").contains b) = true
  ending : boundary.getLast? ≠ some 0x20

structure IsReadable (boundary : Bytes) (part : Part) : Prop where
  headed : part.headers ≠ []
  plain : ∀ field ∈ part.headers, Headers.IsPlain field
  distinct : part.headers.reverse.Pairwise fun f g => g.1 ≠ f.1
  free : IsFree boundary part.data

section Text

variable {boundary rest : Bytes} {state : Seeking} {part : Part}
  {all : List Part} {cut : Bool} {left : Nat}

theorem IsBoundary.not_mem (valid : IsBoundary boundary)
    {b : UInt8} (other : (Bytes.isLetter b || Bytes.isDigit b ||
      (utf8 "'()+_,-./:=? ").contains b) = false) :
    b ∉ boundary := by
  intro member
  cases (valid.bytes b member).symm.trans other

theorem afterBoundary?_append (boundary : Bytes) (rest : Bytes) :
    afterBoundary? boundary (dashes boundary ++ rest) =
      some (rest.dropWhile isLineBlank) := by
  rw [afterBoundary?, Bytes.dropStart?_eq_some_iff.2 rfl]
  rfl

theorem IsBoundary.solid (valid : IsBoundary boundary) :
    (0x0a : UInt8) ∉ dashes boundary :=
  List.not_mem_append (by decide) (valid.not_mem (by decide))

theorem IsBoundary.fits (valid : IsBoundary boundary) (few : rest.length ≤ 4) :
    ¬ maxLine < (dashes boundary ++ rest).length := by
  have marks : (utf8 "--").length = 2 := by decide
  have short := valid.short
  rw [dashes, List.length_append, List.length_append, maxLine]
  omega

private theorem judge_delimiter (valid : IsBoundary boundary)
    (crlf : state.bare = false) :
    judge boundary state (dashes boundary ++ utf8 "\r\n") = .opens false := by
  have notBare :
      isDelimiter boundary true (dashes boundary ++ utf8 "\r\n") = false := by
    rw [isDelimiter, afterBoundary?_append]
    decide
  have delimits :
      isDelimiter boundary false (dashes boundary ++ utf8 "\r\n") = true := by
    rw [isDelimiter, afterBoundary?_append]
    decide
  rw [judge, if_neg (valid.fits (by decide)), crlf, notBare, delimits,
    Bool.and_false]
  rfl

private theorem judge_closing (valid : IsBoundary boundary)
    (crlf : state.bare = false) :
    judge boundary state (dashes boundary ++ utf8 "--\r\n") = .closes := by
  have noDelimiter : ∀ bare, isDelimiter boundary bare
      (dashes boundary ++ utf8 "--\r\n") = false := by
    intro bare
    rw [isDelimiter, afterBoundary?_append]
    cases bare <;> decide
  have last :
      isLast boundary false (dashes boundary ++ utf8 "--\r\n") = true := by
    have whole : dashes boundary ++ utf8 "--\r\n" =
        dashes (boundary ++ utf8 "--") ++ utf8 "\r\n" := by
      simp only [dashes, List.append_assoc]
      rfl
    rw [isLast, whole, afterBoundary?_append]
    decide
  rw [judge, if_neg (valid.fits (by decide)), crlf, noDelimiter, noDelimiter,
    last, Bool.and_false]
  rfl

private theorem judge_lineEnd (boundary : Bytes) :
    judge boundary ⟨true, false, false⟩ (utf8 "\r\n") =
      .skipped ⟨true, false, true⟩ := by
  have noDelimiter : isDelimiter boundary false (utf8 "\r\n") = false := rfl
  have notLast : isLast boundary false (utf8 "\r\n") = false := rfl
  rw [judge, if_neg (by decide), noDelimiter, notLast]
  rfl

theorem seek_line {line : Bytes} (solid : (0x0a : UInt8) ∉ line) :
    seek boundary cut state (line ++ (utf8 "\r\n" ++ rest)) =
      match judge boundary state (line ++ utf8 "\r\n") with
      | .opens bare => .ok (some (bare, rest))
      | .closes => .ok none
      | .skipped next => seek boundary cut next rest
      | .broken fault => .error fault := by
  have solid' : (0x0a : UInt8) ∉ line ++ [0x0d] :=
    List.not_mem_append solid (by decide)
  have found : seek boundary cut state ((line ++ [0x0d]) ++ 0x0a :: rest) = _ :=
    seek_of_line solid'
  rw [List.append_assoc, List.append_assoc] at found
  exact found

theorem seek_delimiter (valid : IsBoundary boundary)
    (crlf : state.bare = false) :
    seek boundary cut state (dashes boundary ++ (utf8 "\r\n" ++ rest)) =
      .ok (some (false, rest)) := by
  rw [seek_line valid.solid, judge_delimiter valid crlf]

private theorem seek_closing (valid : IsBoundary boundary)
    (crlf : state.bare = false) :
    seek boundary cut state (dashes boundary ++ utf8 "--\r\n") = .ok none := by
  have closing : dashes boundary ++ utf8 "--\r\n" =
      (dashes boundary ++ utf8 "--") ++ (utf8 "\r\n" ++ []) := by
    rw [List.append_assoc]
    rfl
  have judged := judge_closing valid crlf
  rw [closing, List.append_nil] at judged
  rw [closing, seek_line (List.not_mem_append valid.solid (by decide)), judged]

private theorem seek_lineEnd (boundary : Bytes) (cut : Bool) (rest : Bytes) :
    seek boundary cut ⟨true, false, false⟩ (utf8 "\r\n" ++ rest) =
      seek boundary cut ⟨true, false, true⟩ rest := by
  have found : seek boundary cut ⟨true, false, false⟩
      ([] ++ (utf8 "\r\n" ++ rest)) = _ :=
    seek_line List.not_mem_nil
  rw [List.nil_append, List.nil_append, judge_lineEnd] at found
  exact found

theorem write_cons (boundary : Bytes) (part : Part) (all : List Part) :
    write boundary (part :: all) = dashes boundary ++ (utf8 "\r\n" ++
      (writeHeaders part.headers ++
        (utf8 "\r\n" ++
          (part.data ++ (utf8 "\r\n" ++ write boundary all))))) := by
  simp only [write, List.map_cons, List.flatten_cons, List.append_assoc]

private theorem exists_write_eq (boundary : Bytes) (all : List Part) :
    ∃ rest, write boundary all = dashes boundary ++ rest ∧
      endsBoundary rest = true := by
  cases all with
  | nil => exact ⟨utf8 "--\r\n", rfl, by decide⟩
  | cons part all => exact ⟨_, write_cons boundary part all, rfl⟩

private theorem deliver_eq (valid : IsBoundary boundary)
    (free : IsFree boundary part.data) :
    deliver boundary false (part.data ++ (utf8 "\r\n" ++ write boundary all)) =
      ⟨part.data, some (utf8 "\r\n" ++ write boundary all)⟩ := by
  obtain ⟨rest, written, ends⟩ := exists_write_eq boundary all
  have solid : (0x0d : UInt8) ∉ boundary := valid.not_mem (by decide)
  rw [deliver, written, split?_eq solid free ends]

end Text

end Multipart

namespace Form

open Multipart

variable {boundary : Bytes} {state : Seeking} {part : Part} {all : List Part}
  {cut : Bool} {left : Nat} {a : Allowance}

private theorem ofParts_congr {next : Seeking} {s t : Bytes}
    (same : seek boundary cut state s = seek boundary cut next t) :
    ofParts boundary cut left a state s =
      ofParts boundary cut left a next t := by
  rw [ofParts.eq_def, ofParts.eq_def boundary cut left a next t]
  simp only [same]

theorem ofParts_nil (valid : IsBoundary boundary) (crlf : state.bare = false) :
    ofParts boundary cut left a state (write boundary []) = .ok {} := by
  have closing : write boundary [] = dashes boundary ++ utf8 "--\r\n" := rfl
  rw [ofParts.eq_def, closing]
  simp only [seek_closing valid crlf]

/-- What a part contributes, and how reading goes on behind it. -/
theorem ofParts_cons (valid : IsBoundary boundary)
    (readable : IsReadable boundary part) (crlf : state.bare = false) :
    ofParts boundary cut (left + 1) a state (write boundary (part :: all)) =
      if Overdrawn a part.headers.reverse then .error tooLarge
      else
        match label? part.headers with
        | none =>
            ofParts boundary cut left a ⟨true, false, true⟩ (write boundary all)
        | some label =>
            takePart cut a part.headers label
                ⟨part.data, some (utf8 "\r\n" ++ write boundary all)⟩ >>=
              fun (taken, a) =>
                ofParts boundary cut left a ⟨true, false, true⟩
                  (write boundary all) >>= fun others =>
                    .ok (taken ++ others) := by
  obtain ⟨headed, plain, distinct, free⟩ := readable
  have goesOn (a : Allowance) :
      ofParts boundary cut left a ⟨true, false, false⟩
          (utf8 "\r\n" ++ write boundary all) =
        ofParts boundary cut left a ⟨true, false, true⟩ (write boundary all) :=
    ofParts_congr (seek_lineEnd boundary cut (write boundary all))
  rw [ofParts.eq_def, write_cons]
  simp only [seek_delimiter valid crlf,
    header_writeHeaders plain distinct headed]
  by_cases overdrawn : Overdrawn a part.headers.reverse
  · rw [if_pos overdrawn, if_pos overdrawn]
    rfl
  · rw [if_neg overdrawn, if_neg overdrawn]
    simp only [deliver_eq valid free]
    cases label? part.headers with
    | none => exact goesOn a
    | some label =>
        simp only [Option.getD_some, goesOn]
        cases takePart cut a part.headers label
          ⟨part.data, some (utf8 "\r\n" ++ write boundary all)⟩ <;> rfl

theorem ofParts_zero (valid : IsBoundary boundary)
    (readable : IsReadable boundary part) (crlf : state.bare = false) :
    ofParts boundary cut 0 a state (write boundary (part :: all)) =
      .error tooLarge := by
  obtain ⟨headed, plain, distinct, -⟩ := readable
  rw [ofParts.eq_def, write_cons]
  simp only [seek_delimiter valid crlf,
    header_writeHeaders plain distinct headed]
  by_cases overdrawn : Overdrawn a part.headers.reverse
  · rw [if_pos overdrawn]
    rfl
  · rw [if_neg overdrawn]

end Form

end ModelGateway
