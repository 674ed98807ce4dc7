import Mathlib.Data.List.Nodup
import Mathlib.Data.List.Perm.Basic
import ModelGateway.Proofs.Remarks
import ModelGateway.Proofs.Verbatim

/-!
Log lines and what can be read from them. Whatever bytes a request brings into a
record, the record stays one line of the log, and reading the line gives the
fields of the record, each once.
-/

namespace ModelGateway

namespace Bytes

private theorem splitOn_append {sep : UInt8} {line : Bytes}
    (absent : sep ∉ line)
    (s : Bytes) :
    splitOn sep (line ++ sep :: s) = line :: splitOn sep s := by
  induction line with
  | nil => simp [splitOn]
  | cons b line ih =>
      obtain ⟨other, absent⟩ := List.ne_and_not_mem_of_not_mem_cons absent
      have differs : (b == sep) = false := beq_eq_false_iff_ne.2 other.symm
      rw [List.cons_append, splitOn, ih absent, differs]
      rfl

private theorem ofNat_of_lt {n : Nat} (small : n < 10) :
    ofNat n = [0x30 + n.toUInt8] := by
  have all : ∀ digit : Fin 10, ofNat digit = [0x30 + digit.val.toUInt8] := by
    decide +kernel
  exact all ⟨n, small⟩

private theorem ofNat_of_le {n : Nat} (large : 10 ≤ n) :
    ofNat n = ofNat (n / 10) ++ ofNat (n % 10) := by
  have last : n % 10 < 10 := Nat.mod_lt n (by decide)
  rw [ofNat, Nat.toDigits_of_base_le (by decide) large, List.map_append, ofNat,
    ofNat, Nat.toDigits_of_lt_base last]

end Bytes

namespace Document

def IsPositive (s : Bytes) : Prop :=
  ∃ b rest, s = b :: rest ∧ Bytes.isDigit b = true ∧ b ≠ 0x30 ∧ AreDigits rest

theorem isDigit_ofNat_of_lt {n : Nat} (small : n < 10) :
    ∃ b, Bytes.ofNat n = [b] ∧ Bytes.isDigit b = true ∧ (b = 0x30 → n = 0) := by
  have all : ∀ digit : Fin 10, Bytes.isDigit (0x30 + digit.val.toUInt8) = true ∧
      (0x30 + digit.val.toUInt8 = 0x30 → digit.val = 0) := by
    decide
  exact ⟨_, Bytes.ofNat_of_lt small, all ⟨n, small⟩⟩

private theorem isPositive_ofNat {n : Nat} (positive : 0 < n) :
    IsPositive (Bytes.ofNat n) := by
  induction n using Nat.strongRecOn with
  | ind n ih =>
      by_cases small : n < 10
      · obtain ⟨b, written, digit, zero⟩ := isDigit_ofNat_of_lt small
        refine ⟨b, [], written, digit, ?_, areDigits_nil⟩
        intro equal
        exact absurd (zero equal) (Nat.ne_of_gt positive)
      · have large : 10 ≤ n := Nat.not_lt.1 small
        obtain ⟨b, rest, written, digit, nonzero, others⟩ :=
          ih (n / 10) (by omega) (by omega)
        obtain ⟨last, written', digit', -⟩ :=
          isDigit_ofNat_of_lt (Nat.mod_lt n (by decide : 10 > 0))
        refine ⟨b, rest ++ [last], ?_, digit, nonzero, ?_⟩
        · rw [Bytes.ofNat_of_le large, written, written', List.cons_append]
        · exact List.forall_mem_append.2
            ⟨others, List.forall_mem_singleton.2 digit'⟩

theorem isWhole_ofNat (n : Nat) : IsWhole (Bytes.ofNat n) := by
  cases n with
  | zero => exact .zero
  | succ n =>
      obtain ⟨b, rest, written, digit, nonzero, others⟩ :=
        isPositive_ofNat n.succ_pos
      rw [written]
      exact .digits digit nonzero others

theorem isNumber_of_isWhole {sign whole : Bytes}
    (signed : sign = [] ∨ sign = [0x2d])
    (isWhole : IsWhole whole) :
    IsNumber (sign ++ whole) := by
  have number := IsNumber.mk signed isWhole .none .none
  rwa [List.append_nil, List.append_nil] at number

private theorem isNumber_ofInt (n : Int) : IsNumber (Bytes.ofInt n) := by
  cases n with
  | ofNat n => exact isNumber_of_isWhole (.inl rfl) (isWhole_ofNat n)
  | negSucc n => exact isNumber_of_isWhole (.inr rfl) (isWhole_ofNat (n + 1))

def IsClean (s : Bytes) : Prop :=
  ∀ b ∈ s, 0x20 ≤ b

theorem isClean_append {s t : Bytes} :
    IsClean (s ++ t) ↔ IsClean s ∧ IsClean t :=
  List.forall_mem_append

theorem isClean_cons {b : UInt8} {s : Bytes} :
    IsClean (b :: s) ↔ 0x20 ≤ b ∧ IsClean s :=
  List.forall_mem_cons

private theorem isClean_digits {s : Bytes} (digits : AreDigits s) :
    IsClean s := by
  intro b member
  have digit := digits b member
  simp only [Bytes.isDigit, Bool.and_eq_true, decide_eq_true_eq] at digit
  exact UInt8.le_trans (by decide) digit.1

theorem IsWhole.areDigits {s : Bytes} (whole : IsWhole s) : AreDigits s := by
  cases whole with
  | zero => exact areDigits_cons.2 ⟨by decide, areDigits_nil⟩
  | digits digit _ others => exact areDigits_cons.2 ⟨digit, others⟩

theorem isClean_ofNat (n : Nat) : IsClean (Bytes.ofNat n) :=
  isClean_digits (isWhole_ofNat n).areDigits

private theorem isClean_ofInt (n : Int) : IsClean (Bytes.ofInt n) := by
  cases n with
  | ofNat n => exact isClean_ofNat n
  | negSucc n => exact isClean_cons.2 ⟨by decide, isClean_ofNat (n + 1)⟩

private theorem isClean_hex {digits : Bytes}
    (hex : ∀ b ∈ digits, IsHexDigit b) : IsClean digits := by
  intro b member
  have digit := hex b member
  unfold IsHexDigit Bytes.hexValue? Bytes.isDigit at digit
  simp only [Bool.and_eq_true, decide_eq_true_eq, UInt8.le_iff_toNat_le,
    UInt8.toNat_ofNat] at digit ⊢
  split_ifs at digit with number lower upper
  · omega
  · omega
  · omega
  · cases digit

private theorem isClean_shortEscape {b : UInt8}
    (escape : (shortEscape? b).isSome = true) : 0x20 ≤ b := by
  unfold shortEscape? at escape
  simp only [Bool.or_eq_true, beq_iff_eq, ← UInt8.toNat_inj,
    UInt8.le_iff_toNat_le, UInt8.toNat_ofNat] at escape ⊢
  split_ifs at escape with itself back feed line carriage tab
  · omega
  · omega
  · omega
  · omega
  · omega
  · omega
  · cases escape

theorem IsQuoted.isClean {s : Bytes} (quoted : IsQuoted s) : IsClean s := by
  induction quoted with
  | nil => nofun
  | plain noControl _ _ _ ih =>
      exact isClean_cons.2 ⟨UInt8.not_lt.1 noControl, ih⟩
  | short escape _ ih =>
      exact isClean_cons.2
        ⟨by decide, isClean_cons.2 ⟨isClean_shortEscape escape, ih⟩⟩
  | unit _ hex _ ih =>
      exact isClean_cons.2 ⟨by decide,
        isClean_cons.2 ⟨by decide, isClean_append.2 ⟨isClean_hex hex, ih⟩⟩⟩

theorem isClean_writeString (s : Bytes) : IsClean (writeString s) := by
  have inside := (denotes_chars s).isQuoted.isClean
  exact isClean_append.2 ⟨isClean_cons.2 ⟨by decide, inside⟩,
    isClean_cons.2 ⟨by decide, nofun⟩⟩

inductive IsFlat : Document → Prop
  | text (s : Bytes) : IsFlat (.string s)
  | whole (n : Int) : IsFlat (ofInt n)
  | flag (b : Bool) : IsFlat (.bool b)

/-- What can be read of a flat document: of a text, the characters that its
bytes make. -/
def legible : Document → Document
  | .string s => .string (Utf8.sanitize s)
  | d => d

private theorem IsFlat.text_write {d : Document}
    (flat : IsFlat d)
    (depth : Nat) :
    Text depth d.legible d.write := by
  cases flat with
  | text s => exact text_writeString s depth
  | whole n => exact .number (isNumber_ofInt n)
  | flag b =>
      cases b with
      | true => exact .yes
      | false => exact .no

theorem IsFlat.isClean {d : Document} (flat : IsFlat d) : IsClean d.write := by
  cases flat with
  | text s => exact isClean_writeString s
  | whole n => exact isClean_ofInt n
  | flag b =>
      unfold IsClean
      cases b <;> decide +kernel

theorem isClean_writeField {field : Bytes × Document}
    (flat : field.2.IsFlat) : IsClean (writeField field) :=
  isClean_append.2 ⟨isClean_writeString field.1,
    isClean_cons.2 ⟨by decide, flat.isClean⟩⟩

private theorem isClean_writeFieldsEnd {fields : List (Bytes × Document)}
    (flat : ∀ field ∈ fields, field.2.IsFlat) :
    IsClean (writeFieldsEnd fields) := by
  induction fields with
  | nil => exact isClean_cons.2 ⟨by decide, nofun⟩
  | cons field rest ih =>
      obtain ⟨first, others⟩ := List.forall_mem_cons.1 flat
      exact isClean_cons.2
        ⟨by decide, isClean_append.2 ⟨isClean_writeField first, ih others⟩⟩

private theorem isClean_write_object {fields : List (Bytes × Document)}
    (flat : ∀ field ∈ fields, field.2.IsFlat) :
    IsClean (write (.object fields)) := by
  cases fields with
  | nil => exact isClean_cons.2 ⟨by decide, isClean_cons.2 ⟨by decide, nofun⟩⟩
  | cons field rest =>
      obtain ⟨first, others⟩ := List.forall_mem_cons.1 flat
      rw [write, List.cons_append, writeFields_cons]
      exact isClean_cons.2
        ⟨by decide, isClean_append.2 ⟨isClean_writeField first,
          isClean_writeFieldsEnd others⟩⟩

def legibleField (field : Bytes × Document) : Bytes × Document :=
  (Utf8.sanitize field.1, field.2.legible)

private theorem read?_write_flat {fields : List (Bytes × Document)}
    (flat : ∀ field ∈ fields, field.2.IsFlat) :
    read? (write (.object fields)) =
      some (.object (fields.map legibleField)) := by
  apply read?_write_object
  induction fields with
  | nil => exact .nil
  | cons field rest ih =>
      obtain ⟨first, others⟩ := List.forall_mem_cons.1 flat
      exact .cons ⟨rfl, first.text_write _⟩ (ih others)

end Document

namespace Log

def fieldNames : List String :=
  ["request_id", "method", "path", "status_code", "duration_ms", "ip",
    "user_agent", "error", "error_type", "filename", "format", "bytes", "model",
    "has_image", "input_tokens", "output_tokens", "event_type", "route",
    "processing_time_ms"]

theorem fieldNames_apart : ∀ name ∈ fieldNames.map utf8, name ∉ ownNames := by
  decide +kernel

private theorem exists_string_of_mem {name : Bytes}
    (member : name ∈ fieldNames.map utf8 ∨ name ∈ ownNames) :
    ∃ s : String, name = utf8 s := by
  cases member with
  | inl member =>
      obtain ⟨s, -, rfl⟩ := List.mem_map.1 member
      exact ⟨s, rfl⟩
  | inr member =>
      simp only [ownNames, List.mem_cons, List.not_mem_nil, or_false] at member
      rcases member with rfl | rfl | rfl | rfl <;> exact ⟨_, rfl⟩

def AreFrom (table names : List Bytes) : Prop :=
  names.Nodup ∧ ∀ name ∈ names, name ∈ table

instance (table names : List Bytes) : Decidable (AreFrom table names) :=
  inferInstanceAs (Decidable (_ ∧ _))

private theorem foldl_yieldName {names : List Bytes} {entries : Fields Bytes}
    (absent : ∀ name ∈ names, name ∉ Fields.keys entries) :
    names.foldl yieldName entries = entries := by
  induction names with
  | nil => rfl
  | cons name rest ih =>
      obtain ⟨first, others⟩ := List.forall_mem_cons.1 absent
      rw [List.foldl_cons, yieldName, Fields.get?_eq_none first]
      exact ih others

private theorem put_of_absent {entries : Fields Bytes} {name : Bytes}
    (absent : name ∉ Fields.keys entries)
    (value : Document) :
    put entries name value = entries ++ [(name, value)] := by
  have kept : entries.filter (·.1 != name) = entries := by
    rw [List.filter_eq_self]
    intro entry member
    apply bne_iff_ne.2
    intro equal
    exact absent (equal ▸ List.mem_map_of_mem member)
  rw [put, kept]

private theorem foldl_put {entries more : Fields Bytes}
    (distinct : (Fields.keys (entries ++ more)).Nodup) :
    more.foldl (fun entries field => put entries field.1 field.2) entries =
      entries ++ more := by
  induction more generalizing entries with
  | nil => exact (List.append_nil entries).symm
  | cons field rest ih =>
      have absent : field.1 ∉ Fields.keys entries := by
        rw [Fields.keys, List.map_append, List.map_cons] at distinct
        exact fun member => (List.nodup_middle.1 distinct).notMem
          (List.mem_append_left _ member)
      rw [List.append_cons] at distinct ⊢
      rw [List.foldl_cons, put_of_absent absent, ih distinct]

namespace Record

variable {r : Record}

/-- A record whose fields have names of their own and hold nothing deeper than
texts and numbers. -/
structure IsPlain (r : Record) : Prop where
  names : AreFrom (fieldNames.map utf8) (Fields.keys r.fields)
  flat : ∀ field ∈ r.fields, field.2.IsFlat

def own (r : Record) (time : Option Bytes) : List (Bytes × Document) :=
  (time.map (Document.textField "time")).toList ++
    [Document.textField "msg" r.message,
      Document.textField "level" r.level.name]

def said (r : Record) (time : Option Bytes) : List (Bytes × Document) :=
  r.fields ++ r.own time

theorem own_names (r : Record) (time : Option Bytes) :
    AreFrom ownNames (Fields.keys (r.own time)) := by
  cases time with
  | none =>
      have names : AreFrom ownNames ["msg", "level"] := by decide +kernel
      exact names
  | some t =>
      have names : AreFrom ownNames ["time", "msg", "level"] := by
        decide +kernel
      exact names

private theorem own_flat (r : Record) (time : Option Bytes) :
    ∀ field ∈ r.own time, field.2.IsFlat := by
  intro field member
  cases time with
  | none =>
      rcases List.mem_pair.1 member with rfl | rfl <;> exact .text _
  | some t =>
      rcases List.mem_cons.1 member with rfl | member
      · exact .text t
      · rcases List.mem_pair.1 member with rfl | rfl <;> exact .text _

private theorem entries_eq (r : Record) (time : Option Bytes) :
    r.entries time =
      Fields.sorted ((r.own time).foldl
        (fun entries field => put entries field.1 field.2)
        (ownNames.foldl yieldName r.fields)) := by
  cases time <;> rfl

namespace IsPlain

theorem distinct (plain : r.IsPlain) (time : Option Bytes) :
    (Fields.keys (r.said time)).Nodup := by
  rw [said, Fields.keys, List.map_append]
  apply List.Nodup.append plain.names.1 (r.own_names time).1
  intro name member member'
  exact fieldNames_apart name (plain.names.2 name member)
    ((r.own_names time).2 name member')

private theorem flat_said (plain : r.IsPlain) (time : Option Bytes) :
    ∀ field ∈ r.said time, field.2.IsFlat :=
  List.forall_mem_append.2 ⟨plain.flat, r.own_flat time⟩

private theorem entries_perm (plain : r.IsPlain) (time : Option Bytes) :
    (r.entries time).Perm (r.said time) := by
  have absent : ∀ name ∈ ownNames, name ∉ Fields.keys r.fields := by
    intro name member member'
    exact fieldNames_apart name (plain.names.2 name member') member
  rw [entries_eq, foldl_yieldName absent, foldl_put (plain.distinct time)]
  exact List.mergeSort_perm _ _

private theorem legibleField_eq (plain : r.IsPlain)
    {time : Option Bytes} {field : Bytes × Document}
    (member : field ∈ r.said time) :
    Document.legibleField field = (field.1, field.2.legible) := by
  have named : field.1 ∈ fieldNames.map utf8 ∨ field.1 ∈ ownNames := by
    cases List.mem_append.1 member with
    | inl member => exact .inl (plain.names.2 _ (List.mem_map_of_mem member))
    | inr member =>
        exact .inr ((r.own_names time).2 _ (List.mem_map_of_mem member))
  obtain ⟨s, equal⟩ := exists_string_of_mem named
  rw [Document.legibleField, equal, Utf8.sanitize_utf8]

end IsPlain

/-- The line of a record is clean, and reading it gives all that the record
says, each field once. -/
structure IsLegible (r : Record) (time : Option Bytes) : Prop where
  clean : ∀ b ∈ r.line time, 0x20 ≤ b
  read : ∃ fields, Document.read? (r.line time) = some (.object fields) ∧
    (Fields.keys fields).Nodup ∧
    fields.Perm ((r.said time).map fun field => (field.1, field.2.legible))

theorem IsPlain.isLegible (plain : r.IsPlain)
    (time : Option Bytes) : r.IsLegible time := by
  have perm := plain.entries_perm time
  have flat : ∀ field ∈ r.entries time, field.2.IsFlat := by
    intro field member
    exact plain.flat_said time field (perm.mem_iff.1 member)
  have shown : (r.entries time).map Document.legibleField =
      (r.entries time).map fun field => (field.1, field.2.legible) := by
    apply List.map_congr_left
    intro field member
    exact plain.legibleField_eq (perm.mem_iff.1 member)
  constructor
  · exact Document.isClean_write_object flat
  · refine ⟨(r.entries time).map Document.legibleField,
      Document.read?_write_flat flat, ?_, ?_⟩
    · have names : Fields.keys ((r.entries time).map Document.legibleField) =
          Fields.keys (r.entries time) := by
        rw [shown, Fields.keys, List.map_map]
        rfl
      rw [names]
      exact (perm.map Prod.fst).nodup_iff.2 (plain.distinct time)
    · rw [shown]
      exact perm.map _

end Record

section Kinds

open Document

@[simp] theorem isFlat_textField (name value : Bytes) :
    (textField name value).2.IsFlat :=
  .text value

@[simp] theorem isFlat_intField (name : Bytes) (n : Int) :
    (intField name n).2.IsFlat :=
  .whole n

@[simp] theorem isFlat_natField (name : Bytes) (n : Nat) :
    (natField name n).2.IsFlat :=
  .whole n

@[simp] theorem isFlat_boolField (name : Bytes) (b : Bool) :
    (boolField name b).2.IsFlat :=
  .flag b

theorem isPlain_of_names {r : Record} (names : List Bytes)
    (keys_eq : Fields.keys r.fields = names)
    (areNames : AreFrom (fieldNames.map utf8) names)
    (flat : ∀ field ∈ r.fields, field.2.IsFlat) : r.IsPlain :=
  ⟨keys_eq ▸ areNames, flat⟩

private theorem isPlain_callRecord (request : GenerateRequest) (elapsed : Int)
    (usage : Option Usage) :
    (callRecord request elapsed usage).IsPlain := by
  cases usage with
  | none =>
      apply isPlain_of_names ["model", "has_image", "duration_ms"]
        rfl (by decide +kernel)
      simp [callRecord]
  | some u =>
      apply isPlain_of_names ["model", "has_image", "duration_ms",
        "input_tokens", "output_tokens"] rfl
        (by decide +kernel)
      simp [callRecord]

theorem fields_logRecord (e : Event) :
    e.logRecord.fields =
      [textField "event_type" e.kind.name, textField "route" e.route,
        textField "model" e.model,
        intField "processing_time_ms" (Int.tdiv e.elapsed 1000000)] ++
      optionalText "request_id" e.requestId ++
      (if e.errorMessage.isEmpty then []
        else [textField "error" e.errorMessage,
          textField "error_type" e.errorType]) := by
  unfold Event.logRecord
  cases e.kind <;> rfl

private theorem isPlain_logRecord (e : Event) : e.logRecord.IsPlain := by
  constructor
  · rw [fields_logRecord, optionalText]
    split_ifs with unnamed fine fine
    · have names : AreFrom (fieldNames.map utf8)
          ["event_type", "route", "model", "processing_time_ms"] := by
        decide +kernel
      exact names
    · have names : AreFrom (fieldNames.map utf8)
          ["event_type", "route", "model", "processing_time_ms", "error",
            "error_type"] := by
        decide +kernel
      exact names
    · have names : AreFrom (fieldNames.map utf8)
          ["event_type", "route", "model", "processing_time_ms",
            "request_id"] := by
        decide +kernel
      exact names
    · have names : AreFrom (fieldNames.map utf8)
          ["event_type", "route", "model", "processing_time_ms", "request_id",
            "error", "error_type"] := by
        decide +kernel
      exact names
  · rw [fields_logRecord, optionalText]
    split_ifs <;> simp

theorem Logged.isPlain {r : Record} (logged : Logged r) : r.IsPlain := by
  cases logged with
  | access a v request status =>
      apply isPlain_of_names
        ["request_id", "method", "path", "status_code", "duration_ms", "ip",
          "user_agent"] rfl (by decide +kernel)
      simp [Gateway.accessRecord]
  | failure a v request failure =>
      apply isPlain_of_names ["error", "request_id", "status_code", "path",
        "method", "ip"] rfl (by decide +kernel)
      simp [Gateway.failureRecord]
  | noImage v fault =>
      apply isPlain_of_names ["error", "request_id"] rfl (by decide +kernel)
      simp [Gateway.noImageRecord]
  | sending v request decoded =>
      apply isPlain_of_names ["request_id", "filename", "format", "bytes"]
        rfl (by decide +kernel)
      simp [AnalysisService.sendingRecord]
  | call request elapsed usage => exact isPlain_callRecord request elapsed usage
  | event e => exact isPlain_logRecord e

end Kinds

def output (log : List (Record × Option Bytes)) : Bytes :=
  log.flatMap fun entry => entry.1.line entry.2 ++ [0x0a]

private theorem Record.IsLegible.newline_notMem {r : Record}
    {time : Option Bytes} (legible : r.IsLegible time) :
    0x0a ∉ r.line time := by
  intro member
  exact absurd (legible.clean _ member) (by decide)

private theorem splitOn_output {log : List (Record × Option Bytes)}
    (legible : ∀ entry ∈ log, entry.1.IsLegible entry.2) :
    Bytes.splitOn 0x0a (output log) =
      (log.map fun entry => entry.1.line entry.2) ++ [[]] := by
  induction log with
  | nil => rfl
  | cons entry rest ih =>
      obtain ⟨first, others⟩ := List.forall_mem_cons.1 legible
      rw [output, List.flatMap_cons, List.append_assoc]
      change Bytes.splitOn 0x0a (entry.1.line entry.2 ++ 0x0a :: output rest) =
        _
      rw [Bytes.splitOn_append first.newline_notMem, ih others]
      rfl

/-- A log falls into the lines of its records, nothing but the newlines between
them is a control character, and each line is read as its record. The records
that a server writes about requests are such ones. -/
theorem one_line_for_each_record (log : List (Record × Option Bytes))
    (logged : ∀ entry ∈ log, Logged entry.1) :
    Bytes.splitOn 0x0a (output log) =
        (log.map fun entry => entry.1.line entry.2) ++ [[]] ∧
      (∀ entry ∈ log, entry.1.IsLegible entry.2) ∧
      ∀ (s : Server) (a : Arrival) (r : Request), s.gateway.LogsCalls →
        ∀ record ∈ (s.step a r).2.trace.records, Logged record := by
  have legible : ∀ entry ∈ log, entry.1.IsLegible entry.2 := by
    intro entry member
    exact (logged entry member).isPlain.isLegible entry.2
  refine ⟨splitOn_output legible, legible, ?_⟩
  intro s a r logs record member
  exact Server.logged_of_mem_step logs member

def intruder : Request where
  method := "GET"
  target := ⟨utf8 "/\n\x7b\"level\":\"info\"\x7d" ++ [0xff], "/%0A", none⟩

private theorem logsCalls_echoing : Server.echoing.gateway.LogsCalls := by
  intro m generator installed request record member
  cases m <;> cases installed <;> cases member

def intrusion : List (Record × Option Bytes) :=
  (Server.echoing.step ⟨[], [], [], Instant.zero, 0⟩
    intruder).2.trace.records.map (·, some (utf8 "now"))

theorem intruder_leaves_two_lines :
    (∀ entry ∈ intrusion, Logged entry.1) ∧
      (Bytes.splitOn 0x0a (output intrusion)).length = 3 ∧
      ∀ entry ∈ intrusion, entry.1.IsLegible entry.2 ∧
        (utf8 "path", .string (utf8 "/\n\x7b\"level\":\"info\"\x7d\uFFFD")) ∈
          (entry.1.said entry.2).map fun field =>
            (field.1, field.2.legible) := by
  have logged : ∀ entry ∈ intrusion, Logged entry.1 := by
    intro entry member
    obtain ⟨record, written, rfl⟩ := List.mem_map.1 member
    exact (one_line_for_each_record [] nofun).2.2 _ _ _ logsCalls_echoing
      record written
  obtain ⟨lines, legible, -⟩ := one_line_for_each_record intrusion logged
  refine ⟨logged, ?_, ?_⟩
  · rw [lines]
    rfl
  · intro entry member
    refine ⟨legible entry member, ?_⟩
    have shown : Utf8.sanitize intruder.target.path =
        utf8 "/\n\x7b\"level\":\"info\"\x7d\uFFFD" := by
      decide +kernel
    have said : (utf8 "path", Json.string intruder.target.path) ∈
        entry.1.said entry.2 := by
      rcases List.mem_pair.1 member with rfl | rfl
      · exact List.mem_append_left _ (.tail _ (.tail _ (.tail _ (.head _))))
      · exact List.mem_append_left _ (.tail _ (.tail _ (.head _)))
    rw [← shown]
    exact List.mem_map_of_mem said

end Log

end ModelGateway
