import ModelGateway.Proofs.Unicode
import ModelGateway.Proofs.WrittenParts

/-!
Forms as clients send them: items between delimiters, each presented by a
disposition. A form that is written this way is read as it was meant, so that an
image reaches the service with its bytes, its file name and the prompt beside
it.
-/

namespace ModelGateway

namespace Utf8

private theorem bytes_pieces (s : Bytes) :
    (pieces s).flatMap Piece.bytes = s := by
  induction s using induction_on_pieces with
  | nil => rfl
  | scalar c rest induction =>
      rw [pieces_encode, List.flatMap_cons, induction]
      rfl
  | stray b rest broken induction =>
      rw [broken, List.flatMap_cons, induction]
      rfl

end Utf8

namespace Bytes

variable {b : UInt8} {s : Bytes}

def IsSolid (b : UInt8) : Prop :=
  b.toNat < 0x80 ∧ Text.isBlank b.toNat = false

instance : Decidable (IsSolid b) :=
  inferInstanceAs (Decidable (_ ∧ _))

theorem trimStart_of_solid (solid : IsSolid b) :
    trimStart (b :: s) = b :: s := by
  have whole := Utf8.bytes_pieces (b :: s)
  rw [Utf8.pieces_one solid.1] at whole
  rw [trimStart, Utf8.pieces_one solid.1, List.dropWhile_cons_of_neg]
  · exact whole
  · rw [Utf8.Piece.code, solid.2]
    exact Bool.false_ne_true

theorem trimStart_append {t : Bytes}
    (start : ∃ b, s.head? = some b ∧ IsSolid b) :
    trimStart (s ++ t) = s ++ t := by
  obtain ⟨b, first, solid⟩ := start
  cases s with
  | nil => cases first
  | cons c s =>
      cases first
      exact trimStart_of_solid solid

private theorem trimStart_space (s : Bytes) :
    trimStart (0x20 :: s) = trimStart s := by
  rw [trimStart, Utf8.pieces_one (by decide),
    List.dropWhile_cons_of_pos (by decide)]
  rfl

private theorem isEmpty_trim (solid : IsSolid b) :
    (trim (b :: s)).isEmpty = false := by
  have first : Text.isBlank (Utf8.Piece.scalar b.toNat).code = false := solid.2
  -- Blanks at the end are dropped up to the first character at most.
  have kept : ∀ pieces : List Utf8.Piece, ∃ more,
      ((Utf8.Piece.scalar b.toNat :: pieces).reverse.dropWhile fun piece =>
        Text.isBlank piece.code).reverse =
        .scalar b.toNat :: more := by
    intro pieces
    rw [List.reverse_cons, List.dropWhile_append]
    split
    · refine ⟨[], ?_⟩
      rw [List.dropWhile_cons_of_neg (by rw [first]; exact Bool.false_ne_true)]
      rfl
    · exact ⟨_, List.reverse_concat⟩
  obtain ⟨more, trimmed⟩ := kept (Utf8.pieces s)
  rw [trim, Utf8.pieces_one solid.1,
    List.dropWhile_cons_of_neg (by rw [first]; exact Bool.false_ne_true),
    trimmed, List.flatMap_cons, List.isEmpty_eq_false_iff]
  intro empty
  exact Utf8.encode_ne_nil _ (List.append_eq_nil_iff.1 empty).1

end Bytes

namespace MediaType

def quote (s : Bytes) : Bytes :=
  0x22 :: s.flatMap (fun b => if b = 0x22 ∨ b = 0x5c then [0x5c, b] else [b]) ++
    [0x22]

/-- A form of a value from which the value is read, up to the next parameter. -/
structure IsForm (value form : Bytes) : Prop where
  start : ∃ b, form.head? = some b ∧ Bytes.IsSolid b
  read : ∀ rest, (∀ b, rest.head? = some b → b = 0x3b) →
    value? (form ++ rest) = some (value, rest)

structure Parameter where
  name : Bytes
  value : Bytes
  form : Bytes

namespace Parameter

def text (p : Parameter) : Bytes :=
  utf8 "; " ++ (p.name ++ (utf8 "=" ++ p.form))

structure IsPlain (p : Parameter) : Prop where
  named : p.name ≠ []
  token : ∀ b ∈ p.name, isTokenByte b = true
  lower : Bytes.lower p.name = p.name
  form : IsForm p.value p.form

end Parameter

variable {s value form rest : Bytes} {p : Parameter} {ps : List Parameter}
    {most : Nat}

theorem Parameter.isPlain_mk {name : Bytes}
    (named : name ≠ [])
    (token : ∀ b ∈ name, isTokenByte b = true)
    (lower : Bytes.lower name = name)
    (isForm : IsForm value form) :
    IsPlain ⟨name, value, form⟩ :=
  ⟨named, token, lower, isForm⟩

private theorem quoted?_special {b : UInt8} {read : Bytes}
    (special : isSpecial b = true) :
    quoted? read (0x5c :: b :: s) = quoted? (b :: read) s := by
  rw [quoted?, special]
  · rfl
  · decide

private theorem quoted?_plain {b : UInt8} {read : Bytes}
    (noQuote : b ≠ 0x22) (noMark : b ≠ 0x5c)
    (inLine : b ≠ 0x0d ∧ b ≠ 0x0a) (more : s ≠ []) :
    quoted? read (b :: s) = quoted? (b :: read) s := by
  obtain ⟨c, s, rfl⟩ := List.exists_cons_of_ne_nil more
  rw [quoted?]
  · simp [noMark, inLine]
  · exact noQuote

private theorem quoted?_escape (inLine : ∀ b ∈ s, b ≠ 0x0d ∧ b ≠ 0x0a)
    (read : Bytes) :
    quoted? read (s.flatMap (fun b => if b = 0x22 ∨
      b = 0x5c then [0x5c, b] else [b]) ++ 0x22 :: rest) =
      some (read.reverse ++ s, rest) := by
  induction s generalizing read with
  | nil =>
      rw [List.flatMap_nil, List.nil_append, List.append_nil]
      rfl
  | cons b s induction =>
      have later :=
        induction (fun c member => inLine c (List.mem_cons_of_mem b member))
          (b :: read)
      rw [List.reverse_cons, List.append_assoc] at later
      rw [List.flatMap_cons, List.append_assoc]
      by_cases marked : b = 0x22 ∨ b = 0x5c
      · have special : isSpecial b = true := by
          rcases marked with rfl | rfl <;> decide
        rw [if_pos marked]
        exact (quoted?_special special).trans later
      · obtain ⟨noQuote, noMark⟩ := not_or.1 marked
        rw [if_neg marked]
        exact (quoted?_plain noQuote noMark (inLine b List.mem_cons_self)
          (List.append_ne_nil_of_right_ne_nil _ (List.cons_ne_nil _ _))).trans
            later

theorem isForm_quote (inLine : ∀ b ∈ s, b ≠ 0x0d ∧ b ≠ 0x0a) :
    IsForm s (quote s) := by
  refine ⟨⟨0x22, rfl, by decide⟩, ?_⟩
  intro rest _
  rw [quote, List.append_assoc]
  exact quoted?_escape inLine []

private theorem isSolid_of_isTokenByte {b : UInt8}
    (token : isTokenByte b = true) : Bytes.IsSolid b := by
  simp only [isTokenByte, Bool.and_eq_true, decide_eq_true_eq,
    UInt8.lt_iff_toNat_lt] at token
  obtain ⟨⟨above, below⟩, -⟩ := token
  change 0x20 < b.toNat at above
  change b.toNat < 0x7f at below
  refine ⟨by omega, ?_⟩
  simp only [Text.isBlank, Bool.or_eq_false_iff, Bool.and_eq_false_iff,
    decide_eq_false_iff_not, beq_eq_false_iff_ne]
  omega

theorem head?_token (nonempty : s ≠ [])
    (token : ∀ b ∈ s, isTokenByte b = true) :
    ∃ b, s.head? = some b ∧ Bytes.IsSolid b := by
  obtain ⟨b, s, rfl⟩ := List.exists_cons_of_ne_nil nonempty
  exact ⟨b, rfl, isSolid_of_isTokenByte (token b List.mem_cons_self)⟩

theorem token_append (all : ∀ b ∈ s, isTokenByte b = true)
    (stop : ∀ b, rest.head? = some b → isTokenByte b = false) :
    token (s ++ rest) = (s, rest) := by
  have taken := Bytes.takeWhile_append_of_stop all stop
  have whole : (s ++ rest).takeWhile isTokenByte ++
      (s ++ rest).dropWhile isTokenByte = s ++ rest :=
    List.takeWhile_append_dropWhile
  rw [taken] at whole
  rw [token, List.span_eq_takeWhile_dropWhile, taken,
    List.append_cancel_left whole]

private theorem isForm_token (nonempty : s ≠ [])
    (all : ∀ b ∈ s, isTokenByte b = true) : IsForm s s := by
  refine ⟨head?_token nonempty all, ?_⟩
  intro rest stop
  have read : token (s ++ rest) = (s, rest) := by
    apply token_append all
    intro b first
    rw [stop b first]
    decide
  have unquoted : ∀ t, s ++ rest ≠ 0x22 :: t := by
    intro t whole
    obtain ⟨b, s, rfl⟩ := List.exists_cons_of_ne_nil nonempty
    cases whole
    cases (all 0x22 List.mem_cons_self).symm.trans
      (by decide : isTokenByte 0x22 = false)
  have filled : s.isEmpty = false := List.isEmpty_eq_false_iff.2 nonempty
  rw [value?]
  · simp only [read, filled]
    rfl
  · exact unquoted

theorem afterMark?_cons {mark : UInt8} (solid : Bytes.IsSolid mark) :
    afterMark? mark (mark :: s) = some (Bytes.trimStart s) := by
  rw [afterMark?, Bytes.trimStart_of_solid solid]
  simp

private theorem parameter?_text (plain : p.IsPlain)
    (stop : ∀ b, rest.head? = some b → b = 0x3b) :
    parameter? (p.text ++ rest) = some ((p.name, p.value), rest) := by
  have whole : p.text ++ rest = 0x3b :: 0x20 ::
      (p.name ++ (0x3d :: (p.form ++ rest))) := by
    simp only [Parameter.text, List.append_assoc]
    rfl
  have opened : afterMark? 0x3b (p.text ++ rest) =
      some (p.name ++ (0x3d :: (p.form ++ rest))) := by
    rw [whole, afterMark?_cons (by decide), Bytes.trimStart_space,
      Bytes.trimStart_append (head?_token plain.named plain.token)]
  have named : token (p.name ++ (0x3d :: (p.form ++ rest))) =
      (p.name, 0x3d :: (p.form ++ rest)) := by
    apply token_append plain.token
    intro b first
    cases first
    decide
  have filled : p.name.isEmpty = false :=
    List.isEmpty_eq_false_iff.2 plain.named
  have assigned :
      afterMark? 0x3d (0x3d :: (p.form ++ rest)) = some (p.form ++ rest) := by
    rw [afterMark?_cons (by decide), Bytes.trimStart_append plain.form.start]
  simp only [parameter?, opened, Option.bind_eq_bind, Option.bind_some, named,
    filled, assigned, plain.form.read rest stop, plain.lower]
  rfl

theorem head?_flatMap_text {b : UInt8}
    (first : (ps.flatMap Parameter.text).head? = some b) : b = 0x3b := by
  cases ps with
  | nil => cases first
  | cons p ps =>
      rw [List.flatMap_cons, Parameter.text] at first
      cases first
      rfl

private theorem parameters?_text (plain : ∀ p ∈ ps, p.IsPlain)
    (enough : ps.length ≤ most) :
    parameters? most (ps.flatMap Parameter.text) =
      some (ps.map fun p => (p.name, p.value)) := by
  induction ps generalizing most with
  | nil => cases most <;> rfl
  | cons p ps induction =>
      obtain ⟨most, rfl⟩ :=
        Nat.exists_eq_succ_of_ne_zero (Nat.ne_of_gt (Nat.zero_lt_of_lt enough))
      have others :=
        induction (fun q member => plain q (List.mem_cons_of_mem p member))
        (Nat.le_of_succ_le_succ enough)
      have visible :
          (Bytes.trim (p.text ++ ps.flatMap Parameter.text)).isEmpty = false :=
        Bytes.isEmpty_trim (by decide)
      rw [List.flatMap_cons, Nat.succ_eq_add_one, parameters?, visible,
        parameter?_text (plain p List.mem_cons_self) fun b first =>
          head?_flatMap_text first]
      simp only [others]
      rfl

private theorem agree_of_nodup {parameters : List (Bytes × Bytes)}
    (distinct : (parameters.map Prod.fst).Nodup) :
    agree parameters = true := by
  induction parameters with
  | nil => rfl
  | cons p parameters induction =>
      obtain ⟨fresh, distinct⟩ := List.nodup_cons.1 distinct
      rw [agree, induction distinct, Bool.and_true, List.all_eq_true]
      intro q member
      have differs : q.1 ≠ p.1 := by
        intro equal
        exact fresh (equal ▸ List.mem_map_of_mem member)
      change (q.1 != p.1 || q.2 == p.2) = true
      rw [bne_iff_ne.2 differs, Bool.true_or]

theorem read?_text {name : Bytes}
    (isName : isName name = true)
    (usual : (Bytes.lowerText name).trim = name)
    (single : (0x3b : UInt8) ∉ name)
    (plain : ∀ p ∈ ps, p.IsPlain)
    (distinct : (ps.map Parameter.name).Nodup) :
    read? (name ++ ps.flatMap Parameter.text) =
      some ⟨name, ps.map fun p => (p.name, p.value)⟩ := by
  have start :
      (name ++ ps.flatMap Parameter.text).takeWhile (· != 0x3b) = name := by
    apply Bytes.takeWhile_append_of_stop (Multipart.bne_of_not_mem single)
    intro b first
    rw [head?_flatMap_text first]
    rfl
  have enough : ps.length ≤ (name ++ ps.flatMap Parameter.text).length := by
    have fewer : ps.length ≤ (ps.flatMap Parameter.text).length := by
      apply Bytes.length_le_flatMap
      intro p
      exact List.cons_ne_nil _ _
    rw [List.length_append]
    omega
  have agreed : agree (ps.map fun p => (p.name, p.value)) = true := by
    apply agree_of_nodup
    rw [List.map_map]
    exact distinct
  rw [read?, start]
  simp only [usual, isName, List.drop_left,
    parameters?_text plain enough, agreed]
  rfl

end MediaType

theorem inLine_of_all {s : Bytes} (allowed : s.all Headers.isValueByte = true) :
    ∀ b ∈ s, b ≠ 0x0d ∧ b ≠ 0x0a := by
  have other : ∀ c, Headers.isValueByte c = false → ∀ b ∈ s, b ≠ c := by
    intro c refused b member equal
    subst equal
    cases (List.all_eq_true.1 allowed b member).symm.trans refused
  intro b member
  exact ⟨other 0x0d (by decide) b member, other 0x0a (by decide) b member⟩

theorem MediaType.all_quote {s : Bytes}
    (allowed : s.all Headers.isValueByte = true) :
    (quote s).all Headers.isValueByte = true := by
  have escaped : (s.flatMap fun b => if b = 0x22 ∨
      b = 0x5c then [0x5c, b] else [b]).all Headers.isValueByte = true := by
    rw [List.all_flatMap, List.all_eq_true]
    intro b member
    have own := List.all_eq_true.1 allowed b member
    split_ifs
    · rw [List.all_cons, List.all_cons, own]
      rfl
    · rw [List.all_cons, own]
      rfl
  rw [quote, List.cons_append, List.all_cons, List.all_append, escaped]
  rfl

/-- What a client puts into a form. -/
inductive FormItem where
  | value (name data : Bytes)
  | file (name filename type data : Bytes)
  deriving DecidableEq

namespace FormItem

open MediaType in
def part : FormItem → Part
  | .value name data =>
      ⟨[("Content-Disposition", utf8 "form-data; name=" ++ quote name)], data⟩
  | .file name filename type data =>
      ⟨[("Content-Disposition", utf8 "form-data; name=" ++ quote name ++
        (utf8 "; filename=" ++ quote filename)), ("Content-Type", type)], data⟩

def name : FormItem → Bytes
  | .value name _ => name
  | .file name _ _ _ => name

def data : FormItem → Bytes
  | .value _ data => data
  | .file _ _ _ data => data

def IsWritable : FormItem → Prop
  | .value name _ => name.all Headers.isValueByte = true
  | .file name filename type _ =>
      name.all Headers.isValueByte = true ∧
        filename.all Headers.isValueByte = true ∧
      Headers.IsPlain ("Content-Type", type)

def parameters : FormItem → List (Bytes × Bytes)
  | .value name _ => [("name", name)]
  | .file name filename _ _ => [("name", name), ("filename", filename)]

def filename? : FormItem → Option Bytes
  | .value _ _ => none
  | .file _ filename _ _ =>
      if filename = [] then none else some (Path.base filename)

def asValue? (item : FormItem) : Option (Bytes × Bytes) :=
  if item.name ≠ [] ∧ item.filename? = none then some (item.name, item.data)
  else none

def asFile? (item : FormItem) : Option (Bytes × Upload) :=
  if item.name = [] then none else item.filename?.map fun filename =>
    (item.name, ⟨filename, item.data⟩)

variable {item : FormItem} {boundary : Bytes} {items : List FormItem}

theorem isPlain_disposition {text : Bytes}
    (start : text.head? = some 0x66)
    (ending : text.getLast? = some 0x22)
    (allowed : text.all Headers.isValueByte = true) :
    Headers.IsPlain ("Content-Disposition", text) where
  named := List.cons_ne_nil _ _
  name := by
    change ∀ b ∈ utf8 "Content-Disposition", Headers.isNameByte b = true
    decide +kernel
  usual := by
    change Headers.capitalize true (utf8 "Content-Disposition") =
      utf8 "Content-Disposition"
    decide
  value := allowed
  start := ⟨0x66, start, by decide⟩
  ending := ⟨0x22, ending, by decide⟩

theorem getLast?_append_quote (text name : Bytes) :
    (text ++ MediaType.quote name).getLast? = some 0x22 := by
  rw [MediaType.quote, ← List.append_assoc]
  exact List.getLast?_concat

private theorem isReadable_part (writable : item.IsWritable)
    (free : Multipart.IsFree boundary item.data) :
    Multipart.IsReadable boundary item.part := by
  cases item with
  | value name data =>
      refine ⟨List.cons_ne_nil _ _, ?_, List.pairwise_singleton _ _, free⟩
      intro field member
      rw [List.mem_singleton.1 member]
      apply isPlain_disposition rfl (getLast?_append_quote _ name)
      rw [List.all_append, MediaType.all_quote writable]
      decide
  | file name filename type data =>
      obtain ⟨allowed, allowed', typed⟩ := writable
      have distinct : utf8 "Content-Disposition" ≠ utf8 "Content-Type" := by
        decide
      refine ⟨List.cons_ne_nil _ _, ?_, List.pairwise_pair.2 distinct, free⟩
      intro field member
      rcases List.mem_cons.1 member with rfl | member
      · apply isPlain_disposition rfl
        · rw [← List.append_assoc]
          exact getLast?_append_quote _ filename
        · rw [List.all_append, List.all_append, List.all_append,
            MediaType.all_quote allowed, MediaType.all_quote allowed']
          decide
      · rw [List.mem_singleton.1 member]
        exact typed

open MediaType in
theorem disposition?_text {headers : Headers} {ps : List Parameter}
    (held : headers.get "Content-Disposition" =
      utf8 "form-data" ++ ps.flatMap Parameter.text)
    (plain : ∀ p ∈ ps, p.IsPlain)
    (distinct : (ps.map Parameter.name).Nodup) :
    Form.disposition? headers =
      some ⟨"form-data", ps.map fun p => (p.name, p.value)⟩ := by
  rw [Form.disposition?, held, read?_text (by decide) (by decide) (by decide)
    plain distinct]
  rfl

open MediaType in
theorem disposition?_part (writable : item.IsWritable) :
    Form.disposition? item.part.headers =
      some ⟨"form-data", item.parameters⟩ := by
  have isName : ∀ name : Bytes, name.all Headers.isValueByte = true →
      Parameter.IsPlain ⟨"name", name, quote name⟩ := by
    intro name allowed
    exact Parameter.isPlain_mk (by decide) (by decide +kernel) (by decide)
      (isForm_quote (inLine_of_all allowed))
  cases item with
  | value name data =>
      have plain :
          ∀ p ∈ [Parameter.mk "name" name (quote name)], p.IsPlain := by
        intro p member
        rw [List.mem_singleton.1 member]
        exact isName name writable
      apply disposition?_text _ plain (by decide : [utf8 "name"].Nodup)
      rw [List.flatMap_singleton]
      rfl
  | file name filename type data =>
      obtain ⟨allowed, allowed', -⟩ := writable
      have plain :
          ∀ p ∈ [Parameter.mk "name" name (quote name),
              ⟨"filename", filename, quote filename⟩],
            p.IsPlain := by
        intro p member
        rcases List.mem_cons.1 member with rfl | member
        · exact isName name allowed
        · rw [List.mem_singleton.1 member]
          exact Parameter.isPlain_mk (by decide) (by decide +kernel) (by decide)
            (isForm_quote (inLine_of_all allowed'))
      apply disposition?_text _ plain
        (by decide : [utf8 "name", utf8 "filename"].Nodup)
      rw [List.flatMap_cons, List.flatMap_singleton]
      rfl

private theorem nameOf?_part (writable : item.IsWritable) :
    Form.nameOf? item.part.headers = if item.name = [] then
      none else some item.name := by
  have found : MediaType.get? "name" ⟨"form-data", item.parameters⟩ =
      some item.name := by
    cases item <;> rfl
  rw [Form.nameOf?, disposition?_part writable, Option.bind_some, found]
  by_cases unnamed : item.name = [] <;> simp [unnamed]

private theorem filenameOf?_part (writable : item.IsWritable) :
    Form.filenameOf? item.part.headers = item.filename? := by
  rw [Form.filenameOf?, disposition?_part writable]
  cases item with
  | value name data => rfl
  | file name filename type data =>
      change Option.map _ (Option.filter _ (some filename)) = _
      by_cases empty : filename = [] <;> simp [filename?, empty]

private theorem label?_part (writable : item.IsWritable) :
    Form.label? item.part.headers =
      if item.name = [] then none else some ⟨item.name, item.filename?⟩ := by
  rw [Form.label?, nameOf?_part writable, filenameOf?_part writable]
  split <;> rfl

private theorem content_part (item : FormItem) (cut : Bool) (rest : Bytes) :
    Form.content cut item.part.headers ⟨item.data, some rest⟩ =
      (item.data, none) := by
  cases item <;> rfl

theorem remaining_part (item : FormItem) :
    Form.remaining item.part.headers = item.part.headers := by
  cases item <;> rfl

/-- The memory that the header of an item needs while it is read. -/
def headerCost (item : FormItem) : Nat :=
  400 + item.part.headers.weight

def contentCost (item : FormItem) : Nat :=
  if item.name = [] then 0
  else
    match item.filename? with
    | none => Form.nameCost item.name + item.data.length
    | some _ => Form.nameCost item.name + (item.headerCost + 300)

def isFile (item : FormItem) : Bool :=
  item.name ≠ [] && item.filename?.isSome

/-- The data of a file is kept in memory if `files` more bytes may be. -/
def kept (files : Nat) (item : FormItem) : Nat :=
  if item.isFile ∧ item.data.length ≤ files then item.data.length else 0

def charge (a : Multipart.Allowance) (item : FormItem) :
    Multipart.Allowance where
  fields := a.fields - if item.isFile then item.part.headers.length else 0
  memory := a.memory - item.contentCost - item.kept a.files
  files := a.files - item.kept a.files

/-- Each item finds what it needs when its turn comes. -/
def Affordable : Multipart.Allowance → List FormItem → Prop
  | _, [] => True
  | a, item :: items =>
      item.part.headers.length ≤ a.fields ∧ item.headerCost ≤ a.memory ∧
        item.contentCost ≤ a.memory ∧ Affordable (item.charge a) items

instance decidableAffordable :
    (a : Multipart.Allowance) → (items : List FormItem) →
      Decidable (Affordable a items)
  | _, [] => inferInstanceAs (Decidable True)
  | a, item :: items =>
      have := decidableAffordable (item.charge a) items
      inferInstanceAs (Decidable (_ ∧ _ ∧ _ ∧ _))

def form (item : FormItem) : Form :=
  ⟨item.asValue?.toList, item.asFile?.toList⟩

private theorem weight_reverse_part (item : FormItem) :
    Headers.weight item.part.headers.reverse = item.part.headers.weight := by
  cases item with
  | value => rfl
  | file name filename type data =>
      have distinct :
          (utf8 "Content-Disposition" == utf8 "Content-Type") = false := by
            decide
      have distinct' :
          (utf8 "Content-Type" == utf8 "Content-Disposition") = false := by
            decide
      simp [part, Headers.weight, distinct, distinct']
      omega

theorem overdrawn_iff {a : Multipart.Allowance} :
    ¬ Multipart.Overdrawn a item.part.headers.reverse ↔
      item.part.headers.length ≤ a.fields ∧ item.headerCost ≤ a.memory := by
  rw [Multipart.Overdrawn, Multipart.Allowance.room, weight_reverse_part,
    List.length_reverse, headerCost]
  omega

private theorem takePart_part {a : Multipart.Allowance} {cut : Bool}
    {rest : Bytes} (named : item.name ≠ []) :
    Form.takePart cut a item.part.headers ⟨item.name, item.filename?⟩
        ⟨item.data, some rest⟩ =
      if item.contentCost ≤ a.memory then .ok (item.form, item.charge a)
      else .error Form.tooLarge := by
  simp only [Form.takePart, content_part]
  cases filename : item.filename? with
  | none =>
      have isValue : item.form = { values := [(item.name, item.data)] } := by
        simp [form, asValue?, asFile?, named, filename]
      have charged : item.charge a = { a with
          memory := a.memory - Form.nameCost item.name -
            item.data.length } := by
        simp [charge, isFile, kept, contentCost, named, filename, Int.sub_sub]
      have cost :
          item.contentCost = Form.nameCost item.name + item.data.length := by
        rw [contentCost, if_neg named, filename]
      simp only [Form.takeValue, cost, isValue, charged]
      split_ifs <;> first | rfl | omega
  | some file =>
      have isFile :
          item.form = { files := [(item.name, ⟨file, item.data⟩)] } := by
        simp [form, asValue?, asFile?, named, filename]
      have cost : item.contentCost =
          Form.nameCost item.name + Form.fileCost item.part.headers := by
        rw [contentCost, if_neg named, filename, Form.fileCost, remaining_part]
        rfl
      have kept_eq : item.kept a.files =
          if item.data.length ≤ a.files then item.data.length else 0 := by
        simp [kept, FormItem.isFile, named, filename]
      have charged : item.charge a =
          { fields := a.fields - item.part.headers.length
            memory := a.memory - Form.nameCost item.name -
              Form.fileCost item.part.headers - item.kept a.files
            files := a.files - item.kept a.files } := by
        simp [charge, FormItem.isFile, cost, named, filename, Int.sub_sub]
      simp only [Form.takeFile, cost, isFile, charged, ← kept_eq,
        remaining_part]
      split_ifs <;> first | rfl | omega

private theorem data_part (item : FormItem) : item.part.data = item.data := by
  cases item <;> rfl

def formOf (items : List FormItem) : Form :=
  ⟨items.filterMap asValue?, items.filterMap asFile?⟩

private theorem formOf_cons (item : FormItem) (items : List FormItem) :
    formOf (item :: items) = item.form ++ formOf items := by
  simp only [formOf, form, List.filterMap_cons]
  cases item.asValue? <;> cases item.asFile? <;> rfl

section Unnamed

variable (unnamed : item.name = [])

include unnamed

private theorem contentCost_of_unnamed : item.contentCost = 0 :=
  if_pos unnamed

private theorem charge_of_unnamed (a : Multipart.Allowance) :
    item.charge a = a := by
  simp [charge, isFile, kept, contentCost, unnamed]

private theorem formOf_of_unnamed (items : List FormItem) :
    formOf (item :: items) = formOf items := by
  simp [formOf, asValue?, asFile?, unnamed]

end Unnamed

/-- The items are read as they were meant, if there is room for all of them. -/
theorem ofParts_items {a : Multipart.Allowance} {cut : Bool} {left : Nat}
    {state : Multipart.Seeking} (valid : Multipart.IsBoundary boundary)
    (writable : ∀ item ∈ items, item.IsWritable)
    (free : ∀ item ∈ items, Multipart.IsFree boundary item.data)
    (crlf : state.bare = false) :
    Form.ofParts boundary cut left a state
        (Multipart.write boundary (items.map part)) =
      if items.length ≤ left ∧ Affordable a items then
        .ok (formOf items)
      else .error Form.tooLarge := by
  induction items generalizing left a state with
  | nil =>
      rw [if_pos ⟨Nat.zero_le _, trivial⟩]
      exact Form.ofParts_nil valid crlf
  | cons item items induction =>
      have own := writable item List.mem_cons_self
      have readable := isReadable_part own (free item List.mem_cons_self)
      have others {a : Multipart.Allowance} {left : Nat} :=
        @induction a left ⟨true, false, true⟩
          (fun other member =>
            writable other (List.mem_cons_of_mem item member))
          (fun other member => free other (List.mem_cons_of_mem item member))
            rfl
      -- The limit on parts is met before the part is opened, the limits on its
      -- header before its content.
      cases left with
      | zero =>
          rw [if_neg fun within => Nat.not_succ_le_zero _ within.1]
          exact Form.ofParts_zero valid readable crlf
      | succ left =>
          rw [List.map_cons, Form.ofParts_cons valid readable crlf,
            label?_part own]
          simp only [others, data_part, List.length_cons,
            Nat.add_le_add_iff_right, Affordable]
          by_cases overdrawn : Multipart.Overdrawn a item.part.headers.reverse
          · rw [if_pos overdrawn, if_neg]
            rintro ⟨-, few, light, -⟩
            exact overdrawn_iff.2 ⟨few, light⟩ overdrawn
          · obtain ⟨few, light⟩ := overdrawn_iff.1 overdrawn
            rw [if_neg overdrawn]
            by_cases unnamed : item.name = []
            · have free : (item.contentCost : Int) ≤ a.memory := by
                rw [contentCost_of_unnamed unnamed]
                omega
              simp only [if_pos unnamed, formOf_of_unnamed unnamed,
                charge_of_unnamed unnamed, few, light, free, true_and]
            · simp only [if_neg unnamed, takePart_part unnamed]
              by_cases cheap : (item.contentCost : Int) ≤ a.memory
              · simp only [few, light, cheap, if_true, true_and, formOf_cons]
                by_cases within : items.length ≤ left ∧
                  Affordable (item.charge a) items
                · simp only [bind, Except.bind, if_pos within]
                · simp only [bind, Except.bind, if_neg within]
              · rw [if_neg cheap, if_neg fun within => cheap within.2.2.2.1]
                rfl

end FormItem

structure Submission where
  boundary : Bytes
  items : List FormItem
  valid : Multipart.IsBoundary boundary
  writable : ∀ item ∈ items, item.IsWritable
  free : ∀ item ∈ items, Multipart.IsFree boundary item.data

namespace Submission

def contentType (s : Submission) : Bytes :=
  utf8 "multipart/form-data; boundary=" ++
    if s.boundary.all MediaType.isTokenByte then s.boundary
    else MediaType.quote s.boundary

def body (s : Submission) : Bytes :=
  Multipart.write s.boundary (s.items.map FormItem.part)

open MediaType in
private theorem boundary_contentType (s : Submission) :
    Form.boundary s.contentType = .ok s.boundary := by
  have isForm : IsForm s.boundary (if s.boundary.all isTokenByte then
      s.boundary else quote s.boundary) := by
    split
    next token => exact isForm_token s.valid.nonempty (List.all_eq_true.1 token)
    next =>
      apply isForm_quote
      intro b member
      constructor
      · rintro rfl
        exact s.valid.not_mem (by decide) member
      · rintro rfl
        exact s.valid.not_mem (by decide) member
  have plain : ∀ p ∈ [Parameter.mk "boundary" s.boundary
      (if s.boundary.all isTokenByte then s.boundary else quote s.boundary)],
        p.IsPlain := by
    intro p member
    rw [List.mem_singleton.1 member]
    exact Parameter.isPlain_mk (by decide) (by decide +kernel)
      (by decide) isForm
  have text : s.contentType = utf8 "multipart/form-data" ++
      [Parameter.mk "boundary" s.boundary
      (if s.boundary.all isTokenByte then
        s.boundary else quote s.boundary)].flatMap Parameter.text := by
    rw [List.flatMap_singleton]
    rfl
  have read : read? s.contentType =
      some ⟨utf8 "multipart/form-data", [("boundary", s.boundary)]⟩ := by
    rw [text]
    exact read?_text (by decide) (by decide) (by decide) plain
      (by decide : [utf8 "boundary"].Nodup)
  rw [Form.boundary, read]
  rfl

def Affordable (s : Submission) : Prop :=
  s.items.length ≤ Multipart.maxParts ∧ FormItem.Affordable {} s.items

instance (s : Submission) : Decidable s.Affordable :=
  inferInstanceAs (Decidable (_ ∧ _))

theorem ofBody_eq {s : Submission} {limit : Int} {r : Request}
    (type : r.header "Content-Type" = s.contentType) (body : r.body = s.body)
    (fits : (s.body.length : Int) ≤ limit) :
    Form.ofBody limit r =
      if s.Affordable then
        .ok (FormItem.formOf s.items)
      else .error Form.tooLarge := by
  have within : Incoming.limited limit r.body = ⟨s.body, false⟩ := by
    have short : s.body.length ≤ limit.toNat := by omega
    rw [Incoming.limited, body, List.take_of_length_le short,
      decide_eq_false (Nat.not_lt.2 short)]
  have bounded : s.boundary.isEmpty = false :=
    List.isEmpty_eq_false_iff.2 s.valid.nonempty
  rw [Form.ofBody, type, boundary_contentType, within]
  change Form.ofIncoming s.boundary _ = _
  rw [Form.ofIncoming, bounded]
  exact FormItem.ofParts_items s.valid s.writable s.free rfl

end Submission

private theorem Bytes.cutLast?_of_not_mem {sep : UInt8} {s : Bytes}
    (absent : sep ∉ s) : cutLast? sep s = none := by
  induction s with
  | nil => rfl
  | cons b s induction =>
      obtain ⟨differs, absent⟩ := not_or.1 (mt List.mem_cons.2 absent)
      have other : (b == sep) = false := beq_eq_false_iff_ne.2 (Ne.symm differs)
      rw [cutLast?, induction absent, other]
      rfl

private theorem Path.base_of_flat {name : Bytes}
    (named : name ≠ [])
    (flat : (0x2f : UInt8) ∉ name) : base name = name := by
  have filled : name.isEmpty = false := List.isEmpty_eq_false_iff.2 named
  have kept : Bytes.dropEndWhile isSlash name = name := by
    rw [Bytes.dropEndWhile, Bytes.dropWhile_of_head?, List.reverse_reverse]
    intro b last
    rw [isSlash, beq_eq_false_iff_ne]
    intro slash
    subst slash
    exact flat (List.mem_reverse.1 (List.mem_of_head? last))
  simp only [base, filled, kept, Bytes.cutLast?_of_not_mem flat]
  rfl

theorem lookup_of_unique {α : Type} {key : Bytes} {a : α}
    {entries : List (Bytes × α)} (member : (key, a) ∈ entries)
    (unique : ∀ b, (key, b) ∈ entries → b = a) :
    entries.lookup key = some a := by
  cases found : entries.lookup key with
  | none =>
      have differs := List.lookup_eq_none_iff.1 found _ member
      simp at differs
  | some b =>
      obtain ⟨before, after, whole, -⟩ := List.lookup_eq_some_iff.1 found
      rw [unique b]
      rw [whole]
      exact List.mem_append_right before List.mem_cons_self

namespace FormItem

variable {items others : List FormItem} {image filename type : Bytes}
    {prompt : Option Bytes}

private theorem name_of_asFile? {item : FormItem} {entry : Bytes × Upload}
    (isFile : item.asFile? = some entry) :
    item.name = entry.1 := by
  obtain ⟨-, isFile⟩ := Option.ite_none_left_eq_some.1 isFile
  obtain ⟨filename, -, rfl⟩ := Option.map_eq_some_iff.1 isFile
  rfl

private theorem name_of_asValue? {item : FormItem} {entry : Bytes × Bytes}
    (isValue : item.asValue? = some entry) :
    item.name = entry.1 := by
  obtain ⟨-, equal⟩ := Option.ite_none_right_eq_some.1 isValue
  cases equal
  rfl

/-- An image with its prompt, and items of other names, in any order. -/
structure Arranged (items : List FormItem) (image filename type : Bytes)
    (prompt : Option Bytes) (others : List FormItem) : Prop where
  perm : items.Perm (file "image" filename type image ::
    (prompt.toList.map (value "prompt") ++ others))
  foreign : ∀ item ∈ others, item.name ≠ utf8 "image" ∧
    item.name ≠ utf8 "prompt"

theorem Arranged.mem_iff
    (arranged : Arranged items image filename type prompt others)
    {item : FormItem} :
    item ∈ items ↔ item = file "image" filename type image ∨
      (∃ text, prompt = some text ∧ item = value "prompt" text) ∨
        item ∈ others := by
  rw [arranged.perm.mem_iff, List.mem_cons, List.mem_append, List.mem_map]
  simp only [Option.mem_toList, eq_comm]

private theorem lookup_image
    (arranged : Arranged items image filename type prompt others)
    (named : filename ≠ []) :
    (items.filterMap asFile?).lookup (utf8 "image") =
      some ⟨Path.base filename, image⟩ := by
  have isFile : (file "image" filename type image).asFile? =
      some (utf8 "image", ⟨Path.base filename, image⟩) := by
    rw [asFile?, filename?, if_neg named]
    exact if_neg (by decide : utf8 "image" ≠ [])
  apply lookup_of_unique
  · exact List.mem_filterMap.2 ⟨_, arranged.mem_iff.2 (.inl rfl), isFile⟩
  · intro upload member
    obtain ⟨item, held, found⟩ := List.mem_filterMap.1 member
    rcases arranged.mem_iff.1 held with rfl | ⟨text, -, rfl⟩ | other
    · cases isFile.symm.trans found
      rfl
    · cases found
    · exact absurd (name_of_asFile? found) (arranged.foreign item other).1

private theorem lookup_prompt
    (arranged : Arranged items image filename type prompt others)
    (named : filename ≠ []) :
    (items.filterMap asValue?).lookup (utf8 "prompt") = prompt := by
  have own : ∀ text, (utf8 "prompt", text) ∈ items.filterMap asValue? →
      prompt = some text := by
    intro text member
    obtain ⟨item, held, found⟩ := List.mem_filterMap.1 member
    rcases arranged.mem_iff.1 held with rfl | ⟨sent, sent_eq, rfl⟩ | other
    · have unnamed := (Option.ite_none_right_eq_some.1 found).1.2
      rw [filename?, if_neg named] at unnamed
      cases unnamed
    · cases found
      exact sent_eq
    · exact absurd (name_of_asValue? found) (arranged.foreign item other).2
  cases prompt with
  | none =>
      rw [List.lookup_eq_none_iff]
      intro entry member
      rw [bne_iff_ne]
      intro equal
      cases own entry.2 (equal ▸ member)
  | some text =>
      apply lookup_of_unique
      · exact List.mem_filterMap.2
          ⟨_, arranged.mem_iff.2 (.inr (.inl ⟨text, rfl, rfl⟩)), rfl⟩
      · intro other member
        exact (Option.some.inj (own other member)).symm

end FormItem

namespace Gateway

variable {g : Gateway} {r : Request} {s : Submission}
    {image filename type : Bytes} {prompt : Option Bytes}
  {others : List FormItem}

/-- An image arrives as it was sent, whatever bytes it holds: with its file
name, and with the prompt exactly if one was sent beside it. It arrives if there
is room for the form and the query is sound, and else there is none. -/
theorem upload_arrives_intact (posted : r.method = utf8 "POST")
    (path : r.target.path = utf8 "/analyze")
    (typed : r.header "Content-Type" = s.contentType)
    (body : r.body = s.body)
    (fits : (s.body.length : Int) ≤ g.settings.maxBody)
    (arranged : FormItem.Arranged s.items image filename type prompt others)
    (named : filename ≠ []) (flat : (0x2f : UInt8) ∉ filename) :
    Route.nearby? r.method r.target.path = none ∧
      (∀ metrics a v, g.serve metrics a v r = g.serveAnalysis v r) ∧
      (s.Affordable ∧ Form.queryFault? r = none → ∀ v,
        g.analysisRequest v r = Step.done ⟨some image, filename, prompt⟩ ∧
        g.serveAnalysis v r = g.analysis.check v >>= fun _ =>
          g.analysis.analyze v ⟨some image, filename, prompt⟩ >>= fun text =>
            Step.done (reply 200 (AnalysisService.document text))) ∧
      (¬ (s.Affordable ∧ Form.queryFault? r = none) → ∀ v,
        (g.analysisRequest v r).outcome = .value {}) := by
  have found := Server.found_analysis posted path
  have form_eq := Submission.ofBody_eq typed body fits
  refine ⟨Server.nearby?_eq_none found, ?_, ?_, ?_⟩
  · intro metrics a v
    rw [serve, found]
  · rintro ⟨affordable, sound⟩ v
    rw [if_pos affordable] at form_eq
    have sent : ImageSent g.settings.maxBody r (FormItem.formOf s.items)
        ⟨filename, image⟩ := by
      refine ⟨form_eq, ?_, sound⟩
      have found := FormItem.lookup_image arranged named
      rw [Path.base_of_flat named flat] at found
      exact found
    have request :
        g.analysisRequest v r = Step.done ⟨some image, filename, prompt⟩ := by
      rw [analysisRequest_of_sent sent, Form.value?, FormItem.formOf,
        FormItem.lookup_prompt arranged named]
    refine ⟨request, ?_⟩
    simp only [serveAnalysis, request]
    rfl
  · intro refused v
    apply (gives_analysisRequest_of_none _).outcome_eq
    by_cases affordable : s.Affordable
    · rw [if_pos affordable] at form_eq
      cases faulty : Form.queryFault? r with
      | none => exact absurd ⟨affordable, faulty⟩ refused
      | some fault => exact .unsound form_eq faulty
    · rw [if_neg affordable] at form_eq
      exact .noForm form_eq rfl

def nearMisses : Bytes :=
  "--b c?x\r\n--b c\r\n\r\nContent-Type: text/plain\r\n\r\n--\n--b c?\r\n--b c?-"

def album : Submission where
  boundary := "b c?"
  items :=
    [.value "prompt" [], .file "image" "a-1.v2.PNG" "image/png" nearMisses,
      .file "cover" [] "application/octet-stream" [], .value "\"note\\" "x\r\n"]
  valid := ⟨by decide, by decide, by decide +kernel, by decide⟩
  writable := by
    have plain : Headers.IsPlain ("Content-Type", "image/png") :=
      ⟨by decide, by decide +kernel, by decide, by decide,
        ⟨0x69, rfl, by decide⟩, ⟨0x67, rfl, by decide⟩⟩
    have plain' :
        Headers.IsPlain ("Content-Type", "application/octet-stream") :=
      ⟨by decide, by decide +kernel, by decide, by decide,
        ⟨0x61, rfl, by decide⟩, ⟨0x6d, rfl, by decide⟩⟩
    intro item member
    simp only [List.mem_cons, List.not_mem_nil, or_false] at member
    rcases member with rfl | rfl | rfl | rfl
    · exact (by decide : (utf8 "prompt").all Headers.isValueByte = true)
    · exact ⟨by decide, by decide, plain⟩
    · exact ⟨by decide, by decide, plain'⟩
    · exact (by decide : (utf8 "\"note\\").all Headers.isValueByte = true)
  free := by decide +kernel

def albumUpload (query : Option Bytes) : Request where
  method := "POST"
  target := ⟨"/analyze", "/analyze", query⟩
  headers := [("Content-Type", album.contentType)]
  body := album.body

private theorem arranged_album :
    FormItem.Arranged album.items nearMisses "a-1.v2.PNG" "image/png" (some [])
      [.file "cover" [] "application/octet-stream" [],
        .value "\"note\\" "x\r\n"] :=
  ⟨List.Perm.swap _ _ _, by decide⟩

theorem near_misses_arrive :
    album.Affordable ∧ ∀ v,
      Server.describing.gateway.analysisRequest v (albumUpload none) =
        Step.done ⟨some nearMisses, "a-1.v2.PNG", some []⟩ := by
  have affordable : album.Affordable := by decide +kernel
  obtain ⟨-, -, arrives, -⟩ :=
    upload_arrives_intact (g := Server.describing.gateway)
    (r := albumUpload none) rfl rfl rfl rfl (by decide +kernel)
      arranged_album (by decide)
    (by decide)
  exact ⟨affordable, fun v => (arrives ⟨affordable, by decide⟩ v).1⟩

theorem near_misses_overlooked :
    album.Affordable ∧ ∀ v, (Server.describing.gateway.analysisRequest v
      (albumUpload (some "%zz"))).outcome = .value {} := by
  have affordable : album.Affordable := by decide +kernel
  have form_eq :=
    @Submission.ofBody_eq album 1024 (albumUpload (some "%zz")) rfl
    rfl (by decide +kernel)
  rw [if_pos affordable] at form_eq
  refine ⟨affordable, fun v => ?_⟩
  apply (gives_analysisRequest_of_none _).outcome_eq
  exact .unsound form_eq rfl

end Gateway

end ModelGateway
