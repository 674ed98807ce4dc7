import Mathlib.Algebra.GroupWithZero.Nat
import Mathlib.Data.List.Induction
import ModelGateway.Image.PngWriter

namespace ModelGateway.Png

theorem length_flatMap_of_mem {α β : Type} {f : α → List β} {n : Nat}
    {xs : List α} (sized : ∀ x ∈ xs, (f x).length = n) :
    (xs.flatMap f).length = xs.length * n := by
  induction xs with
  | nil => simp
  | cons x xs induction =>
      have later := induction fun y member =>
        sized y (List.mem_cons_of_mem _ member)
      rw [List.flatMap_cons, List.length_append, later,
        sized x List.mem_cons_self, List.length_cons, Nat.add_mul, Nat.one_mul,
        Nat.add_comm]

theorem getD_flatMap {α β : Type} {f : α → List β} {n : Nat}
    (sized : ∀ x, (f x).length = n)
    {xs : List α} {i j : Nat}
    (inside : i < xs.length) (below : j < n)
    (default : β) :
    (xs.flatMap f).getD (i * n + j) default = (f xs[i]).getD j default := by
  induction xs generalizing i with
  | nil => cases inside
  | cons x xs induction =>
      rw [List.flatMap_cons, List.getD_eq_getElem?_getD]
      cases i with
      | zero =>
          rw [Nat.zero_mul, Nat.zero_add,
            List.getElem?_append_left (by rw [sized]; exact below),
            ← List.getD_eq_getElem?_getD]
          rfl
      | succ i =>
          have shift : (i + 1) * n + j - n = i * n + j := by
            rw [Nat.add_mul, Nat.one_mul]
            omega
          rw [List.getElem?_append_right (by rw [sized, Nat.add_mul]; omega),
            sized, shift, ← List.getD_eq_getElem?_getD,
            induction (Nat.lt_of_succ_lt_succ inside)]
          rfl

theorem getD_toArray {α : Type} (s : List α) (i : Nat)
    (default : α) :
    s.toArray.getD i default = s.getD i default := by
  simp [List.getD_eq_getElem?_getD]

def FillsByte (depth : Nat) : Prop :=
  depth * (8 / depth) = 8

theorem FillsByte.ne_sixteen {depth : Nat} (fills : FillsByte depth) :
    (depth == 16) = false := by
  apply beq_eq_false_iff_ne.2
  intro deep
  rw [FillsByte, deep] at fills
  cases fills

theorem FillsByte.pos {depth : Nat} (fills : FillsByte depth) :
    0 < depth ∧ 0 < 8 / depth := by
  have positive : 0 < depth * (8 / depth) := by
    rw [fills]
    decide
  exact ⟨Nat.pos_of_mul_pos_right positive, Nat.pos_of_mul_pos_left positive⟩

theorem packRow_of_ne_nil {row : List Nat}
    (nonempty : row ≠ [])
    (depth fuel : Nat) :
    packRow depth (fuel + 1) row =
      ((row.take (8 / depth)).foldl (fun n i => n * Nat.pow 2 depth % 256 ||| i)
        0 * Nat.pow 2
        (depth * (8 / depth - (row.take (8 / depth)).length))).toUInt8 ::
          packRow depth fuel (row.drop (8 / depth)) := by
  rw [packRow]
  exact nonempty

private theorem length_packRow {depth : Nat} (fills : FillsByte depth)
    {fuel : Nat} {row : List Nat}
    (enough : row.length ≤ fuel) :
    (packRow depth fuel row).length = (depth * row.length + 7) / 8 := by
  obtain ⟨positive, positive'⟩ := fills.pos
  induction fuel generalizing row with
  | zero =>
      have empty : row.length = 0 := by omega
      simp [packRow, empty]
  | succ fuel induction =>
      cases row with
      | nil => simp [packRow]
      | cons n row =>
          have rest : ((n :: row).drop (8 / depth)).length ≤ fuel := by
            rw [List.length_drop]
            omega
          rw [packRow_of_ne_nil (by simp), List.length_cons, induction rest,
            List.length_drop]
          rcases Nat.le_total (n :: row).length (8 / depth) with few | many
          · have least : depth * 1 ≤ depth * (n :: row).length :=
              Nat.mul_le_mul_left _ (by simp)
            have most : depth * (n :: row).length ≤ depth * (8 / depth) :=
              Nat.mul_le_mul_left _ few
            rw [fills] at most
            rw [Nat.sub_eq_zero_of_le few]
            omega
          · have most : depth * (8 / depth) ≤ depth * (n :: row).length :=
              Nat.mul_le_mul_left _ many
            rw [fills] at most
            rw [Nat.mul_sub, fills]
            omega

def digits (depth : Nat) (samples : List Nat) : Nat :=
  samples.foldl (fun n i => n * 2 ^ depth + i) 0

theorem digits_concat (depth : Nat) (samples : List Nat) (i : Nat) :
    digits depth (samples ++ [i]) = digits depth samples * 2 ^ depth + i := by
  simp [digits]

theorem digits_lt {depth : Nat} {samples : List Nat}
    (small : ∀ i ∈ samples, i < 2 ^ depth) :
    digits depth samples < 2 ^ (depth * samples.length) := by
  induction samples using List.reverseRecOn with
  | nil => simp [digits]
  | append_singleton samples i induction =>
      have earlier := induction fun j member =>
        small j (List.mem_append_left _ member)
      have last := small i (by simp)
      rw [digits_concat, List.length_append, List.length_singleton, Nat.mul_add,
        Nat.mul_one, Nat.pow_add]
      calc digits depth samples * 2 ^ depth + i
          < digits depth samples * 2 ^ depth + 2 ^ depth :=
            Nat.add_lt_add_left last _
        _ = (digits depth samples + 1) * 2 ^ depth := by
          rw [Nat.add_mul, Nat.one_mul]
        _ ≤ 2 ^ (depth * samples.length) * 2 ^ depth :=
          Nat.mul_le_mul_right _ earlier

private theorem digits_div_mod {depth : Nat} {samples : List Nat}
    (small : ∀ i ∈ samples, i < 2 ^ depth)
    {j : Nat} (inside : j < samples.length) :
    digits depth samples / 2 ^ (depth * (samples.length - 1 - j)) % 2 ^ depth =
      samples[j] := by
  induction samples using List.reverseRecOn with
  | nil => cases inside
  | append_singleton samples i induction =>
      have last := small i (by simp)
      have room : 0 < 2 ^ depth := Nat.two_pow_pos depth
      rw [digits_concat]
      by_cases earlier : j < samples.length
      · have place :
            (samples ++ [i]).length - 1 - j = (samples.length - 1 - j) + 1 := by
          simp
          omega
        rw [place, Nat.mul_add, Nat.mul_one, Nat.add_comm (depth * _),
          Nat.pow_add, ← Nat.div_div_eq_div_mul,
          Nat.mul_comm (digits depth samples), Nat.mul_add_div room,
          Nat.div_eq_of_lt last, Nat.add_zero,
          induction (fun k member => small k (List.mem_append_left _ member))
            earlier, List.getElem_append_left earlier]
      · have place : j = samples.length := by
          simp at inside
          omega
        subst place
        simp [Nat.mul_comm (digits depth samples), Nat.mod_eq_of_lt last]

private theorem foldl_pack {depth : Nat} {samples : List Nat}
    (small : ∀ i ∈ samples, i < 2 ^ depth)
    (fits : depth * samples.length ≤ 8) :
    samples.foldl (fun n i => n * Nat.pow 2 depth % 256 ||| i) 0 =
      digits depth samples := by
  induction samples using List.reverseRecOn with
  | nil => rfl
  | append_singleton samples i induction =>
      have smaller : ∀ j ∈ samples, j < 2 ^ depth :=
        fun j member => small j (List.mem_append_left _ member)
      rw [List.length_append, List.length_singleton, Nat.mul_add, Nat.mul_one]
        at fits
      have below : digits depth samples * 2 ^ depth < 256 := by
        calc digits depth samples * 2 ^ depth
            < 2 ^ (depth * samples.length) * 2 ^ depth :=
              Nat.mul_lt_mul_of_pos_right (digits_lt smaller)
                (Nat.two_pow_pos depth)
          _ = 2 ^ (depth * samples.length + depth) := (Nat.pow_add ..).symm
          _ ≤ 2 ^ 8 := Nat.pow_le_pow_right (by decide) fits
      rw [List.foldl_append, induction smaller (by omega), List.foldl_cons,
        List.foldl_nil, digits_concat]
      change digits depth samples * 2 ^ depth % 256 ||| i = _
      rw [Nat.mod_eq_of_lt below, Nat.mul_comm,
        ← Nat.two_pow_add_eq_or_of_lt (small i (by simp))]

private theorem sample_packRow_head {depth : Nat} (fills : FillsByte depth)
    {fuel : Nat} {row : List Nat}
    (small : ∀ i ∈ row, i < 2 ^ depth)
    {i : Nat} (inside : i < row.length) (near : i < 8 / depth) :
    ((packRow depth (fuel + 1) row).getD 0 0).toNat / 2 ^
      (8 - depth - i * depth) % 2 ^ depth = row[i] := by
  have nonempty : row ≠ [] :=
    List.ne_nil_of_length_pos (Nat.zero_lt_of_lt inside)
  have size : (row.take (8 / depth)).length ≤ 8 / depth := by
    rw [List.length_take]
    exact Nat.min_le_left _ _
  have here : i < (row.take (8 / depth)).length := by
    rw [List.length_take]
    omega
  have smaller : ∀ j ∈ row.take (8 / depth), j < 2 ^ depth :=
    fun j member => small j (List.mem_of_mem_take member)
  have room : depth * (row.take (8 / depth)).length ≤ 8 := by
    have most := Nat.mul_le_mul_left depth size
    rwa [fills] at most
  have packed : (packRow depth (fuel + 1) row).getD 0 0 =
      (digits depth (row.take (8 / depth)) * 2 ^
        (depth * (8 / depth - (row.take (8 / depth)).length))).toUInt8 := by
    rw [packRow_of_ne_nil nonempty, foldl_pack smaller room]
    rfl
  generalize now_eq : row.take (8 / depth) = now at *
  -- The byte holds the samples as digits to base `2 ^ depth`, moved up by the
  -- places the last byte of a row leaves empty.
  have below :
      digits depth now * 2 ^ (depth * (8 / depth - now.length)) < 2 ^ 8 := by
    calc digits depth now * 2 ^ (depth * (8 / depth - now.length))
        < 2 ^ (depth * now.length) * 2 ^ (depth * (8 / depth - now.length)) :=
          Nat.mul_lt_mul_of_pos_right (digits_lt smaller) (Nat.two_pow_pos _)
      _ = 2 ^ 8 := by
        rw [← Nat.pow_add, ← Nat.mul_add, Nat.add_sub_cancel' size, fills]
  have place : 8 - depth - i * depth = depth * (8 / depth - now.length) +
      depth * (now.length - 1 - i) := by
    have parts : 8 / depth = (8 / depth - now.length) +
        (now.length - 1 - i) + 1 + i := by
      omega
    have product := fills
    rw [FillsByte, parts, Nat.mul_add, Nat.mul_add, Nat.mul_add, Nat.mul_one]
      at product
    rw [Nat.mul_comm i]
    omega
  have value : (digits depth now * 2 ^
      (depth * (8 / depth - now.length))).toUInt8.toNat =
      digits depth now * 2 ^ (depth * (8 / depth - now.length)) := by
    simp only [Nat.toUInt8_eq, UInt8.toNat_ofNat']
    exact Nat.mod_eq_of_lt below
  rw [packed, value, place, Nat.pow_add, ← Nat.div_div_eq_div_mul,
    Nat.mul_div_cancel _ (Nat.two_pow_pos _), digits_div_mod smaller here]
  simp [← now_eq]

private theorem sample_packRow {depth : Nat} (fills : FillsByte depth)
    {fuel : Nat} {row : List Nat}
    (enough : row.length ≤ fuel)
    (small : ∀ i ∈ row, i < 2 ^ depth)
    {i : Nat} (inside : i < row.length) :
    ((packRow depth fuel row).getD (i * depth / 8) 0).toNat / 2 ^
      (8 - depth - i * depth % 8) % 2 ^ depth = row[i] := by
  obtain ⟨positive, positive'⟩ := fills.pos
  induction fuel generalizing row i with
  | zero => omega
  | succ fuel induction =>
      by_cases near : i < 8 / depth
      · have first : i * depth < 8 := by
          have less := Nat.mul_lt_mul_of_pos_right near positive
          rwa [Nat.mul_comm (8 / depth), fills] at less
        rw [Nat.div_eq_of_lt first, Nat.mod_eq_of_lt first]
        exact sample_packRow_head fills small inside near
      · have shift : i * depth = (i - 8 / depth) * depth + 8 := by
          rw [Nat.sub_mul, Nat.mul_comm (8 / depth), fills]
          have most : 8 / depth * depth ≤ i * depth :=
            Nat.mul_le_mul_right _ (by omega)
          rw [Nat.mul_comm (8 / depth), fills] at most
          omega
        have rest : (row.drop (8 / depth)).length ≤ fuel := by
          rw [List.length_drop]
          omega
        have there : i - 8 / depth < (row.drop (8 / depth)).length := by
          rw [List.length_drop]
          omega
        have nonempty : row ≠ [] :=
          List.ne_nil_of_length_pos (Nat.zero_lt_of_lt inside)
        have later :=
          induction rest (fun j member => small j (List.mem_of_mem_drop member))
            there
        rw [shift, Nat.add_div_right _ (by decide), Nat.add_mod_right,
          packRow_of_ne_nil nonempty, List.getD_cons_succ, later,
          List.getElem_drop]
        congr 1
        omega

namespace Form

variable {form : Form} {row : List Nat}

def Regular (form : Form) : Prop :=
  form.depth = 16 ∨ FillsByte form.depth

private theorem length_pack (regular : form.Regular) (row : List Nat) :
    (form.pack row).length = (form.depth * row.length + 7) / 8 := by
  unfold pack
  cases regular with
  | inl deep =>
      have pairs : (row.flatMap fun n =>
          [(n / 256).toUInt8, (n % 256).toUInt8]).length = row.length * 2 :=
        length_flatMap_of_mem fun _ _ => by rfl
      rw [deep, BEq.rfl, if_pos rfl, pairs]
      omega
  | inr fills =>
      rw [fills.ne_sixteen]
      exact length_packRow fills (Nat.le_refl _)

private theorem getD_pairs (f g : Nat → UInt8)
    {i : Nat} (inside : i < row.length) :
    (row.flatMap fun n => [f n, g n]).getD (2 * i) 0 = f row[i] ∧
      (row.flatMap fun n => [f n, g n]).getD (2 * i + 1) 0 = g row[i] := by
  have sized (n : Nat) : [f n, g n].length = 2 := rfl
  rw [Nat.mul_comm]
  exact ⟨getD_flatMap sized inside (by decide : 0 < 2) 0,
    getD_flatMap sized inside (by decide : 1 < 2) 0⟩

private theorem samplesOf_pack (regular : form.Regular)
    (small : ∀ i ∈ row, i < 2 ^ form.depth) :
    samplesOf form.depth row.length (form.pack row).toArray = row := by
  apply List.ext_getElem
  · simp [samplesOf]
  · intro i _ inside
    unfold samplesOf pack
    cases regular with
    | inl deep =>
        obtain ⟨first, second⟩ :=
          getD_pairs (fun n => (n / 256).toUInt8)
            (fun n => (n % 256).toUInt8) inside
        have bound : row[i] < 2 ^ 16 := by
          rw [← deep]
          exact small _ (List.getElem_mem inside)
        simp only [deep, beq_self_eq_true, if_true, List.getElem_map,
          List.getElem_range, getD_toArray, first, second]
        simp
        omega
    | inr fills =>
        have sample :=
          sample_packRow fills (Nat.le_refl row.length) small inside
        simp only [fills.ne_sixteen, Bool.false_eq_true, if_false,
          List.getElem_map, List.getElem_range, getD_toArray]
        exact sample

end Form

private theorem foldl_push {α β : Type}
    (f : α → β)
    (items : List α) (out : Array β) :
    items.foldl (fun out i => out.push (f i)) out =
      out ++ (items.map f).toArray := by
  induction items generalizing out with
  | nil => simp
  | cons item items induction =>
      rw [List.foldl_cons, induction]
      simp

private theorem unfilter_zero (step : Nat) (above row : Array UInt8) :
    unfilter 0 step above row = some row := by
  have byte (done : Array UInt8) (i : Nat) :
      (prediction 0 (if i < step then 0 else (done.getD (i - step) 0).toNat)
        (above.getD i 0).toNat (if i < step then
          0 else (above.getD (i - step) 0).toNat)).getD 0 = 0 := rfl
  rw [unfilter, if_neg (by decide)]
  simp only [byte]
  rw [foldl_push (fun i => row.getD i 0 + (0 : Nat).toUInt8)]
  apply congrArg some
  apply Array.ext'
  apply List.ext_getElem
  · simp
  · intro i bound bound'
    have inside : i < row.size := by simpa using bound'
    simp [inside]

section Rows

variable {h : Header} {width : Nat} {missing : ImageFault}

private theorem readRows_append (rows : List Bytes)
    (sized : ∀ row ∈ rows, row.length = h.rowBytes width)
    (before : Bytes) (above : Array UInt8) (done : List (List Nat)) :
    readRows h width missing (before ++ rows.flatMap (0 :: ·)).toArray
      rows.length before.length above done =
      .ok (done.reverse ++ rows.map
        (fun row => samplesOf h.depth (width * h.colour.channels) row.toArray),
        (before ++ rows.flatMap (0 :: ·)).length) := by
  induction rows generalizing before above done with
  | nil => simp [readRows]
  | cons row rows induction =>
      have size := sized row List.mem_cons_self
      have fits : ¬ before.length + 1 + h.rowBytes width >
          (before ++ (row :: rows).flatMap (0 :: ·)).toArray.size := by
        simp [size]
        omega
      have mark : ((before ++ (row :: rows).flatMap (0 :: ·)).toArray.getD
          before.length 0).toNat = 0 := by
        simp
      have content : (before ++ (row :: rows).flatMap (0 :: ·)).toArray.extract
          (before.length + 1)
          (before.length + 1 + h.rowBytes width) = row.toArray := by
        simp [← size, List.drop_append, List.take_append]
      have moved : before ++ (row :: rows).flatMap (0 :: ·) =
          (before ++ 0 :: row) ++ rows.flatMap (0 :: ·) := by
        simp
      have place : before.length + 1 + h.rowBytes width =
          (before ++ 0 :: row).length := by
        simp [size]
        omega
      rw [List.length_cons, readRows, if_neg fits, mark, content, unfilter_zero]
      simp only
      rw [moved, place, induction (fun row member =>
        sized row (List.mem_cons_of_mem _ member))]
      simp

end Rows

section Places

variable {h : Header}

theorem places_whole (n : Nat) : places n 0 1 = n := by
  simp [places]

private theorem setIfInBounds_append {α : Type} (before after : List α)
    (old new : α) :
    (before ++ old :: after).toArray.setIfInBounds before.length new =
      (before ++ new :: after).toArray := by
  simp

private theorem foldl_place (row : List Nat) {base start : Nat}
    {before old after : List Nat} (place : before.length = base + start)
    (size : old.length = row.length) :
    (row.zipIdx start).foldl (fun samples (sample, i) =>
      samples.setIfInBounds (base + i) sample)
        (before ++ old ++ after).toArray =
          (before ++ row ++ after).toArray := by
  induction row generalizing start before old with
  | nil =>
      have empty : old = [] := List.eq_nil_of_length_eq_zero size
      rw [empty]
      rfl
  | cons sample row induction =>
      obtain ⟨first, rest, rfl⟩ := List.exists_cons_of_length_eq_add_one size
      have set : (before ++ first :: rest ++ after).toArray.setIfInBounds
          (base + start) sample =
          ((before ++ [sample]) ++ rest ++ after).toArray := by
        rw [← place, List.append_assoc, List.cons_append, setIfInBounds_append]
        simp
      have later := @induction (start + 1) (before ++ [sample]) rest
        (by simp [place]; omega)
        (by simpa using size)
      rw [List.zipIdx_cons, List.foldl_cons]
      simp only [set]
      rw [later]
      simp

private theorem placeRow_whole {y : Nat} {row before old after : List Nat}
    (place : before.length = y * (h.width * h.colour.channels))
    (size : old.length = row.length) :
    placeRow h wholePass y row (before ++ old ++ after).toArray =
      (before ++ row ++ after).toArray := by
  have index (i : Nat) :
    (y * h.width + (wholePass.left + i / h.colour.channels *
      wholePass.across)) *
      h.colour.channels + i % h.colour.channels =
        y * (h.width * h.colour.channels) + i := by
    have whole := Nat.div_add_mod i h.colour.channels
    simp only [wholePass, Nat.zero_add, Nat.mul_one]
    rw [Nat.add_mul, Nat.mul_assoc, Nat.mul_comm (i / _)]
    omega
  unfold placeRow
  simp only [index]
  exact foldl_place row place size

private theorem foldl_placeRow (rows : List (List Nat))
    (sized : ∀ row ∈ rows, row.length = h.width * h.colour.channels)
    {y : Nat} {before old : List Nat}
    (place : before.length = y * (h.width * h.colour.channels))
    (size : old.length = rows.length * (h.width * h.colour.channels)) :
    (rows.zipIdx y).foldl
        (fun samples (row, i) =>
          placeRow h wholePass (wholePass.top + i * wholePass.down) row samples)
        (before ++ old).toArray = (before ++ rows.flatten).toArray := by
  induction rows generalizing y before old with
  | nil =>
      have empty : old = [] :=
        List.eq_nil_of_length_eq_zero (by simpa using size)
      rw [empty]
      rfl
  | cons row rows induction =>
      have width := sized row List.mem_cons_self
      rw [List.length_cons, Nat.add_mul, Nat.one_mul] at size
      have first :
          (old.take (h.width * h.colour.channels)).length = row.length := by
        rw [List.length_take, width]
        omega
      have here : wholePass.top + y * wholePass.down = y := by simp [wholePass]
      have put :=
        @placeRow_whole h y row before (old.take (h.width * h.colour.channels))
        (old.drop (h.width * h.colour.channels)) place first
      have later :=
        @induction (fun row member => sized row (List.mem_cons_of_mem _ member))
          (y + 1) (before ++ row)
        (old.drop (h.width * h.colour.channels))
          (by rw [List.length_append, place, width, Nat.add_mul, Nat.one_mul])
        (by rw [List.length_drop]; omega)
      rw [List.append_assoc, List.take_append_drop] at put
      rw [List.zipIdx_cons, List.foldl_cons]
      simp only [here, put]
      rw [later, List.flatten_cons, List.append_assoc]

private theorem placePasses_whole {rows : List (List Nat)}
    (all : rows.length = h.height)
    (sized : ∀ row ∈ rows, row.length = h.width * h.colour.channels) :
    placePasses h [(wholePass, rows)] = rows.flatten.toArray := by
  have blank : Array.replicate (h.width * h.height * h.colour.channels) 0 =
      ([] ++ List.replicate (h.width * h.height * h.colour.channels)
        0).toArray := by simp
  unfold placePasses
  rw [List.foldl_cons, List.foldl_nil, blank]
  apply foldl_placeRow rows sized
  · simp
  · rw [List.length_replicate, all, Nat.mul_comm h.width, Nat.mul_assoc]

end Places

namespace Form

variable {form : Form} {width height : Nat}

def announced (form : Form) (width height : Nat) : Header :=
  ⟨width, height, form.depth, form.colour, false⟩

def sampleRows (form : Form) (width height : Nat) : List (List Nat) :=
  (List.range height).map fun y =>
    (form.samples.extract (y * (width * form.colour.channels))
      ((y + 1) * (width * form.colour.channels))).toList

def Fills (form : Form) (width height : Nat) : Prop :=
  form.samples.size = height * (width * form.colour.channels)

private theorem rows_eq (form : Form) (width height : Nat) :
    form.rows width height =
      ((form.sampleRows width height).map form.pack).flatMap (0 :: ·) := by
  rw [sampleRows, List.map_map, List.flatMap_map]
  rfl

theorem flatten_sampleRows (form : Form) (width height : Nat) :
    (form.sampleRows width height).flatten =
      form.samples.toList.take (height * (width * form.colour.channels)) := by
  induction height with
  | zero => simp [sampleRows]
  | succ height induction =>
      have last : form.sampleRows width (height + 1) =
          form.sampleRows width height ++
          [(form.samples.extract (height * (width * form.colour.channels))
            ((height + 1) * (width * form.colour.channels))).toList] := by
        simp [sampleRows, List.range_succ]
      rw [last, List.flatten_append, induction, Array.toList_extract,
        List.extract_eq_take_drop, Nat.add_mul, Nat.one_mul,
        Nat.add_sub_cancel_left, List.flatten_singleton, ← List.take_add]

theorem length_of_mem_sampleRows (fills : form.Fills width height)
    {row : List Nat} (member : row ∈ form.sampleRows width height) :
    row.length = width * form.colour.channels := by
  obtain ⟨y, inside, rfl⟩ := List.mem_map.1 member
  have below :
      (y + 1) * (width * form.colour.channels) ≤ form.samples.size := by
    rw [fills]
    exact Nat.mul_le_mul_right _ (List.mem_range.1 inside)
  rw [Array.length_toList, Array.size_extract, Nat.min_eq_left below,
    Nat.add_mul, Nat.one_mul, Nat.add_sub_cancel_left]

private theorem mem_of_mem_sampleRows {row : List Nat}
    (member : row ∈ form.sampleRows width height)
    {sample : Nat} (inside : sample ∈ row) : sample ∈ form.samples := by
  have joined : sample ∈ (form.sampleRows width height).flatten :=
    List.mem_flatten.2 ⟨row, member, inside⟩
  rw [flatten_sampleRows] at joined
  exact Array.mem_toList_iff.1 (List.mem_of_mem_take joined)

/-- The rows of a file are read to the last byte, and samples that fit their
depth are read as they were. -/
theorem readPasses_rows (regular : form.Regular)
    (fills : form.Fills width height)
    (wide : 0 < width) (high : 0 < height)
    (missing : ImageFault) :
    ∃ passes, readPasses (form.announced width height) missing
      (form.rows width height).toArray [wholePass] 0 =
      .ok (passes, (form.rows width height).length) ∧
      ((∀ sample ∈ form.samples, sample < 2 ^ form.depth) →
        placePasses (form.announced width height) passes = form.samples) := by
  let again := ((form.sampleRows width height).map form.pack).map fun row =>
    samplesOf form.depth (width * form.colour.channels) row.toArray
  have all :
      ((form.sampleRows width height).map form.pack).length = height := by
    simp [sampleRows]
  have sized : ∀ row ∈ (form.sampleRows width height).map form.pack,
      row.length = (form.announced width height).rowBytes width := by
    intro row member
    obtain ⟨samples, there, rfl⟩ := List.mem_map.1 member
    rw [length_pack regular, length_of_mem_sampleRows fills there,
      Header.rowBytes, Header.bitsPerPixel, announced]
    congr 2
    rw [Nat.mul_comm width, Nat.mul_assoc]
  -- A picture that is not interlaced is one pass over all rows.
  have read := @readRows_append (form.announced width height) width missing
    ((form.sampleRows width height).map form.pack) sized [] #[] []
  rw [all, ← rows_eq] at read
  refine ⟨[(wholePass, again)], ?_, ?_⟩
  · have first : places (form.announced width height).width wholePass.left
        wholePass.across = width :=
      places_whole width
    have second : places (form.announced width height).height wholePass.top
        wholePass.down = height :=
      places_whole height
    have nonempty : (width == 0 || height == 0) = false := by
      simp
      omega
    rw [readPasses]
    simp only [first, second, nonempty, Bool.false_eq_true, if_false,
      List.nil_append, List.length_nil] at read ⊢
    rw [read]
    rfl
  · intro small
    have same : again = form.sampleRows width height := by
      change ((form.sampleRows width height).map form.pack).map _ = _
      rw [List.map_map]
      refine (List.map_congr_left ?_).trans (List.map_id _)
      intro row member
      have unpacked := @samplesOf_pack form row regular fun i inside =>
        small i (mem_of_mem_sampleRows member inside)
      rwa [length_of_mem_sampleRows fills member] at unpacked
    have size :
        form.samples.toList.length ≤ height * (width * form.colour.channels) :=
      Nat.le_of_eq fills
    rw [same, placePasses_whole (by simp [sampleRows, announced]),
      flatten_sampleRows, List.take_of_length_le size]
    · intro row member
      exact length_of_mem_sampleRows fills member

end Form

end ModelGateway.Png
