import Mathlib.Data.List.Forall2
import ModelGateway.Generation.Mismatch

namespace ModelGateway

section Chains

variable {ε α β : Type}

theorem bind_eq_ok_iff {x : Except ε α} {f : α → Except ε β} {b : β} :
    (x >>= f) = .ok b ↔ ∃ a, x = .ok a ∧ f a = .ok b := by
  cases x with
  | error e => simp [bind, Except.bind]
  | ok a => simp [bind, Except.bind]

theorem bind_eq_error_iff {x : Except ε α} {f : α → Except ε β} {e : ε} :
    (x >>= f) = .error e ↔ x = .error e ∨ ∃ a, x = .ok a ∧ f a = .error e := by
  cases x with
  | error e => simp [bind, Except.bind]
  | ok a => simp [bind, Except.bind]

theorem map_eq_ok_iff {x : Except ε α} {f : α → β} {b : β} :
    x.map f = .ok b ↔ ∃ a, x = .ok a ∧ f a = b := by
  cases x with
  | error e => simp [Except.map]
  | ok a => simp [Except.map]

theorem map_eq_error_iff {x : Except ε α} {f : α → β} {e : ε} :
    x.map f = .error e ↔ x = .error e := by
  cases x with
  | error d => simp [Except.map]
  | ok a => simp [Except.map]

theorem error_of_pair {γ : Type} {x : Except ε α} {y : Except ε β}
    {f : α → β → γ} {e : ε}
    (failed : (do let a ← x; let b ← y; return f a b) = .error e) :
    x = .error e ∨ y = .error e := by
  cases x with
  | error d =>
      cases failed
      exact .inl rfl
  | ok a =>
      cases y with
      | error d =>
          cases failed
          exact .inr rfl
      | ok b => cases failed

theorem map_map {γ : Type} (x : Except ε α)
    (f : α → β) (g : β → γ) :
    (x.map f).map g = x.map fun a => g (f a) := by
  cases x <;> rfl

theorem map_id_eq (x : Except ε α) : (x.map fun a => a) = x := by
  cases x <;> rfl

end Chains

namespace Checked

variable {α β γ : Type}

theorem both_eq_ok_iff {f : α → β → γ} {x : Checked α} {y : Checked β}
    {c : γ} :
    both f x y = .ok c ↔ ∃ a b, x = .ok a ∧ y = .ok b ∧ f a b = c := by
  cases x with
  | error e => cases y <;> simp [both]
  | ok a => cases y <;> simp [both]

/-- The result is refused, and the refusal names the mismatch. -/
def Reports (mismatch : Mismatch) (x : Checked α) : Prop :=
  ∃ all, x = .error all ∧ mismatch ∈ all

variable {mismatch : Mismatch}

theorem reports_map_iff {x : Checked α} {f : α → β} :
    Reports mismatch (x.map f) ↔ Reports mismatch x := by
  cases x with
  | error e => simp [Reports, Except.map]
  | ok a => simp [Reports, Except.map]

theorem reports_both_iff {f : α → β → γ} {x : Checked α} {y : Checked β} :
    Reports mismatch (both f x y) ↔ Reports mismatch x ∨
      Reports mismatch y := by
  cases x with
  | error e => cases y <;> simp [Reports, both]
  | ok a => cases y <;> simp [Reports, both]

theorem reports_bind_left {x : Checked α} {f : α → Checked β}
    (h : Reports mismatch x) :
    Reports mismatch (x >>= f) := by
  obtain ⟨all, rfl, member⟩ := h
  exact ⟨all, rfl, member⟩

end Checked

/-- Both results are refused, or both are there and related. -/
def Agree {ε α β : Type} (related : α → β → Prop) :
    Except ε α → Except ε β → Prop
  | .ok a, .ok b => related a b
  | .error _, .error _ => True
  | _, _ => False

namespace Agree

variable {ε α β γ δ : Type} {r : α → β → Prop} {s : γ → δ → Prop}
    {x : Except ε α} {y : Except ε β}

theorem elim (h : Agree r x y) :
    (∃ e e', x = .error e ∧ y = .error e') ∨ ∃ a b, x = .ok a ∧
      y = .ok b ∧ r a b := by
  cases x with
  | error e =>
      cases y with
      | error e' => exact Or.inl ⟨e, e', rfl, rfl⟩
      | ok b => cases h
  | ok a =>
      cases y with
      | error e' => cases h
      | ok b => exact Or.inr ⟨a, b, rfl, rfl, h⟩

theorem refl {r : α → α → Prop}
    (same : ∀ a, r a a)
    (x : Except ε α) : Agree r x x := by
  cases x with
  | error e => trivial
  | ok a => exact same a

theorem trans {r : α → α → Prop} {x y z : Except ε α}
    (through : ∀ {a b c}, r a b → r b c → r a c)
    (first : Agree r x y) (second : Agree r y z) :
    Agree r x z := by
  obtain ⟨e, e', rfl, rfl⟩ | ⟨a, b, rfl, rfl, here⟩ := first.elim
  · obtain ⟨_, _, _, rfl⟩ | ⟨_, _, impossible, _⟩ := second.elim
    · trivial
    · cases impossible
  · obtain ⟨_, _, impossible, _⟩ | ⟨_, c, same, rfl, there⟩ := second.elim
    · cases impossible
    · cases same
      exact through here there

theorem mono {r' : α → β → Prop}
    (implies : ∀ {a b}, r a b → r' a b)
    (h : Agree r x y) :
    Agree r' x y := by
  obtain ⟨_, _, rfl, rfl⟩ | ⟨_, _, rfl, rfl, related⟩ := h.elim
  · trivial
  · exact implies related

theorem map {f : α → γ} {g : β → δ}
    (images : ∀ {a b}, r a b → s (f a) (g b))
    (h : Agree r x y) :
    Agree s (x.map f) (y.map g) := by
  obtain ⟨_, _, rfl, rfl⟩ | ⟨_, _, rfl, rfl, related⟩ := h.elim
  · trivial
  · exact images related

theorem bind {f : α → Except ε γ} {g : β → Except ε δ}
    (next : ∀ {a b}, r a b → Agree s (f a) (g b))
    (h : Agree r x y) :
    Agree s (x >>= f) (y >>= g) := by
  obtain ⟨_, _, rfl, rfl⟩ | ⟨_, _, rfl, rfl, related⟩ := h.elim
  · trivial
  · exact next related

end Agree

namespace Checked

theorem agree_both {α β γ α' β' γ' : Type} {r : α → α' → Prop}
    {s : β → β' → Prop} {t : γ → γ' → Prop} {f : α → β → γ}
    {g : α' → β' → γ'} {x : Checked α} {y : Checked β}
    {x' : Checked α'} {y' : Checked β'}
    (results : ∀ {a b a' b'}, r a a' → s b b' → t (f a b) (g a' b'))
    (first : Agree r x x') (second : Agree s y y') :
    Agree t (both f x y) (both g x' y') := by
  obtain ⟨_, _, rfl, rfl⟩ | ⟨_, _, rfl, rfl, here⟩ := first.elim
  · cases y <;> cases y' <;> trivial
  · obtain ⟨_, _, rfl, rfl⟩ | ⟨_, _, rfl, rfl, there⟩ := second.elim
    · trivial
    · exact results here there

variable {α β : Type}

def collect : List (Checked α) → Checked (List α)
  | [] => .ok []
  | x :: rest => both (· :: ·) x (collect rest)

theorem exists_collect_iff {xs : List (Checked α)} :
    (∃ as, collect xs = .ok as) ↔ ∀ x ∈ xs, ∃ a, x = .ok a := by
  induction xs with
  | nil => simp [collect]
  | cons x rest induction =>
      rw [List.forall_mem_cons, ← induction]
      constructor
      · rintro ⟨_, collected⟩
        obtain ⟨a, as, first, others, _⟩ := both_eq_ok_iff.1 collected
        exact ⟨⟨a, first⟩, as, others⟩
      · rintro ⟨⟨a, first⟩, as, others⟩
        exact ⟨a :: as, both_eq_ok_iff.2 ⟨a, as, first, others, rfl⟩⟩

theorem both_map_left {γ δ : Type}
    (f : α → β) (g : β → γ → δ)
    (x : Checked α) (y : Checked γ) :
    both (fun a c => g (f a) c) x y = both g (x.map f) y := by
  cases x <;> cases y <;> rfl

theorem agree_collect_of_perm {xs ys : List (Checked α)} (moved : xs.Perm ys) :
    Agree List.Perm (collect xs) (collect ys) := by
  induction moved with
  | nil => exact List.Perm.refl []
  | cons x _ ih =>
      refine agree_both ?_ (Agree.refl (fun _ => rfl) x) ih
      rintro a as _ bs rfl moved
      exact moved.cons a
  | swap x y rest =>
      simp only [collect]
      cases x with
      | error e => cases y <;> cases collect rest <;> trivial
      | ok a =>
          cases y with
          | error e => cases collect rest <;> trivial
          | ok b =>
              cases collect rest with
              | error e => trivial
              | ok as => exact List.Perm.swap a b as
  | trans _ _ first second => exact Agree.trans List.Perm.trans first second

theorem agree_collect {r : α → β → Prop} {xs : List (Checked α)}
    {ys : List (Checked β)} (each : List.Forall₂ (Agree r) xs ys) :
    Agree (List.Forall₂ r) (collect xs) (collect ys) := by
  induction each with
  | nil => exact List.Forall₂.nil
  | cons first _ ih =>
      exact agree_both (fun first others => .cons first others) first ih

end Checked

end ModelGateway
