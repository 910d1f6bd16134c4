import Mathlib.Data.List.Forall2

/-! # Loops whose body can raise -/

namespace Python

variable {ε α β : Type}

@[simp]
theorem ok_bind (a : α) (f : α → Except ε β) : (Except.ok a >>= f) = f a := rfl

@[simp]
theorem error_bind (e : ε) (f : α → Except ε β) : (Except.error e >>= f) = .error e := rfl

@[simp]
theorem pure_ok (a : α) : (pure a : Except ε α) = .ok a := rfl

theorem bind_eq_ok (r : Except ε α) (f : α → Except ε β) (b : β) :
    r >>= f = .ok b ↔ ∃ a, r = .ok a ∧ f a = .ok b := by
  cases r <;> simp

theorem mapError_eq_ok {ε' : Type} (f : ε → ε') (r : Except ε α) (a : α) : r.mapError f = .ok a ↔ r = .ok a := by
  cases r <;> simp [Except.mapError]

theorem map_some_eq_ok (r : Except ε α) (a : α) : r.map some = .ok (some a) ↔ r = .ok a := by
  cases r <;> simp [Except.map]

theorem map_eq_error (f : α → β) (r : Except ε α) (e : ε) : r.map f = .error e ↔ r = .error e := by
  cases r <;> simp [Except.map]

theorem ok_keeps {P : α → Prop} {a b : α} (h : (.ok a : Except ε α) = .ok b) (ha : P a) : P b :=
  Except.ok.inj h ▸ ha

/-- What each round of a loop keeps, the loop keeps. -/
theorem foldlM_keeps {P : β → Prop} {f : β → α → Except ε β} {items : List α}
    (hf : ∀ b, ∀ a ∈ items, ∀ b', P b → f b a = .ok b' → P b') {b b' : β} (hb : P b)
    (h : items.foldlM f b = .ok b') : P b' := by
  induction items generalizing b with
  | nil => exact ok_keeps h hb
  | cons a items ih =>
    rw [List.foldlM_cons] at h
    obtain ⟨c, hc, h⟩ := (bind_eq_ok _ _ _).mp h
    have hrest := fun b a' ha' => hf b a' (List.mem_cons_of_mem a ha')
    exact ih hrest (hf b a List.mem_cons_self c hb hc) h

theorem mapM_ok (f : α → Except ε β) (P : α → β → Prop) (items : List α)
    (h : ∀ a ∈ items, ∃ b, f a = .ok b ∧ P a b) :
    ∃ out, items.mapM f = .ok out ∧ List.Forall₂ P items out := by
  induction items with
  | nil => exact ⟨[], rfl, .nil⟩
  | cons a items ih =>
    obtain ⟨b, hb, hp⟩ := h a List.mem_cons_self
    obtain ⟨out, hout, hps⟩ := ih fun x hx => h x (List.mem_cons_of_mem _ hx)
    refine ⟨b :: out, ?_, .cons hp hps⟩
    rw [List.mapM_cons, hb, hout]
    rfl

theorem mapM_eq_ok (f : α → Except ε β) (items : List α) (out : List β) :
    items.mapM f = .ok out ↔ List.Forall₂ (fun a b => f a = .ok b) items out := by
  constructor
  · intro h
    induction items generalizing out with
    | nil =>
      cases h
      exact .nil
    | cons a items ih =>
      rw [List.mapM_cons] at h
      obtain ⟨b, hb, h⟩ := (bind_eq_ok _ _ _).mp h
      obtain ⟨rest, hrest, h⟩ := (bind_eq_ok _ _ _).mp h
      cases h
      exact .cons hb (ih rest hrest)
  · intro h
    induction h with
    | nil => rfl
    | cons hb _ ih =>
      rw [List.mapM_cons, hb, ih]
      rfl

theorem mapM_eq_error (f : α → Except ε β) (items : List α) (e : ε) :
    items.mapM f = .error e ↔
      ∃ before a after, items = before ++ a :: after ∧ (∀ x ∈ before, ∃ b, f x = .ok b) ∧ f a = .error e := by
  induction items with
  | nil => simp [List.mapM_nil]
  | cons a items ih =>
    rw [List.mapM_cons]
    cases ha : f a with
    | error e' =>
      rw [error_bind, Except.error.injEq]
      constructor
      · rintro rfl
        exact ⟨[], a, items, rfl, by simp, ha⟩
      · rintro ⟨before, a', after, hitems, hbefore, ha'⟩
        cases before with
        | nil =>
          obtain ⟨rfl, -⟩ := List.cons.inj hitems
          rw [ha, Except.error.injEq] at ha'
          exact ha'
        | cons x before =>
          obtain ⟨rfl, -⟩ := List.cons.inj hitems
          obtain ⟨b, hb⟩ := hbefore a List.mem_cons_self
          rw [ha] at hb
          cases hb
    | ok b =>
      have hrest : (do let rest ← items.mapM f; pure (b :: rest)) = Except.error e ↔ items.mapM f = .error e := by
        cases items.mapM f <;> simp
      rw [ok_bind, hrest, ih]
      constructor
      · rintro ⟨before, a', after, rfl, hbefore, ha'⟩
        refine ⟨a :: before, a', after, rfl, ?_, ha'⟩
        exact List.forall_mem_cons.mpr ⟨⟨b, ha⟩, hbefore⟩
      · rintro ⟨before, a', after, hitems, hbefore, ha'⟩
        cases before with
        | nil =>
          obtain ⟨rfl, -⟩ := List.cons.inj hitems
          rw [ha] at ha'
          cases ha'
        | cons x before =>
          obtain ⟨-, rfl⟩ := List.cons.inj hitems
          exact ⟨before, a', after, rfl, (List.forall_mem_cons.mp hbefore).2, ha'⟩

theorem mapM_map_ok (write : α → β) (read : β → Except ε α) (h : ∀ a, read (write a) = .ok a) (items : List α) :
    (items.map write).mapM read = .ok items := by
  induction items with
  | nil => rfl
  | cons a items ih =>
    rw [List.map_cons, List.mapM_cons, h, ih]
    rfl

theorem forall₂_mem_right {P : α → β → Prop} {l : List α} {l' : List β} (h : List.Forall₂ P l l') (b : β)
    (hb : b ∈ l') : ∃ a ∈ l, P a b := by
  induction h with
  | nil => simp at hb
  | cons hp _ ih =>
    rcases List.mem_cons.mp hb with rfl | hb
    · exact ⟨_, List.mem_cons_self, hp⟩
    · obtain ⟨a, ha, hp⟩ := ih hb
      exact ⟨a, List.mem_cons_of_mem _ ha, hp⟩

theorem forall₂_mem_left {P : α → β → Prop} {l : List α} {l' : List β} (h : List.Forall₂ P l l') (a : α)
    (ha : a ∈ l) : ∃ b ∈ l', P a b :=
  forall₂_mem_right h.flip a ha

theorem exists_forall₂ (P : α → β → Prop) (l : List α) (h : ∀ a ∈ l, ∃ b, P a b) : ∃ l', List.Forall₂ P l l' := by
  induction l with
  | nil => exact ⟨[], .nil⟩
  | cons a l ih =>
    obtain ⟨b, hb⟩ := h a List.mem_cons_self
    obtain ⟨l', hl⟩ := ih fun x hx => h x (List.mem_cons_of_mem _ hx)
    exact ⟨b :: l', .cons hb hl⟩

theorem forall₂_map_eq {γ : Type} {P : α → β → Prop} {l : List α} {l' : List β} (h : List.Forall₂ P l l')
    (f : α → γ) (g : β → γ) (heq : ∀ a ∈ l, ∀ b, P a b → g b = f a) : l'.map g = l.map f := by
  induction h with
  | nil => rfl
  | cons hp _ ih =>
    rw [List.forall_mem_cons] at heq
    rw [List.map_cons, List.map_cons, ih heq.2, heq.1 _ hp]

/-! ## Handlers -/

/-- `try: body`, with a handler of some classes that gives a value. -/
def catching (handled : ε → Bool) (value : α) (body : Except ε α) : Except ε α :=
  match body with
  | .ok a => .ok a
  | .error e => if handled e then .ok value else .error e

/-- `try: body`, `finally: cleanup`. What the cleanup raises takes the place of what the body did. -/
def withCleanup (body : Except ε α) (cleanup : Except ε Unit) : Except ε α := do
  cleanup
  body

theorem catching_returns (handled : ε → Bool) (value : α) (body : Except ε α) :
    (∃ a, catching handled value body = .ok a) ↔ ∀ e, body = .error e → handled e = true := by
  unfold catching
  cases body with
  | ok a => simp
  | error e => by_cases h : handled e = true <;> simp [h]

theorem catching_eq_ok {handled : ε → Bool} {value a : α} {body : Except ε α} (hne : a ≠ value) :
    catching handled value body = .ok a ↔ body = .ok a := by
  unfold catching
  cases body with
  | ok b => rfl
  | error e => by_cases h : handled e = true <;> simp [h, hne.symm]

theorem withCleanup_eq_ok (body : Except ε α) (cleanup : Except ε Unit) (a : α) :
    withCleanup body cleanup = .ok a ↔ cleanup = .ok () ∧ body = .ok a := by
  unfold withCleanup
  cases cleanup <;> simp

end Python
