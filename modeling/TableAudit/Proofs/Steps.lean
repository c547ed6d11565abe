import TableAudit.Table.Basic

/-!
# Steps that may fail

When a composition of fallible steps comes to a result, so did each of its steps, and when it ends
in an error, this is the error of one of them.
-/

namespace TableAudit

variable {ε δ α β : Type}

theorem bind_eq_ok {x : Except ε α} {f : α → Except ε β} {b : β} :
    (x >>= f) = .ok b ↔ ∃ a, x = .ok a ∧ f a = .ok b := by
  cases x <;> simp [bind, Except.bind]

theorem map_eq_ok {x : Except ε α} {f : α → β} {b : β} :
    x.map f = .ok b ↔ ∃ a, x = .ok a ∧ f a = b := by
  cases x <;> simp [Except.map]

theorem map_eq_error {x : Except ε α} {f : α → β} {e : ε} : x.map f = .error e ↔ x = .error e := by
  cases x <;> simp [Except.map]

theorem mapError_eq_ok {x : Except ε α} {f : ε → δ} {a : α} :
    x.mapError f = .ok a ↔ x = .ok a := by
  cases x <;> constructor <;> intro h <;> cases h <;> rfl

theorem pure_eq_ok {a b : α} : (pure a : Except ε α) = .ok b ↔ a = b := by
  simp [pure, Except.pure]

/-- Whatever comes of a fallible computation has a property. -/
def Yields (x : Except ε α) (p : α → Prop) : Prop := ∀ a, x = .ok a → p a

namespace Yields

variable {x : Except ε α} {f : α → Except ε β} {p : α → Prop} {q : β → Prop}

theorem pure {a : α} (h : p a) : Yields (Pure.pure a : Except ε α) p := by
  intro b hb
  exact pure_eq_ok.1 hb ▸ h

theorem throw {e : ε} : Yields (throw e : Except ε α) p := by
  intro a ha
  simp [MonadExcept.throw, throwThe, MonadExceptOf.throw] at ha

/-- What is known of the first step may be used of the second. -/
theorem bind_of (hx : Yields x p) (hf : ∀ a, p a → Yields (f a) q) : Yields (x >>= f) q := by
  intro b hb
  obtain ⟨a, ha, hfa⟩ := bind_eq_ok.1 hb
  exact hf a (hx a ha) b hfa

theorem bind (hf : ∀ a, Yields (f a) q) : Yields (x >>= f) q :=
  bind_of (fun _ _ => trivial) fun a (_ : True) => hf a

theorem mapM {f : α → Except ε β} (h : ∀ a, Yields (f a) q) (items : List α) :
    Yields (items.mapM f) fun results => ∀ b ∈ results, q b := by
  induction items with
  | nil => exact .pure (by simp)
  | cons a items ih =>
    rw [List.mapM_cons]
    refine .bind_of (h a) fun b hb => .bind_of ih fun results hresults => .pure ?_
    simpa [hb] using hresults

end Yields

/-- Whatever error a fallible computation ends in has a property. -/
def FailsWith (x : Except ε α) (p : ε → Prop) : Prop := ∀ e, x = .error e → p e

namespace FailsWith

variable {x : Except ε α} {f : α → Except ε β} {p : ε → Prop} {q : δ → Prop}

theorem pure (a : α) : FailsWith (Pure.pure a : Except ε α) p := by
  intro e he
  cases he

/-- The step behind one that came to a result may use what is known of it. -/
theorem bind_of {r : α → Prop} (hx : FailsWith x p) (hr : Yields x r)
    (hf : ∀ a, r a → FailsWith (f a) p) : FailsWith (x >>= f) p := by
  intro e he
  cases x with
  | error e' => exact hx e (congrArg Except.error (Except.error.inj he))
  | ok a => exact hf a (hr a rfl) e he

theorem bind (hx : FailsWith x p) (hf : ∀ a, FailsWith (f a) p) : FailsWith (x >>= f) p :=
  hx.bind_of (r := fun _ => True) (fun _ _ => trivial) fun a _ => hf a

theorem map (g : α → β) (hx : FailsWith x p) : FailsWith (x.map g) p := fun e he =>
  hx e (map_eq_error.1 he)

theorem mapError {g : ε → δ} (hx : FailsWith x fun e => q (g e)) : FailsWith (x.mapError g) q := by
  intro e he
  cases x with
  | error e' => exact Except.error.inj he ▸ hx e' rfl
  | ok a => cases he

theorem mapM (hf : ∀ a, FailsWith (f a) p) (items : List α) : FailsWith (items.mapM f) p := by
  induction items with
  | nil => exact .pure []
  | cons a items ih =>
    rw [List.mapM_cons]
    exact (hf a).bind fun b => ih.bind fun bs => .pure (b :: bs)

end FailsWith

end TableAudit
