/-!
# Toucan.Lib.Method

Fallible methods on a mutable receiver: a `Method σ ε α` runs on a state `σ`,
returns a value or an error, and leaves a state in both cases.  Sequencing stops
at the first error and keeps what was written up to there, which is a chain of
`&mut self` calls joined by `?`.

Three kinds of facts are carried through such chains:

* `Keeps f m` -- `m` leaves the field `f` alone, whether it fails or not;
* `Raises flag m` -- started with `flag` lowered, `m` ends with `flag` raised
  exactly when it succeeds;
* `Tells flag m` -- the same from any start.
-/

namespace Toucan

universe u v w x

/-- A method on a receiver of type `σ` with errors `ε` and results `α`. -/
def Method (σ : Type u) (ε : Type v) (α : Type w) := σ → Except ε α × σ

namespace Method

variable {σ : Type u} {ε : Type v} {α β : Type w} {τ : Type x}

/-- The early return of `?`: the next method runs only after a success. -/
protected def bind (m : Method σ ε α) (k : α → Method σ ε β) : Method σ ε β := fun s =>
  match m s with
  | (.ok a, s') => k a s'
  | (.error e, s') => (.error e, s')

instance : Monad (Method σ ε) where
  pure a := fun s => (.ok a, s)
  bind := Method.bind

/-- A plain assignment to the receiver. -/
def assign (f : σ → σ) : Method σ ε PUnit := fun s => (.ok ⟨⟩, f s)

@[simp] theorem assign_apply (f : σ → σ) (s : σ) :
    (assign f : Method σ ε PUnit) s = (.ok ⟨⟩, f s) := rfl

theorem bind_of_ok {m : Method σ ε α} {k : α → Method σ ε β} (h : m s = (.ok a, s')) :
    (m >>= k) s = k a s' := by
  simp [Bind.bind, Method.bind, h]

theorem bind_of_error {m : Method σ ε α} {k : α → Method σ ε β} (h : m s = (.error e, s')) :
    (m >>= k) s = (.error e, s') := by
  simp [Bind.bind, Method.bind, h]

theorem bind_assoc {γ : Type w} (m : Method σ ε α) (k : α → Method σ ε β) (l : β → Method σ ε γ) :
    m >>= k >>= l = m >>= fun a => k a >>= l := by
  funext s
  cases h : m s with
  | mk r s' =>
      cases r with
      | ok a =>
          have hk : (m >>= k) s = k a s' := bind_of_ok h
          rw [bind_of_ok h]
          simp only [Bind.bind, Method.bind] at hk ⊢
          rw [hk]
      | error e => rw [bind_of_error h, bind_of_error (bind_of_error h)]

/-! ## Untouched fields -/

/-- `m` leaves the field `f` as it was, on success and on failure. -/
def Keeps (f : σ → τ) (m : Method σ ε α) : Prop := ∀ s, f (m s).2 = f s

theorem Keeps.pure (f : σ → τ) (a : α) : Keeps f (pure a : Method σ ε α) := fun _ => rfl

/-! ## Flags that tell success -/

/-- Started with `flag` lowered, `m` raises it exactly when it succeeds. -/
def Raises (flag : σ → Bool) (m : Method σ ε α) : Prop :=
  ∀ s, flag s = false → flag (m s).2 = (m s).1.isOk

/-- After `m`, from any start, `flag` is raised exactly when `m` succeeded. -/
def Tells (flag : σ → Bool) (m : Method σ ε α) : Prop :=
  ∀ s, flag (m s).2 = (m s).1.isOk

/-- A method that only raises the flag. -/
theorem Raises.of_set {flag : σ → Bool} {m : Method σ ε α}
    (h : ∀ s, (m s).1.isOk = true ∧ flag (m s).2 = true) : Raises flag m :=
  fun s _ => (h s).2.trans (h s).1.symm

/-- A link of the chain that may fail but leaves the flag alone. -/
theorem Raises.bind {flag : σ → Bool} {m : Method σ ε α} {k : α → Method σ ε β}
    (hm : Keeps flag m) (hk : ∀ a, Raises flag (k a)) : Raises flag (m >>= k) := by
  intro s hs
  cases h : m s with
  | mk r s' =>
      have hs' : flag s' = false := by simpa [h, hs] using hm s
      cases r with
      | ok a => rw [bind_of_ok h]; exact hk a s' hs'
      | error e => rw [bind_of_error h]; exact hs'

/-- What follows the raise and can neither fail nor touch the flag. -/
theorem Raises.bind_assign {flag : σ → Bool} {m : Method σ ε α} {g : σ → σ}
    (hm : Raises flag m) (hg : ∀ s, flag (g s) = flag s) :
    Raises flag (m >>= fun _ => (Method.assign g : Method σ ε PUnit)) := by
  intro s hs
  have hr := hm s hs
  cases h : m s with
  | mk r s' =>
      rw [h] at hr
      cases r with
      | ok a => rw [bind_of_ok h]; simpa [hg, Except.isOk, Except.toBool] using hr
      | error e => rw [bind_of_error h]; exact hr

/-- Lowering the flag first turns `Raises` into `Tells`. -/
theorem Tells.of_lower {flag : σ → Bool} {m : Method σ ε α} {k : α → Method σ ε β}
    (hm : ∀ s, ∃ a s', m s = (.ok a, s') ∧ flag s' = false) (hk : ∀ a, Raises flag (k a)) :
    Tells flag (m >>= k) := by
  intro s
  obtain ⟨a, s', h, hs'⟩ := hm s
  rw [bind_of_ok h]
  exact hk a s' hs'

/-- An assignment in front changes nothing about telling. -/
theorem Tells.assign_bind {flag : σ → Bool} {g : σ → σ} {k : PUnit → Method σ ε β}
    (hk : ∀ a, Tells flag (k a)) : Tells flag (Method.assign g >>= k) :=
  fun s => hk ⟨⟩ (g s)

end Method

end Toucan
