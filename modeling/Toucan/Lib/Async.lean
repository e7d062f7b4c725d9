/-!
# Toucan.Lib.Async

Asynchronous methods on a mutable receiver.  A `Resumption` is what is left of a
method: it has returned, it panicked, or it awaits an operation and goes on with
the answer.  The receiver is visible at every await point, since a caller can
drop the method there.

`Async σ ε α` is a method on a receiver `σ` that returns `α` or fails with `ε`;
sequencing is a chain of `.await?`.

`runOn` plays a resumption against an environment that answers the operations,
one after the other, or leaves one pending for good.  The rules `runOn_bind_*`
take a run through a chain link by link.
-/

namespace Toucan

/-- What is left of a method with operations `Op`, answered in `Ans`. -/
inductive Resumption (σ ρ : Type) {Op : Type} (Ans : Op → Type) where
  | done (result : ρ) (s : σ)
  | await (op : Op) (s : σ) (k : Ans op → Resumption σ ρ Ans)
  | panicked (s : σ)

/-- A method on `σ` that awaits operations and may fail. -/
def Async (σ ε : Type) {Op : Type} (Ans : Op → Type) (α : Type) :=
  σ → Resumption σ (Except ε α) Ans

variable {σ ε ω : Type} {Op : Type} {Ans : Op → Type} {α β : Type}

/-- Go on with `k` once the resumption returns a value. -/
def Resumption.andThen (k : α → σ → Resumption σ (Except ε β) Ans) :
    Resumption σ (Except ε α) Ans → Resumption σ (Except ε β) Ans
  | .done (.ok a) s => k a s
  | .done (.error e) s => .done (.error e) s
  | .await op s k' => .await op s fun a => (k' a).andThen k
  | .panicked s => .panicked s

/-- Hand the result over, whether it is a value or an error. -/
def Resumption.attempt {ε' : Type} :
    Resumption σ (Except ε α) Ans → Resumption σ (Except ε' (Except ε α)) Ans
  | .done r s => .done (.ok r) s
  | .await op s k => .await op s fun a => (k a).attempt
  | .panicked s => .panicked s

namespace Async

instance : Monad (Async σ ε Ans) where
  pure a := fun s => .done (.ok a) s
  bind m k := fun s => (m s).andThen k

/-- Await an operation. -/
def await (op : Op) : Async σ ε Ans (Ans op) := fun s => .await op s fun a => .done (.ok a) s

/-- Return early with an error. -/
def fail (e : ε) : Async σ ε Ans α := fun s => .done (.error e) s

def panic : Async σ ε Ans α := fun s => .panicked s

/-- Read from the receiver. -/
def gets (f : σ → α) : Async σ ε Ans α := fun s => .done (.ok (f s)) s

/-- Write to the receiver. -/
def modify (f : σ → σ) : Async σ ε Ans Unit := fun s => .done (.ok ()) (f s)

/-- The `?` on a result at hand. -/
def ofExcept : Except ε α → Async σ ε Ans α
  | .ok a => pure a
  | .error e => fail e

/-- A value whose absence is a panic. -/
def ofOption : Option α → Async σ ε Ans α
  | some a => pure a
  | none => panic

/-- The result of a method, looked at with `match`. -/
def attempt (m : Async σ ε Ans α) : Async σ ε Ans (Except ε α) := fun s => (m s).attempt

/-- The body of a `for` loop, `n` times. -/
def times : Nat → Async σ ε Ans Unit → Async σ ε Ans Unit
  | 0, _ => pure ()
  | n + 1, body => do
    body
    times n body

/-! ### Links that do not await -/

section Links

variable {m : Async σ ε Ans α} {k : α → Async σ ε Ans β} {s s' : σ}

theorem bind_of_done {a : α} (h : m s = .done (.ok a) s') : (m >>= k) s = k a s' := by
  show (m s).andThen k = _
  rw [h]
  rfl

theorem gets_bind (f : σ → α) (s : σ) : (gets f >>= k) s = k (f s) s := rfl

theorem modify_bind {k : Unit → Async σ ε Ans β} (f : σ → σ) (s : σ) :
    (modify f >>= k) s = k () (f s) := rfl

theorem ofOption_some_bind (a : α) (s : σ) : (ofOption (some a) >>= k) s = k a s := rfl

end Links

end Async

/-! ## Running against an environment -/

/-- How a run ends: the method returned, panicked, or waits for good. -/
inductive Outcome (σ ρ : Type) where
  | returned (result : ρ) (s : σ)
  | pending (s : σ)
  | panicked (s : σ)
deriving DecidableEq

/-- An environment in state `ω` answers an operation, or never does. -/
abbrev Handler (ω : Type) {Op : Type} (Ans : Op → Type) := (op : Op) → ω → Option (Ans op × ω)

def Resumption.runOn (h : Handler ω Ans) : Resumption σ α Ans → ω → Outcome σ α × ω
  | .done result s, w => (.returned result s, w)
  | .await op s k, w =>
    match h op w with
    | some (a, w') => (k a).runOn h w'
    | none => (.pending s, w)
  | .panicked s, w => (.panicked s, w)

namespace Async

/-- The run of a method from a receiver and an environment. -/
def runOn (m : Async σ ε Ans α) (h : Handler ω Ans) (s : σ) (w : ω) :
    Outcome σ (Except ε α) × ω :=
  (m s).runOn h w

variable {h : Handler ω Ans}

@[simp] theorem runOn_pure (a : α) (s : σ) (w : ω) :
    (pure a : Async σ ε Ans α).runOn h s w = (.returned (.ok a) s, w) := rfl

@[simp] theorem runOn_fail (e : ε) (s : σ) (w : ω) :
    (fail e : Async σ ε Ans α).runOn h s w = (.returned (.error e) s, w) := rfl

@[simp] theorem runOn_panic (s : σ) (w : ω) :
    (panic : Async σ ε Ans α).runOn h s w = (.panicked s, w) := rfl

@[simp] theorem runOn_gets (f : σ → α) (s : σ) (w : ω) :
    (gets f : Async σ ε Ans α).runOn h s w = (.returned (.ok (f s)) s, w) := rfl

@[simp] theorem runOn_modify (f : σ → σ) (s : σ) (w : ω) :
    (modify f : Async σ ε Ans Unit).runOn h s w = (.returned (.ok ()) (f s), w) := rfl

@[simp] theorem runOn_ofExcept (r : Except ε α) (s : σ) (w : ω) :
    (ofExcept r : Async σ ε Ans α).runOn h s w = (.returned r s, w) := by
  cases r with
  | ok a => exact runOn_pure a s w
  | error e => exact runOn_fail e s w

@[simp] theorem runOn_ofOption_some (a : α) (s : σ) (w : ω) :
    (ofOption (some a) : Async σ ε Ans α).runOn h s w = (.returned (.ok a) s, w) :=
  runOn_pure a s w

@[simp] theorem runOn_ofOption_none (s : σ) (w : ω) :
    (ofOption none : Async σ ε Ans α).runOn h s w = (.panicked s, w) :=
  runOn_panic s w

theorem runOn_await_of_some {op : Op} {a : Ans op} {w w' : ω} (ha : h op w = some (a, w')) (s : σ) :
    (await op : Async σ ε Ans (Ans op)).runOn h s w = (.returned (.ok a) s, w') := by
  simp [runOn, await, Resumption.runOn, ha]

theorem runOn_await_of_none {op : Op} (ha : h op w = none) (s : σ) :
    (await op : Async σ ε Ans (Ans op)).runOn h s w = (.pending s, w) := by
  simp [runOn, await, Resumption.runOn, ha]

theorem runOn_of_done {m : Async σ ε Ans α} {r : Except ε α} (hm : m s = .done r s') (w : ω) :
    m.runOn h s w = (.returned r s', w) := by
  rw [runOn, hm]
  rfl

/-- What becomes of a run when the method is followed by `k`. -/
def follow (h : Handler ω Ans) (k : α → Async σ ε Ans β) :
    Outcome σ (Except ε α) × ω → Outcome σ (Except ε β) × ω
  | (.returned (.ok a) s, w) => (k a).runOn h s w
  | (.returned (.error e) s, w) => (.returned (.error e) s, w)
  | (.pending s, w) => (.pending s, w)
  | (.panicked s, w) => (.panicked s, w)

theorem runOn_andThen (k : α → Async σ ε Ans β) (r : Resumption σ (Except ε α) Ans) (w : ω) :
    (r.andThen k).runOn h w = follow h k (r.runOn h w) := by
  induction r generalizing w with
  | done result s =>
      cases result with
      | ok a => rfl
      | error e => rfl
  | panicked s => rfl
  | await op s k' ih =>
      simp only [Resumption.andThen, Resumption.runOn]
      cases ha : h op w with
      | none => rfl
      | some r => exact ih r.1 r.2

/-- **Chain rule**: a run of a chain is a run of its first link, followed by the
rest. -/
theorem runOn_bind (m : Async σ ε Ans α) (k : α → Async σ ε Ans β) (s : σ) (w : ω) :
    (m >>= k).runOn h s w = follow h k (m.runOn h s w) :=
  runOn_andThen k (m s) w

theorem runOn_bind_of_ok {m : Async σ ε Ans α} {k : α → Async σ ε Ans β}
    (hm : m.runOn h s w = (.returned (.ok a) s', w')) :
    (m >>= k).runOn h s w = (k a).runOn h s' w' := by
  rw [runOn_bind, hm]
  rfl

theorem runOn_bind_of_error {m : Async σ ε Ans α} {k : α → Async σ ε Ans β}
    (hm : m.runOn h s w = (.returned (.error e) s', w')) :
    (m >>= k).runOn h s w = (.returned (.error e) s', w') := by
  rw [runOn_bind, hm]
  rfl

theorem runOn_bind_of_pending {m : Async σ ε Ans α} {k : α → Async σ ε Ans β}
    (hm : m.runOn h s w = (.pending s', w')) :
    (m >>= k).runOn h s w = (.pending s', w') := by
  rw [runOn_bind, hm]
  rfl

theorem runOn_bind_of_panicked {m : Async σ ε Ans α} {k : α → Async σ ε Ans β}
    (hm : m.runOn h s w = (.panicked s', w')) :
    (m >>= k).runOn h s w = (.panicked s', w') := by
  rw [runOn_bind, hm]
  rfl

/-- What becomes of a run when its result is looked at. -/
def lookAt : Outcome σ (Except ε α) × ω → Outcome σ (Except ε (Except ε α)) × ω
  | (.returned r s, w) => (.returned (.ok r) s, w)
  | (.pending s, w) => (.pending s, w)
  | (.panicked s, w) => (.panicked s, w)

theorem runOn_attempt (m : Async σ ε Ans α) (s : σ) (w : ω) :
    (attempt m).runOn h s w = lookAt (m.runOn h s w) := by
  show ((m s).attempt).runOn h w = lookAt ((m s).runOn h w)
  induction m s generalizing w with
  | done result s => rfl
  | panicked s => rfl
  | await op s k ih =>
      simp only [Resumption.attempt, Resumption.runOn]
      cases ha : h op w with
      | none => rfl
      | some p => exact ih p.1 p.2

theorem runOn_attempt_of_returned {m : Async σ ε Ans α} {r : Except ε α}
    (hm : m.runOn h s w = (.returned r s', w')) :
    (attempt m).runOn h s w = (.returned (.ok r) s', w') := by
  rw [runOn_attempt, hm]
  rfl

end Async

end Toucan
