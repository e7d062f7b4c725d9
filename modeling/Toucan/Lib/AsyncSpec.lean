import Toucan.Lib.Async

/-!
# Toucan.Lib.AsyncSpec

Specifications of asynchronous methods, whatever the environment answers.
`Meets I Q` says of what is left of a method, after the answers so far, that `I`
holds at every await it comes to and `Q` where it ends.

The rules `meets_*` take a specification through a method from its first link to
its last; `onOk` is what a link has to establish for those that follow.
`Meets.runOn` and `Meets.of_returned` apply a specification to a run.  `Ensures I Q`
is for a method that starts a trace of its own: what it does does not depend on what
was answered before it.
-/

namespace Toucan

variable {σ ε ρ ω : Type} {Op : Type} {Ans : Op → Type} {α β : Type}

/-- What the environment answered, the latest last. -/
abbrev Trace {Op : Type} (Ans : Op → Type) := List ((op : Op) × Ans op)

/-- `I` holds at every await to come and `Q` at the end. -/
def Resumption.Meets (I : Trace Ans → Op → σ → Prop) (Q : Trace Ans → Outcome σ ρ → Prop) :
    Resumption σ ρ Ans → Trace Ans → Prop
  | .done result s, tr => Q tr (.returned result s)
  | .await op s k, tr => I tr op s ∧ ∀ a, (k a).Meets I Q (tr ++ [⟨op, a⟩])
  | .panicked s, tr => Q tr (.panicked s)

/-- Less is said at every await and at the end. -/
theorem Resumption.Meets.mono {I J : Trace Ans → Op → σ → Prop}
    {P Q : Trace Ans → Outcome σ ρ → Prop} (hI : ∀ tr op s, I tr op s → J tr op s)
    (hQ : ∀ tr o, P tr o → Q tr o) {r : Resumption σ ρ Ans} {tr : Trace Ans}
    (h : r.Meets I P tr) : r.Meets J Q tr := by
  induction r generalizing tr with
  | done result s => exact hQ tr _ h
  | panicked s => exact hQ tr _ h
  | await op s k ih => exact ⟨hI tr op s h.1, fun a => ih a (h.2 a)⟩

/-- The resumption goes on with an answer to the operation it awaits. -/
def Resumption.answer [DecidableEq Op] (op : Op) (a : Ans op) :
    Resumption σ ρ Ans → Option (Resumption σ ρ Ans)
  | .await op' _ k => if h : op = op' then some (k (h ▸ a)) else none
  | .done _ _ => none
  | .panicked _ => none

theorem Resumption.answer_eq_some [DecidableEq Op] {op : Op} {a : Ans op}
    {r r' : Resumption σ ρ Ans} (h : r.answer op a = some r') :
    ∃ s k, r = .await op s k ∧ r' = k a := by
  cases r with
  | done result s => contradiction
  | panicked s => contradiction
  | await op' s k =>
      by_cases hop : op = op'
      · subst hop
        rw [answer, dif_pos rfl, Option.some.injEq] at h
        exact ⟨s, k, rfl, h.symm⟩
      · rw [answer, dif_neg hop] at h
        contradiction

namespace Async

/-- What is left of a method called now. -/
def Meets (I : Trace Ans → Op → σ → Prop) (Q : Trace Ans → Outcome σ (Except ε α) → Prop)
    (m : Async σ ε Ans α) (tr : Trace Ans) (s : σ) : Prop :=
  (m s).Meets I Q tr

/-- `P` where a link returns a value, and `Q` where it ends the whole chain. -/
def onOk (P : Trace Ans → α → σ → Prop) (Q : Trace Ans → Outcome σ (Except ε β) → Prop)
    (tr : Trace Ans) : Outcome σ (Except ε α) → Prop
  | .returned (.ok a) s => P tr a s
  | .returned (.error e) s => Q tr (.returned (.error e) s)
  | .pending s => Q tr (.pending s)
  | .panicked s => Q tr (.panicked s)

section Rules

variable {I : Trace Ans → Op → σ → Prop} {tr : Trace Ans} {s : σ}

section OnOk

variable {P : Trace Ans → α → σ → Prop} {Q : Trace Ans → Outcome σ (Except ε β) → Prop}

@[simp] theorem onOk_ok (a : α) : onOk P Q tr (.returned (.ok a) s) ↔ P tr a s := Iff.rfl

@[simp] theorem onOk_error (e : ε) :
    onOk P Q tr (.returned (.error e) s) ↔ Q tr (.returned (.error e) s) := Iff.rfl

end OnOk

variable {Q : Trace Ans → Outcome σ (Except ε α) → Prop}

@[simp] theorem meets_pure (a : α) :
    Meets I Q (pure a) tr s ↔ Q tr (.returned (.ok a) s) := Iff.rfl

@[simp] theorem meets_fail (e : ε) :
    Meets I Q (fail e) tr s ↔ Q tr (.returned (.error e) s) := Iff.rfl

@[simp] theorem meets_gets (f : σ → α) :
    Meets I Q (gets f) tr s ↔ Q tr (.returned (.ok (f s)) s) := Iff.rfl

@[simp] theorem meets_modify {Q : Trace Ans → Outcome σ (Except ε Unit) → Prop} (f : σ → σ) :
    Meets I Q (modify f) tr s ↔ Q tr (.returned (.ok ()) (f s)) := Iff.rfl

/-- A method that awaits nothing. -/
theorem meets_of_done {m : Async σ ε Ans α} {r : Except ε α} {s' : σ} (h : m s = .done r s') :
    Meets I Q m tr s ↔ Q tr (.returned r s') := by
  rw [Meets, h]
  exact Iff.rfl

@[simp] theorem meets_ofExcept (r : Except ε α) :
    Meets I Q (ofExcept r) tr s ↔ Q tr (.returned r s) := by
  cases r with
  | ok a => exact Iff.rfl
  | error e => exact Iff.rfl

/-- **Chain rule**: the first link has to end where the rest of the chain meets the
specification. -/
@[simp] theorem meets_bind {Q : Trace Ans → Outcome σ (Except ε β) → Prop} {m : Async σ ε Ans α}
    {k : α → Async σ ε Ans β} :
    Meets I Q (m >>= k) tr s ↔
      Meets I (onOk (fun tr a s => Meets I Q (k a) tr s) Q) m tr s := by
  show ((m s).andThen k).Meets I Q tr ↔ (m s).Meets I _ tr
  induction m s generalizing tr with
  | done result s =>
      cases result with
      | ok a => exact Iff.rfl
      | error e => exact Iff.rfl
  | panicked s => exact Iff.rfl
  | await op s k' ih => exact and_congr_right fun _ => forall_congr' fun a => ih a

/-! The chain rule for links that end at once. -/

section First

variable {P : Trace Ans → Outcome σ (Except ε β) → Prop}

theorem meets_await_bind {op : Op} {k : Ans op → Async σ ε Ans β} :
    Meets I P (await op >>= k) tr s ↔ I tr op s ∧ ∀ a, Meets I P (k a) (tr ++ [⟨op, a⟩]) s :=
  Iff.rfl

theorem meets_gets_bind {f : σ → α} {k : α → Async σ ε Ans β} :
    Meets I P (gets f >>= k) tr s ↔ Meets I P (k (f s)) tr s := Iff.rfl

theorem meets_modify_bind {f : σ → σ} {k : Unit → Async σ ε Ans β} :
    Meets I P (modify f >>= k) tr s ↔ Meets I P (k ()) tr (f s) := Iff.rfl

theorem meets_ofOption_bind {a : α} {k : α → Async σ ε Ans β} :
    Meets I P (ofOption (some a) >>= k) tr s ↔ Meets I P (k a) tr s := Iff.rfl

end First

/-- What a result that is looked at has to satisfy. -/
def onResult (Q : Trace Ans → Outcome σ (Except ε (Except ε α)) → Prop) (tr : Trace Ans) :
    Outcome σ (Except ε α) → Prop
  | .returned r s => Q tr (.returned (.ok r) s)
  | .pending s => Q tr (.pending s)
  | .panicked s => Q tr (.panicked s)

@[simp] theorem meets_attempt {Q : Trace Ans → Outcome σ (Except ε (Except ε α)) → Prop}
    {m : Async σ ε Ans α} : Meets I Q (attempt m) tr s ↔ Meets I (onResult Q) m tr s := by
  show ((m s).attempt).Meets I Q tr ↔ (m s).Meets I _ tr
  induction m s generalizing tr with
  | done result s => exact Iff.rfl
  | panicked s => exact Iff.rfl
  | await op s k ih => exact and_congr_right fun _ => forall_congr' fun a => ih a

theorem Meets.mono {J : Trace Ans → Op → σ → Prop}
    {P Q : Trace Ans → Outcome σ (Except ε α) → Prop} {m : Async σ ε Ans α}
    (h : Meets I P m tr s) (hI : ∀ tr op s, I tr op s → J tr op s)
    (hQ : ∀ tr o, P tr o → Q tr o) : Meets J Q m tr s :=
  Resumption.Meets.mono hI hQ h

/-- **Loop rule**: `J` counts the turns to go, and a turn that returns keeps it. -/
theorem meets_times {Q : Trace Ans → Outcome σ (Except ε Unit) → Prop}
    {J : Nat → Trace Ans → σ → Prop} {body : Async σ ε Ans Unit}
    (hbody : ∀ n tr s, J (n + 1) tr s → Meets I (onOk (fun tr _ s => J n tr s) Q) body tr s)
    (hdone : ∀ tr s, J 0 tr s → Q tr (.returned (.ok ()) s)) {n : Nat} (hJ : J n tr s) :
    Meets I Q (times n body) tr s := by
  induction n generalizing tr s with
  | zero => exact hdone tr s hJ
  | succ n ih =>
      rw [times, meets_bind]
      refine (hbody n tr s hJ).mono (fun _ _ _ h => h) fun tr o ho => ?_
      cases o with
      | returned result s =>
          cases result with
          | ok a => exact ih ho
          | error e => exact ho
      | pending s => exact ho
      | panicked s => exact ho

end Rules

end Async

/-! ## Traces of their own -/

/-- What was answered before makes no difference. -/
theorem Resumption.meets_append {I : Trace Ans → Op → σ → Prop}
    {Q : Trace Ans → Outcome σ ρ → Prop} {r : Resumption σ ρ Ans} {before tr : Trace Ans} :
    r.Meets I Q (before ++ tr) ↔
      r.Meets (fun tr => I (before ++ tr)) (fun tr => Q (before ++ tr)) tr := by
  induction r generalizing tr with
  | done result s => exact Iff.rfl
  | panicked s => exact Iff.rfl
  | await op s k ih =>
      apply and_congr_right
      intro _
      apply forall_congr'
      intro a
      rw [List.append_assoc]
      exact ih a

namespace Async

/-- `Q` where a method returns. -/
def onReturn (Q : Trace Ans → Except ε α → σ → Prop) (tr : Trace Ans) :
    Outcome σ (Except ε α) → Prop
  | .returned r s => Q tr r s
  | _ => True

/-- Started on `s`, whatever is answered: `I` at every await, and `Q` where it returns, of
what has been answered since. -/
def Ensures (I : Trace Ans → Op → σ → Prop) (Q : Trace Ans → Except ε α → σ → Prop)
    (m : Async σ ε Ans α) (s : σ) : Prop :=
  Meets I (onReturn Q) m [] s

section Ensures

variable {I : Trace Ans → Op → σ → Prop} {P : Trace Ans → Except ε α → σ → Prop}
  {Q : Trace Ans → Except ε β → σ → Prop} {m : Async σ ε Ans α} {k : α → Async σ ε Ans β} {s : σ}

theorem Ensures.of_done {r : Except ε α} {s' : σ} (h : m s = .done r s') (hP : P [] r s') :
    Ensures I P m s :=
  (meets_of_done h).mpr hP

theorem Ensures.of_panicked {s' : σ} (h : m s = .panicked s') : Ensures I P m s := by
  show (m s).Meets I (onReturn P) []
  rw [h]
  trivial

theorem ensures_pure {a : α} (h : P [] (.ok a) s) : Ensures I P (pure a) s := h

theorem ensures_ofExcept {r : Except ε α} (h : P [] r s) : Ensures I P (ofExcept r) s :=
  (meets_ofExcept r).mpr h

/-- A first link that ends at once. -/
theorem Ensures.bind_of_done {a : α} {s' : σ} (h : m s = .done (.ok a) s')
    (hk : Ensures I Q (k a) s') : Ensures I Q (m >>= k) s := by
  rw [Ensures, Meets, Async.bind_of_done h]
  exact hk

theorem Ensures.bind_of_error {e : ε} {s' : σ} (h : m s = .done (.error e) s')
    (hQ : Q [] (.error e) s') : Ensures I Q (m >>= k) s := by
  show ((m s).andThen k).Meets I (onReturn Q) []
  rw [h]
  exact hQ

theorem Ensures.bind_of_panicked {s' : σ} (h : m s = .panicked s') : Ensures I Q (m >>= k) s := by
  show ((m s).andThen k).Meets I (onReturn Q) []
  rw [h]
  trivial

theorem ensures_gets_bind {f : σ → α} : Ensures I Q (gets f >>= k) s ↔ Ensures I Q (k (f s)) s :=
  Iff.rfl

theorem Ensures.mono {J : Trace Ans → Op → σ → Prop} {P' : Trace Ans → Except ε α → σ → Prop}
    (h : Ensures I P m s) (hI : ∀ tr op s, I tr op s → J tr op s)
    (hP : ∀ tr r s, P tr r s → P' tr r s) : Ensures J P' m s := by
  apply Meets.mono h hI
  intro tr o ho
  cases o with
  | returned r s => exact hP tr r s ho
  | pending s => trivial
  | panicked s => trivial

/-- **Chain rule**: what the first link ensures is what the rest of the chain starts from. -/
theorem Ensures.bind (hm : Ensures I P m s)
    (hk : ∀ tr a s', P tr (.ok a) s' →
      Ensures (fun tr' => I (tr ++ tr')) (fun tr' => Q (tr ++ tr')) (k a) s')
    (herror : ∀ tr e s', P tr (.error e) s' → Q tr (.error e) s') : Ensures I Q (m >>= k) s := by
  rw [Ensures, meets_bind]
  apply Meets.mono hm fun _ _ _ h => h
  intro tr o ho
  cases o with
  | pending s => trivial
  | panicked s => trivial
  | returned r s' =>
      cases r with
      | error e => exact herror tr e s' ho
      | ok a =>
          have hrest := hk tr a s' ho
          have hends : onReturn (fun tr' => Q (tr ++ tr')) = fun tr' => onReturn Q (tr ++ tr') := by
            funext tr' o
            cases o <;> rfl
          rw [Ensures, Meets, hends] at hrest
          show (k a s').Meets I (onReturn Q) tr
          rw [← List.append_nil tr, Resumption.meets_append]
          exact hrest

/-- The chain rule for a link whose result is looked at. -/
theorem Ensures.attempt_bind {k : Except ε α → Async σ ε Ans β} (hm : Ensures I P m s)
    (hk : ∀ tr r s', P tr r s' →
      Ensures (fun tr' => I (tr ++ tr')) (fun tr' => Q (tr ++ tr')) (k r) s') :
    Ensures I Q (attempt m >>= k) s := by
  have hattempt : Ensures I (fun tr r s' => ∃ r', r = .ok r' ∧ P tr r' s') (attempt m) s := by
    rw [Ensures, meets_attempt]
    apply Meets.mono hm fun _ _ _ h => h
    intro tr o ho
    cases o with
    | returned r s => exact ⟨r, rfl, ho⟩
    | pending s => trivial
    | panicked s => trivial
  apply hattempt.bind
  · rintro tr r s' ⟨r', hr, hP⟩
    injection hr with hr
    rw [hr]
    exact hk tr r' s' hP
  · rintro tr e s' ⟨r', hr, -⟩
    contradiction

end Ensures

end Async

/-! ## Runs -/

/-- A run against any environment ends as the specification says, or waits for
good. -/
theorem Resumption.Meets.runOn {I : Trace Ans → Op → σ → Prop}
    {Q : Trace Ans → Outcome σ ρ → Prop} {r : Resumption σ ρ Ans} {tr : Trace Ans}
    (h : r.Meets I Q tr) (handler : Handler ω Ans) (w : ω) :
    (∃ s, (r.runOn handler w).1 = .pending s) ∨ ∃ tr', Q tr' (r.runOn handler w).1 := by
  induction r generalizing tr w with
  | done result s => exact Or.inr ⟨tr, h⟩
  | panicked s => exact Or.inr ⟨tr, h⟩
  | await op s k ih =>
      rw [Resumption.runOn]
      cases ha : handler op w with
      | none => exact Or.inl ⟨s, rfl⟩
      | some p => exact ih p.1 (h.2 p.1) p.2

theorem Async.Meets.of_returned {I : Trace Ans → Op → σ → Prop}
    {Q : Trace Ans → Outcome σ (Except ε α) → Prop} {m : Async σ ε Ans α} {tr : Trace Ans}
    (h : Meets I Q m tr s) {handler : Handler ω Ans} {r : Except ε α}
    (hrun : m.runOn handler s w = (.returned r s', w')) : ∃ tr', Q tr' (.returned r s') := by
  have hend := Resumption.Meets.runOn h handler w
  have hreturned : ((m s).runOn handler w).1 = .returned r s' := congrArg Prod.fst hrun
  rw [hreturned] at hend
  rcases hend with ⟨_, hpending⟩ | hq
  · contradiction
  · exact hq

end Toucan
