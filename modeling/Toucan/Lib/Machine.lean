/-!
# Toucan.Lib.Machine

Input/output machines: a partial `step` takes a state and an input to the next
state and the outputs of that step.  An input that the state cannot take gives
`none`, so a run is a list of inputs every one of which was taken.

Two ways to speak about whole runs:

* `run` -- the final state and all outputs of a run;
* `Along` -- a step property that holds at every step of a run.

The rules that carry a step lemma to a run (`run_invariant`, `run_isSome_iff`,
`along_of_invariant`, `along_of_along`, `along_iff_along`) are proved once here.
`withHistory` adds a history variable, which observes the machine and nothing
else; `guard` keeps the inputs of an environment that promises something.
-/

namespace Toucan

universe u v w x

/-- A machine: `step s i` is the state after input `i` and the outputs of the
step, or `none` when `i` cannot be taken in `s`. -/
structure Machine (σ : Type u) (ι : Type v) (ο : Type w) where
  step : σ → ι → Option (σ × List ο)

namespace Machine

variable {σ : Type u} {ι : Type v} {ο : Type w} {γ : Type x}

/-! ## Runs -/

/-- Final state and outputs of the run on `is`, `none` when an input is refused. -/
def run (m : Machine σ ι ο) : σ → List ι → Option (σ × List ο)
  | s, [] => some (s, [])
  | s, i :: is =>
    match m.step s i with
    | none => none
    | some (s', os) => (m.run s' is).map fun r => (r.1, os ++ r.2)

@[simp] theorem run_nil (m : Machine σ ι ο) (s : σ) : m.run s [] = some (s, []) := rfl

/-- A run on `i :: is` is a step and a run from where the step leads. -/
theorem run_cons_eq_some {m : Machine σ ι ο} :
    m.run s (i :: is) = some (t, ps) ↔
      ∃ s' os qs, m.step s i = some (s', os) ∧ m.run s' is = some (t, qs) ∧ ps = os ++ qs := by
  cases h : m.step s i with
  | none => simp [run, h]
  | some p =>
      obtain ⟨s', os⟩ := p
      simp only [run, h, Option.map_eq_some_iff, Prod.mk.injEq, Option.some.injEq]
      constructor
      · rintro ⟨⟨t', qs⟩, hr, rfl, rfl⟩
        exact ⟨s', os, qs, ⟨rfl, rfl⟩, hr, rfl⟩
      · rintro ⟨_, _, qs, ⟨rfl, rfl⟩, hr, rfl⟩
        exact ⟨(t, qs), hr, rfl, rfl⟩

/-- **Run rule**: a property of the outputs so far and the state that holds at
the start and is kept by every step holds after every run. -/
theorem run_invariant {m : Machine σ ι ο} {I : List ο → σ → Prop}
    (hstep : ∀ ps s i s' os, I ps s → m.step s i = some (s', os) → I (ps ++ os) s')
    (h0 : I ps s) (hr : m.run s is = some (t, os)) : I (ps ++ os) t := by
  induction is generalizing s ps os with
  | nil =>
      simp only [run_nil, Option.some.injEq, Prod.mk.injEq] at hr
      obtain ⟨rfl, rfl⟩ := hr
      simpa using h0
  | cons i is ih =>
      obtain ⟨s', os', qs, hs, hr', rfl⟩ := run_cons_eq_some.mp hr
      have h1 : I (ps ++ os') s' := hstep ps s i s' os' h0 hs
      simpa [List.append_assoc] using ih h1 hr'

/-- **Progress rule**: where an invariant state takes exactly the inputs `C`, a
run goes through exactly when all its inputs are of that kind. -/
theorem run_isSome_iff {m : Machine σ ι ο} {C : ι → Prop} {I : σ → Prop}
    (htakes : ∀ s i, I s → ((m.step s i).isSome = true ↔ C i))
    (hkeep : ∀ s i s' os, I s → m.step s i = some (s', os) → I s') (h0 : I s) :
    (m.run s is).isSome = true ↔ ∀ i ∈ is, C i := by
  induction is generalizing s with
  | nil => simp
  | cons i is ih =>
      rw [List.forall_mem_cons, ← htakes s i h0]
      cases hs : m.step s i with
      | none => simp [run, hs]
      | some p =>
          obtain ⟨s', os⟩ := p
          have hI : I s' := hkeep s i s' os h0 hs
          simp [run, hs, ih hI]

/-! ## Step properties along a run -/

/-- `Q` holds at every step of the run from `s` on `is` (a refused input ends
the run). -/
def Along (m : Machine σ ι ο) (Q : σ → ι → List ο → σ → Prop) : σ → List ι → Prop
  | _, [] => True
  | s, i :: is =>
    match m.step s i with
    | none => True
    | some (s', os) => Q s i os s' ∧ m.Along Q s' is

@[simp] theorem along_nil (m : Machine σ ι ο) (Q : σ → ι → List ο → σ → Prop) (s : σ) :
    m.Along Q s [] := trivial

theorem along_cons_of_step {m : Machine σ ι ο} {Q : σ → ι → List ο → σ → Prop}
    (h : m.step s i = some (s', os)) :
    m.Along Q s (i :: is) ↔ Q s i os s' ∧ m.Along Q s' is := by
  simp [Along, h]

theorem along_cons_of_refused {m : Machine σ ι ο} {Q : σ → ι → List ο → σ → Prop}
    (h : m.step s i = none) : m.Along Q s (i :: is) := by
  simp [Along, h]

/-- **Transfer rule**: if along every step from a state of the invariant `I` the
property `C` of the step gives `Q` and keeps `I`, then a run whose steps all
satisfy `C` satisfies `Q` at every step. -/
theorem along_of_along {m : Machine σ ι ο} {C Q : σ → ι → List ο → σ → Prop} {I : σ → Prop}
    (hstep : ∀ s i s' os, I s → m.step s i = some (s', os) → C s i os s' → Q s i os s' ∧ I s')
    (h0 : I s) (hC : m.Along C s is) : m.Along Q s is := by
  induction is generalizing s with
  | nil => exact along_nil m Q s
  | cons i is ih =>
      cases hs : m.step s i with
      | none => exact along_cons_of_refused hs
      | some p =>
          obtain ⟨s', os⟩ := p
          obtain ⟨hc, hC'⟩ := (along_cons_of_step hs).mp hC
          obtain ⟨hq, hI⟩ := hstep s i s' os h0 hs hc
          exact (along_cons_of_step hs).mpr ⟨hq, ih hI hC'⟩

theorem along_true (m : Machine σ ι ο) (s : σ) (is : List ι) :
    m.Along (fun _ _ _ _ => True) s is := by
  induction is generalizing s with
  | nil => exact along_nil m _ s
  | cons i is ih =>
      cases hs : m.step s i with
      | none => exact along_cons_of_refused hs
      | some p => exact (along_cons_of_step hs).mpr ⟨trivial, ih p.1⟩

/-- **Invariant rule**: the transfer rule for runs under no condition. -/
theorem along_of_invariant {m : Machine σ ι ο} {Q : σ → ι → List ο → σ → Prop} {I : σ → Prop}
    (hstep : ∀ s i s' os, I s → m.step s i = some (s', os) → Q s i os s' ∧ I s')
    (h0 : I s) : m.Along Q s is :=
  along_of_along (fun s i s' os hI hs _ => hstep s i s' os hI hs) h0 (along_true m s is)

/-- **Equivalence rule**: `Q` and `C` agree on every step from a state of `I`,
and `Q` keeps `I`; then a run satisfies one at every step exactly when it
satisfies the other. -/
theorem along_iff_along {m : Machine σ ι ο} {C Q : σ → ι → List ο → σ → Prop} {I : σ → Prop}
    (hiff : ∀ s i s' os, I s → m.step s i = some (s', os) → (Q s i os s' ↔ C s i os s'))
    (hkeep : ∀ s i s' os, I s → m.step s i = some (s', os) → Q s i os s' → I s')
    (h0 : I s) : m.Along Q s is ↔ m.Along C s is := by
  constructor
  · exact along_of_along (fun s i s' os hI hs hq =>
      ⟨(hiff s i s' os hI hs).mp hq, hkeep s i s' os hI hs hq⟩) h0
  · refine along_of_along (fun s i s' os hI hs hc => ?_) h0
    have hq := (hiff s i s' os hI hs).mpr hc
    exact ⟨hq, hkeep s i s' os hI hs hq⟩

/-- A state property that holds at the start and after every step holds where a
run ends. -/
theorem of_along_of_run {m : Machine σ ι ο} {P : σ → Prop} (h0 : P s)
    (ha : m.Along (fun _ _ _ s' => P s') s is) (hr : m.run s is = some (t, os)) : P t := by
  induction is generalizing s os with
  | nil =>
      simp only [run_nil, Option.some.injEq, Prod.mk.injEq] at hr
      exact hr.1 ▸ h0
  | cons i is ih =>
      obtain ⟨s', os', qs, hs, hr', rfl⟩ := run_cons_eq_some.mp hr
      obtain ⟨hP, ha'⟩ := (along_cons_of_step hs).mp ha
      exact ih hP ha' hr'

/-! ## The last output of a kind -/

/-- The last value that `f` finds among the outputs. -/
def lastOf {α : Type u} (f : ο → Option α) (os : List ο) : Option α := (os.filterMap f).getLast?

@[simp] theorem lastOf_nil {α : Type u} (f : ο → Option α) : lastOf f [] = none := rfl

theorem lastOf_append {α : Type u} (f : ο → Option α) (os ps : List ο) :
    lastOf f (os ++ ps) = (lastOf f ps).or (lastOf f os) := by
  rw [lastOf, List.filterMap_append, List.getLast?_append]
  rfl

/-! ## Runs that owe some of their outputs -/

/-- Two runs that come to the same outputs, each with those it still owes: one has
made all outputs of the other, and they are even when neither owes any. -/
theorem compare_of_append_eq {os pending ps rest : List ο} (h : os ++ pending = ps ++ rest) :
    (os <+: ps ∨ ps <+: os) ∧ (pending = [] → rest = [] → os = ps) := by
  constructor
  · have hos : os <+: ps ++ rest := by simp [← h]
    exact List.prefix_or_prefix_of_prefix hos (List.prefix_append ps rest)
  · intro hpending hrest
    simpa [hpending, hrest] using h

/-! ## History variables -/

/-- The machine with a history variable `g`, updated from what each step saw. -/
def withHistory (m : Machine σ ι ο) (upd : γ → σ → ι → List ο → γ) : Machine (σ × γ) ι ο where
  step p i := (m.step p.1 i).map fun r => ((r.1, upd p.2 p.1 i r.2), r.2)

theorem withHistory_step_eq_some {m : Machine σ ι ο} {upd : γ → σ → ι → List ο → γ} :
    (m.withHistory upd).step p i = some (q, os) ↔
      m.step p.1 i = some (q.1, os) ∧ q.2 = upd p.2 p.1 i os := by
  simp only [withHistory, Option.map_eq_some_iff, Prod.mk.injEq]
  constructor
  · rintro ⟨⟨s', os'⟩, hs, hq, rfl⟩
    subst hq
    exact ⟨hs, rfl⟩
  · rintro ⟨hs, hg⟩
    exact ⟨(q.1, os), hs, by rw [← hg], rfl⟩

/-! ## Promises of the environment -/

/-- The machine in an environment that gives only the inputs `allowed` in a state. -/
def guard (m : Machine σ ι ο) (allowed : σ → ι → Bool) : Machine σ ι ο where
  step s i := if allowed s i then m.step s i else none

theorem guard_step_eq_some {m : Machine σ ι ο} {allowed : σ → ι → Bool} :
    (m.guard allowed).step s i = some r ↔ allowed s i = true ∧ m.step s i = some r := by
  rw [guard, Option.ite_none_right_eq_some]

end Machine

end Toucan
