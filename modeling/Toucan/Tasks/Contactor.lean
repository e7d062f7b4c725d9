import Mathlib.Data.List.Basic
import Toucan.Types
import Toucan.Lib.Machine

/-!
# Toucan.Tasks.Contactor

The contactor with a precharge stage (`contactor_both_task` in `tasks/mod.rs`),
commanded through `CONTACTOR_STATE`: a slot that keeps the last value signalled
until the task takes it.

The task is modelled from one await point to the next, among the tasks that
signal it and the clock.  It does not look at the slot while it sleeps, so a
`false` signalled then waits in the slot -- and is lost when a `true` follows.
The outputs of a run are its trace: what was signalled, what the task took, and
what it did to its pins.
-/

namespace Toucan.Contactor

open Machine (lastOf)

/-! ## The task -/

/-- The await the task is suspended in: for a command, in the 500 ms of the
precharge, or in the 100 ms at full duty. -/
inductive Await where
  | command
  | precharge (wake : Nat)
  | fullDuty (wake : Nat)
deriving DecidableEq, Inhabited

/-- What happens to the slot and to the pins. -/
inductive Action where
  | signalled (closed : Bool)
  | took (closed : Bool)
  | preSetHigh
  | preSetLow
  | pwmEnable
  | pwmDisable
  | pwmSetDuty (duty : UInt16)
deriving DecidableEq

/-- The slot, the clock, and the locals of the task. -/
structure State where
  now : Nat
  contactorState : Option Bool
  active : Bool
  await : Await
deriving Inhabited

def State.start (now : Nat) : State :=
  { now, contactorState := none, active := false, await := .command }

/-- Time passes, some task signals `CONTACTOR_STATE`, or the task is resumed. -/
inductive Event where
  | elapse (d : Nat)
  | signal (closed : Bool)
  | resume

/-- The `match` on a command just taken. -/
def handle (s : State) : Bool → State × List Action
  | false =>
    if s.active then ({ s with active := false }, [.pwmDisable, .preSetLow]) else (s, [])
  | true =>
    if s.active then (s, []) -- holding
    else ({ s with await := .precharge (s.now + fromMillis 500) }, [.preSetHigh])

/-- `contactor_both_task` from one await point to the next; `max` is the top of
the duty range less one. -/
def contactorBothTask (max : UInt16) (s : State) : Option (State × List Action) :=
  match s.await with
  | .command =>
    match s.contactorState with
    | none => none
    | some closed =>
      let r := handle { s with contactorState := none } closed
      some (r.1, .took closed :: r.2)
  | .precharge wake =>
    if wake ≤ s.now then
      some ({ s with await := .fullDuty (s.now + fromMillis 100) }, [.pwmEnable, .pwmSetDuty max])
    else none
  | .fullDuty wake =>
    if wake ≤ s.now then
      some ({ s with active := true, await := .command },
        [.preSetLow, .pwmSetDuty ((max / 4) * 3)])
    else none

def machine (max : UInt16) : Machine State Event Action where
  step s
    | .elapse d => some ({ s with now := s.now + d }, [])
    | .signal closed => some ({ s with contactorState := some closed }, [.signalled closed])
    | .resume => contactorBothTask max s

/-! ## Reading a trace -/

/-- The most recently signalled value. -/
def lastSignalled (os : List Action) : Option Bool :=
  lastOf (fun | .signalled closed => some closed | _ => none) os

/-- The value `wait` returned last. -/
def lastTook (os : List Action) : Option Bool :=
  lastOf (fun | .took closed => some closed | _ => none) os

/-- Whether the main channel was last enabled or disabled. -/
def lastMain (os : List Action) : Option Bool :=
  lastOf (fun | .pwmEnable => some true | .pwmDisable => some false | _ => none) os

/-- The main channel was enabled, and not disabled since. -/
def mainEnabled (os : List Action) : Bool := lastMain os == some true

theorem lastSignalled_append (os ps : List Action) :
    lastSignalled (os ++ ps) = (lastSignalled ps).or (lastSignalled os) :=
  Machine.lastOf_append _ os ps

theorem lastTook_append (os ps : List Action) :
    lastTook (os ++ ps) = (lastTook ps).or (lastTook os) :=
  Machine.lastOf_append _ os ps

theorem lastMain_append (os ps : List Action) :
    lastMain (os ++ ps) = (lastMain ps).or (lastMain os) :=
  Machine.lastOf_append _ os ps

/-- Only signals: what the trace of a sleeping task consists of. -/
def OnlySignals (os : List Action) : Prop := ∀ a ∈ os, ∃ closed, a = .signalled closed

/-- The trace ends in a precharge begun on a `true` that was the last value
signalled, with what was signalled since. -/
def Precharging (os during : List Action) : Prop :=
  ∃ before, os = before ++ [.took true, .preSetHigh] ++ during ∧
    lastSignalled before = some true ∧ OnlySignals during

/-- The main channel was enabled by such a precharge, and since then neither was
the channel touched nor a `false` taken. -/
def ClosedBy (os : List Action) : Prop :=
  ∃ closing during after, os = closing ++ [.pwmEnable] ++ after ∧ Precharging closing during ∧
    .pwmEnable ∉ after ∧ .pwmDisable ∉ after ∧ .took false ∉ after ∧ .preSetHigh ∉ after

/-! ## What a step can do -/

/-- The ways the task is resumed, with what each does. -/
inductive Resumed (max : UInt16) (s : State) : State → List Action → Prop
  | shutdown (ha : s.await = .command) (hc : s.contactorState = some false)
      (hact : s.active = true) :
      Resumed max s { s with contactorState := none, active := false }
        [.took false, .pwmDisable, .preSetLow]
  | idle (ha : s.await = .command) (hc : s.contactorState = some false)
      (hact : s.active = false) :
      Resumed max s { s with contactorState := none } [.took false]
  | holding (ha : s.await = .command) (hc : s.contactorState = some true)
      (hact : s.active = true) :
      Resumed max s { s with contactorState := none } [.took true]
  | activate (ha : s.await = .command) (hc : s.contactorState = some true)
      (hact : s.active = false) :
      Resumed max s
        { s with contactorState := none, await := .precharge (s.now + fromMillis 500) }
        [.took true, .preSetHigh]
  | enabled (wake : Nat) (ha : s.await = .precharge wake) (hw : wake ≤ s.now) :
      Resumed max s { s with await := .fullDuty (s.now + fromMillis 100) }
        [.pwmEnable, .pwmSetDuty max]
  | held (wake : Nat) (ha : s.await = .fullDuty wake) (hw : wake ≤ s.now) :
      Resumed max s { s with active := true, await := .command }
        [.preSetLow, .pwmSetDuty ((max / 4) * 3)]

theorem resumed_of_contactorBothTask {max : UInt16}
    (h : contactorBothTask max s = some (s', os)) : Resumed max s s' os := by
  unfold contactorBothTask at h
  split at h
  · next ha =>
      split at h
      · contradiction
      · next closed hc =>
          obtain ⟨rfl, rfl⟩ := Prod.mk.inj (Option.some.inj h)
          cases closed <;> by_cases hact : s.active = true
          · simpa only [handle, hact, if_true] using Resumed.shutdown ha hc hact
          · rw [Bool.not_eq_true] at hact
            simpa [handle, hact] using Resumed.idle ha hc hact
          · simpa [handle, hact] using Resumed.holding ha hc hact
          · rw [Bool.not_eq_true] at hact
            simpa [handle, hact] using Resumed.activate ha hc hact
  · next wake ha =>
      simp only [Option.ite_none_right_eq_some, Option.some.injEq, Prod.mk.injEq] at h
      obtain ⟨hw, rfl, rfl⟩ := h
      exact .enabled wake ha hw
  · next wake ha =>
      simp only [Option.ite_none_right_eq_some, Option.some.injEq, Prod.mk.injEq] at h
      obtain ⟨hw, rfl, rfl⟩ := h
      exact .held wake ha hw

/-! ## The invariant -/

/-- The main channel is on: the task holds it, or is about to. -/
def State.mainOn (s : State) : Prop := s.active = true ∨ ∃ wake, s.await = .fullDuty wake

/-- What the trace so far says about the task. -/
structure TraceInvariant (os : List Action) (s : State) : Prop where
  /-- The last value signalled is in the slot, or was taken last. -/
  slot : lastSignalled os = s.contactorState.or (lastTook os)
  took : s.active = true ∨ s.await ≠ .command → lastTook os = some true
  sleeping : s.await ≠ .command → s.active = false
  main : mainEnabled os = true ↔ s.mainOn
  precharging : ∀ wake, s.await = .precharge wake →
    ∃ during, Precharging os during ∧ s.contactorState = lastSignalled during
  closed : s.mainOn → ClosedBy os

theorem traceInvariant_start (now : Nat) : TraceInvariant [] (.start now) where
  slot := rfl
  took := fun h => by simp [State.start] at h
  sleeping := fun h => by simp [State.start] at h
  main := by simp [mainEnabled, lastMain, State.mainOn, State.start]
  precharging := fun wake h => by simp [State.start] at h
  closed := fun h => by simp [State.mainOn, State.start] at h

/-- Outputs that leave the channel and the precharge alone and take no `false`
keep what closed the channel. -/
theorem ClosedBy.append (h : ClosedBy os) (henable : .pwmEnable ∉ ps) (hdisable : .pwmDisable ∉ ps)
    (htook : .took false ∉ ps) (hpre : .preSetHigh ∉ ps) : ClosedBy (os ++ ps) := by
  obtain ⟨closing, during, after, rfl, hc, h1, h2, h3, h4⟩ := h
  refine ⟨closing, during, after ++ ps, by simp, hc, ?_, ?_, ?_, ?_⟩
  all_goals simp_all

/-- A signal joins those of the precharge in progress. -/
theorem Precharging.append_signalled (h : Precharging os during) (closed : Bool) :
    Precharging (os ++ [.signalled closed]) (during ++ [.signalled closed]) := by
  obtain ⟨before, rfl, hb, hd⟩ := h
  refine ⟨before, by simp, hb, fun a ha => ?_⟩
  rcases List.mem_append.mp ha with ha | ha
  · exact hd a ha
  · exact ⟨closed, by simpa using ha⟩

/-- The channel while nothing switched it, in a state that holds it as before. -/
theorem TraceInvariant.main_kept {s' : State} (hI : TraceInvariant os s)
    (hmain : lastMain ps = none) (hon : s'.mainOn ↔ s.mainOn) : mainEnabled (os ++ ps) = true ↔ s'.mainOn := by
  rw [mainEnabled, lastMain_append, hmain, Option.none_or, hon]
  exact hI.main

/-- The channel once it was switched, to what the state holds it at. -/
theorem main_switched {s' : State} (os : List Action) (hmain : lastMain ps = some on)
    (hon : on = true ↔ s'.mainOn) : mainEnabled (os ++ ps) = true ↔ s'.mainOn := by
  rw [mainEnabled, lastMain_append, hmain, Option.some_or, ← hon]
  simp

theorem traceInvariant_signal (hI : TraceInvariant os s) (closed : Bool) :
    TraceInvariant (os ++ [.signalled closed]) { s with contactorState := some closed } where
  slot := by
    rw [lastSignalled_append]
    rfl
  took := fun h => by
    rw [lastTook_append]
    exact hI.took h
  sleeping := hI.sleeping
  main := hI.main_kept rfl Iff.rfl
  precharging := fun wake ha => by
    obtain ⟨during, hd, _⟩ := hI.precharging wake ha
    refine ⟨during ++ [.signalled closed], hd.append_signalled closed, ?_⟩
    rw [lastSignalled_append]
    rfl
  closed := fun h => (hI.closed h).append (by simp) (by simp) (by simp) (by simp)

/-- A taken value was the last one signalled. -/
theorem lastSignalled_of_slot (hI : TraceInvariant os s) (hc : s.contactorState = some closed) :
    lastSignalled os = some closed := by
  rw [hI.slot, hc]
  rfl

/-- The slot once its value was taken. -/
theorem TraceInvariant.slot_took {c : Bool} (hI : TraceInvariant os s)
    (hc : s.contactorState = some c) (hsignalled : lastSignalled ps = none)
    (htook : lastTook ps = some c) :
    lastSignalled (os ++ ps) = (none : Option Bool).or (lastTook (os ++ ps)) := by
  rw [lastSignalled_append, lastTook_append, hsignalled, htook, lastSignalled_of_slot hI hc]
  rfl

/-- The slot while nothing was signalled or taken. -/
theorem TraceInvariant.slot_kept (hI : TraceInvariant os s) (hsignalled : lastSignalled ps = none)
    (htook : lastTook ps = none) :
    lastSignalled (os ++ ps) = s.contactorState.or (lastTook (os ++ ps)) := by
  rw [lastSignalled_append, lastTook_append, hsignalled, htook, Option.none_or, Option.none_or]
  exact hI.slot

theorem lastTook_append_of_some (os : List Action) (h : lastTook ps = some closed) :
    lastTook (os ++ ps) = some closed := by
  rw [lastTook_append, h]
  rfl

theorem lastTook_append_of_none (os : List Action) (h : lastTook ps = none) :
    lastTook (os ++ ps) = lastTook os := by
  rw [lastTook_append, h]
  rfl

theorem traceInvariant_resumed {max : UInt16} (hI : TraceInvariant os s)
    (h : Resumed max s s' ps) : TraceInvariant (os ++ ps) s' := by
  cases h with
  | shutdown ha hc hact =>
      exact
        { slot := hI.slot_took hc rfl rfl
          took := by simp [ha]
          sleeping := by simp [ha]
          main := main_switched os rfl (by simp [State.mainOn, ha])
          precharging := by simp [ha]
          closed := by simp [State.mainOn, ha] }
  | idle ha hc hact =>
      exact
        { slot := hI.slot_took hc rfl rfl
          took := by simp [ha, hact]
          sleeping := by simp [ha]
          main := hI.main_kept rfl Iff.rfl
          precharging := by simp [ha]
          closed := by simp [State.mainOn, ha, hact] }
  | holding ha hc hact =>
      exact
        { slot := hI.slot_took hc rfl rfl
          took := fun _ => lastTook_append_of_some os rfl
          sleeping := by simp [ha]
          main := hI.main_kept rfl Iff.rfl
          precharging := by simp [ha]
          closed := fun hm => (hI.closed hm).append (by simp) (by simp) (by simp) (by simp) }
  | activate ha hc hact =>
      have hlast := lastSignalled_of_slot hI hc
      exact
        { slot := hI.slot_took hc rfl rfl
          took := fun _ => lastTook_append_of_some os rfl
          sleeping := fun _ => hact
          main := hI.main_kept rfl (by simp [State.mainOn, ha, hact])
          precharging := fun wake _ =>
            ⟨[], ⟨os, by simp, hlast, by simp [OnlySignals]⟩, rfl⟩
          closed := by simp [State.mainOn, hact] }
  | enabled wake ha hw =>
      have htook := hI.took (Or.inr (by simp [ha]))
      obtain ⟨during, hd, hslot⟩ := hI.precharging wake ha
      exact
        { slot := hI.slot_kept rfl rfl
          took := fun _ => (lastTook_append_of_none os rfl).trans htook
          sleeping := fun _ => hI.sleeping (by simp [ha])
          main := main_switched os rfl (by simp [State.mainOn])
          precharging := by simp
          closed := fun _ =>
            ⟨os, during, [.pwmSetDuty max], by simp, hd, by simp, by simp, by simp, by simp⟩ }
  | held wake ha hw =>
      have htook := hI.took (Or.inr (by simp [ha]))
      have hon : s.mainOn := Or.inr ⟨wake, ha⟩
      exact
        { slot := hI.slot_kept rfl rfl
          took := fun _ => (lastTook_append_of_none os rfl).trans htook
          sleeping := by simp
          main := hI.main_kept rfl (iff_of_true (Or.inl rfl) hon)
          precharging := by simp
          closed := fun _ => (hI.closed hon).append (by simp) (by simp) (by simp) (by simp) }

/-- **Step lemma**: every event keeps the invariant. -/
theorem traceInvariant_step {max : UInt16} (hI : TraceInvariant os s)
    (h : (machine max).step s e = some (s', ps)) : TraceInvariant (os ++ ps) s' := by
  cases e with
  | elapse d =>
      simp only [machine, Option.some.injEq, Prod.mk.injEq] at h
      obtain ⟨rfl, rfl⟩ := h
      rw [List.append_nil]
      exact ⟨hI.slot, hI.took, hI.sleeping, hI.main, hI.precharging, hI.closed⟩
  | signal closed =>
      simp only [machine, Option.some.injEq, Prod.mk.injEq] at h
      obtain ⟨rfl, rfl⟩ := h
      exact traceInvariant_signal hI closed
  | resume => exact traceInvariant_resumed hI (resumed_of_contactorBothTask h)

/-! ## What the contactor follows -/

/-- The task with the trace of the run so far. -/
def traceMachine (max : UInt16) : Machine (State × List Action) Event Action :=
  (machine max).withHistory fun os _ _ ps => os ++ ps

/-- The main channel is enabled while the last value signalled is `true`. -/
def EnabledOnTrue (p : State × List Action) (ps : List Action) : Prop :=
  .pwmEnable ∈ ps → lastSignalled p.2 = some true

/-- A held contactor was precharged after the last `false` that was signalled. -/
def HeldSinceFalse (p : State × List Action) : Prop :=
  p.1.await = .command → p.1.contactorState = none → mainEnabled p.2 = true →
    ∃ before after, p.2 = before ++ .preSetHigh :: after ∧ .signalled false ∉ after

/-- The main channel is enabled at the end of a precharge begun on a `true` that
was the last value signalled; a `false` signalled during it is still in the slot. -/
def EnabledByPrecharge (p : State × List Action) (ps : List Action) (p' : State × List Action) :
    Prop :=
  .pwmEnable ∈ ps →
    (∃ during, Precharging p.2 during ∧ p'.1.contactorState = lastSignalled during) ∧
      (lastSignalled p.2 = some false → p'.1.contactorState = some false)

/-- A held contactor without a pending command: the last value signalled is
`true`, and no `false` was taken since the precharge that closed it. -/
def HeldSinceTaken (p : State × List Action) : Prop :=
  p.1.await = .command → p.1.contactorState = none → mainEnabled p.2 = true →
    lastSignalled p.2 = some true ∧ ClosedBy p.2

/-- What was signalled during the precharge, or the `true` it began on. -/
theorem Precharging.lastSignalled_eq (h : Precharging os during) :
    lastSignalled os = (lastSignalled during).or (some true) := by
  obtain ⟨before, rfl, hb, _⟩ := h
  rw [lastSignalled_append, lastSignalled_append, hb]
  rfl

theorem enabledByPrecharge_resumed {max : UInt16} (hI : TraceInvariant os s)
    (h : Resumed max s s' ps) : EnabledByPrecharge (s, os) ps (s', os ++ ps) := by
  intro henable
  cases h with
  | enabled wake ha hw =>
      obtain ⟨during, hd, hslot⟩ := hI.precharging wake ha
      refine ⟨⟨during, hd, hslot⟩, fun hfalse => ?_⟩
      have hlast : (lastSignalled during).or (some true) = some false :=
        hd.lastSignalled_eq.symm.trans hfalse
      show s.contactorState = some false
      rw [hslot]
      cases hl : lastSignalled during with
      | none => simp [hl] at hlast
      | some closed => simpa [hl] using hlast
  | shutdown => simp at henable
  | idle => simp at henable
  | holding => simp at henable
  | activate => simp at henable
  | held => simp at henable

theorem enabledByPrecharge_step {max : UInt16} (hI : TraceInvariant os s)
    (h : (machine max).step s e = some (s', ps)) :
    EnabledByPrecharge (s, os) ps (s', os ++ ps) := by
  cases e with
  | elapse d =>
      simp only [machine, Option.some.injEq, Prod.mk.injEq] at h
      obtain ⟨_, rfl⟩ := h
      exact fun henable => by simp at henable
  | signal closed =>
      simp only [machine, Option.some.injEq, Prod.mk.injEq] at h
      obtain ⟨_, rfl⟩ := h
      exact fun henable => by simp at henable
  | resume => exact enabledByPrecharge_resumed hI (resumed_of_contactorBothTask h)

theorem TraceInvariant.heldSinceTaken (hI : TraceInvariant os s) : HeldSinceTaken (s, os) := by
  intro ha hc hm
  have hon : s.mainOn := hI.main.mp hm
  have hact : s.active = true := by
    rcases hon with hact | ⟨wake, hw⟩
    · exact hact
    · rw [hw] at ha
      contradiction
  have htook := hI.took (Or.inl hact)
  have hslot := hI.slot
  dsimp only at hc
  rw [hc, htook] at hslot
  exact ⟨hslot, hI.closed hon⟩

/-- **The contactor**: in every run, whatever is signalled when, the main channel
is enabled only by a precharge begun on a `true` that was then the last value
signalled, and a contactor held with nothing pending was closed after the last
`false` that the task took. -/
theorem along_contactor (max : UInt16) (now : Nat) (es : List Event) :
    (traceMachine max).Along (fun p _ ps p' => EnabledByPrecharge p ps p' ∧ HeldSinceTaken p')
      (.start now, []) es := by
  refine Machine.along_of_invariant (I := fun p => TraceInvariant p.2 p.1)
    (fun p e p' ps hI hstep => ?_) (traceInvariant_start now)
  obtain ⟨s, os⟩ := p
  obtain ⟨s', os'⟩ := p'
  obtain ⟨hs, hos⟩ := Machine.withHistory_step_eq_some.mp hstep
  dsimp only at hs hos hI
  subst hos
  have hI' := traceInvariant_step hI hs
  exact ⟨⟨enabledByPrecharge_step hI hs, hI'.heldSinceTaken⟩, hI'⟩

/-! ### Commands during the precharge -/

/-- A shutdown signalled 250 ms into the precharge does not stop it. -/
def shutdownInPrecharge : List Event :=
  [.signal true, .resume, .elapse 8192, .signal false, .elapse 8192, .resume]

/-- A shutdown overwritten before the task looks leaves no mark at all. -/
def shutdownOverwritten : List Event :=
  shutdownInPrecharge ++ [.signal true, .elapse 3277, .resume, .resume]

/-- The contactor does not follow a `false` signalled during the precharge. -/
theorem not_along_contactor :
    (¬ ∀ es, (traceMachine 999).Along (fun p _ ps _ => EnabledOnTrue p ps) (.start 0, []) es) ∧
      ¬ ∀ es, (traceMachine 999).Along (fun _ _ _ p' => HeldSinceFalse p') (.start 0, []) es := by
  constructor
  · intro h
    obtain ⟨_, _, _, _, _, henabled, _⟩ := h shutdownInPrecharge
    exact absurd (henabled (by decide)) (by decide)
  · intro h
    obtain ⟨_, _, _, _, _, _, _, _, _, hheld, _⟩ := h shutdownOverwritten
    obtain ⟨before, after, hsplit, hnot⟩ := hheld rfl rfl rfl
    have htrace : [.signalled true, .took true] ++ .preSetHigh :: [.signalled false, .pwmEnable,
        .pwmSetDuty 999, .signalled true, .preSetLow, .pwmSetDuty 747, .took true] =
        before ++ .preSetHigh :: after := hsplit
    obtain ⟨_, _, hafter⟩ :=
      (List.append_cons_inj_of_notMem (by decide) (by decide)).mp htrace
    rw [← hafter] at hnot
    simp at hnot

end Toucan.Contactor
