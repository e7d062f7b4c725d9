import Toucan.Tasks.Contactor

/-!
# Toucan.Tasks.ContactorMain

The two contactor tasks of `tasks/mod.rs` side by side: `contactor_main_task`,
without a precharge stage, and `contactor_both_task`, with one.

`opsFrom` says what both are for: the operations on the main channel as a
function of the commands taken.  A task that sleeps still owes some of them, so
each is related to it by what is done and what is `pending` (`Follows`), and
`contactor_tasks` compares the two.
-/

namespace Toucan.ContactorMain

open Contactor (Action Event lastMain mainEnabled)
open Machine (lastOf)

/-! ## The task without precharge -/

/-- The await the task is suspended in: for a command, or in the 100 ms at full
duty. -/
inductive Await where
  | command
  | fullDuty (wake : Nat)
deriving DecidableEq, Inhabited

/-- The slot, the clock, and the locals of the task. -/
structure State where
  now : Nat
  contactorState : Option Bool
  active : Bool
  await : Await
deriving Inhabited

def State.start (now : Nat) : State :=
  { now, contactorState := none, active := false, await := .command }

/-- The `match` on a command just taken. -/
def handle (max : UInt16) (s : State) : Bool → State × List Action
  | false => if s.active then ({ s with active := false }, [.pwmDisable]) else (s, [])
  | true =>
    if s.active then (s, []) -- holding
    else
      ({ s with await := .fullDuty (s.now + fromMillis 100) }, [.pwmEnable, .pwmSetDuty max])

/-- `contactor_main_task` from one await point to the next; `max` is the top of
the duty range less one. -/
def contactorMainTask (max : UInt16) (s : State) : Option (State × List Action) :=
  match s.await with
  | .command =>
    match s.contactorState with
    | none => none
    | some closed =>
      let r := handle max { s with contactorState := none } closed
      some (r.1, .took closed :: r.2)
  | .fullDuty wake =>
    if wake ≤ s.now then
      some ({ s with active := true, await := .command }, [.pwmSetDuty ((max / 4) * 3)])
    else none

def machine (max : UInt16) : Machine State Event Action where
  step s
    | .elapse d => some ({ s with now := s.now + d }, [])
    | .signal closed => some ({ s with contactorState := some closed }, [.signalled closed])
    | .resume => contactorMainTask max s

/-- The ways the task is resumed, with what each does. -/
inductive Resumed (max : UInt16) (s : State) : State → List Action → Prop
  | shutdown (ha : s.await = .command) (hact : s.active = true) :
      Resumed max s { s with contactorState := none, active := false } [.took false, .pwmDisable]
  | idle (ha : s.await = .command) (hact : s.active = false) :
      Resumed max s { s with contactorState := none } [.took false]
  | holding (ha : s.await = .command) (hact : s.active = true) :
      Resumed max s { s with contactorState := none } [.took true]
  | activate (ha : s.await = .command) (hact : s.active = false) :
      Resumed max s
        { s with contactorState := none, await := .fullDuty (s.now + fromMillis 100) }
        [.took true, .pwmEnable, .pwmSetDuty max]
  | held (wake : Nat) (ha : s.await = .fullDuty wake) (hw : wake ≤ s.now) :
      Resumed max s { s with active := true, await := .command } [.pwmSetDuty ((max / 4) * 3)]

theorem resumed_of_contactorMainTask {max : UInt16}
    (h : contactorMainTask max s = some (s', os)) : Resumed max s s' os := by
  unfold contactorMainTask at h
  split at h
  · next ha =>
      split at h
      · contradiction
      · next closed hc =>
          obtain ⟨rfl, rfl⟩ := Prod.mk.inj (Option.some.inj h)
          cases closed <;> by_cases hact : s.active = true
          · simpa only [handle, hact, if_true] using Resumed.shutdown ha hact
          · rw [Bool.not_eq_true] at hact
            simpa [handle, hact] using Resumed.idle ha hact
          · simpa [handle, hact] using Resumed.holding ha hact
          · rw [Bool.not_eq_true] at hact
            simpa [handle, hact] using Resumed.activate ha hact
  · next wake ha =>
      simp only [Option.ite_none_right_eq_some, Option.some.injEq, Prod.mk.injEq] at h
      obtain ⟨hw, rfl, rfl⟩ := h
      exact .held wake ha hw

/-! ## What both are for -/

/-- The values `wait` returned. -/
def taken (os : List Action) : List Bool :=
  os.filterMap fun | .took closed => some closed | _ => none

/-- The operations on the main channel. -/
def mainOps (os : List Action) : List Action :=
  os.filter fun | .pwmEnable => true | .pwmDisable => true | .pwmSetDuty _ => true | _ => false

@[simp] theorem taken_append (os ps : List Action) : taken (os ++ ps) = taken os ++ taken ps := by
  simp [taken]

@[simp] theorem mainOps_append (os ps : List Action) :
    mainOps (os ++ ps) = mainOps os ++ mainOps ps := by
  simp [mainOps]

/-- The operations for one command, after the command `commanded`. -/
def commandOps (max : UInt16) (commanded closed : Bool) : List Action :=
  match commanded, closed with
  | true, false => [.pwmDisable]
  | false, true => [.pwmEnable, .pwmSetDuty max, .pwmSetDuty ((max / 4) * 3)]
  | _, _ => []

/-- The operations for a sequence of commands. -/
def opsFrom (max : UInt16) (commanded : Bool) : List Bool → List Action
  | [] => []
  | closed :: rest => commandOps max commanded closed ++ opsFrom max closed rest

theorem opsFrom_concat (max : UInt16) (commanded : Bool) (cs : List Bool) (c : Bool) :
    opsFrom max commanded (cs ++ [c]) =
      opsFrom max commanded cs ++ commandOps max (cs.getLast?.getD commanded) c := by
  induction cs generalizing commanded with
  | nil => simp [opsFrom]
  | cons c' cs ih => simp [opsFrom, ih, List.getLast?_cons]

/-- The trace shows the operations for the commands taken, short of `pending`. -/
structure Follows (max : UInt16) (os pending : List Action) (commanded : Bool) : Prop where
  ops : mainOps os ++ pending = opsFrom max false (taken os)
  last : (taken os).getLast?.getD false = commanded

theorem follows_nil (max : UInt16) : Follows max [] [] false := ⟨rfl, rfl⟩

/-- A command is taken: its operations are done or pending. -/
theorem Follows.took {max : UInt16} (h : Follows max os [] commanded) (htaken : taken ps = [closed])
    (hops : mainOps ps ++ pending = commandOps max commanded closed) :
    Follows max (os ++ ps) pending closed where
  ops := by
    have hdone : mainOps os = opsFrom max false (taken os) := by simpa using h.ops
    rw [taken_append, htaken, opsFrom_concat, h.last, mainOps_append, List.append_assoc, hops, hdone]
  last := by simp [htaken]

/-- No command is taken: what is done is no longer pending. -/
theorem Follows.progress {max : UInt16} (h : Follows max os pending commanded)
    (htaken : taken ps = []) (hops : mainOps ps ++ rest = pending) :
    Follows max (os ++ ps) rest commanded where
  ops := by rw [taken_append, htaken, List.append_nil, mainOps_append, List.append_assoc, hops, h.ops]
  last := by simpa [htaken] using h.last

/-- Two traces for the same commands: one has the operations of the other, and
more if it owes less. -/
theorem Follows.compare {max : UInt16} (h : Follows max os pending c) (h' : Follows max ps rest d)
    (htaken : taken os = taken ps) :
    (mainOps os <+: mainOps ps ∨ mainOps ps <+: mainOps os) ∧
      (pending = [] → rest = [] → mainOps os = mainOps ps) := by
  have hsame : mainOps os ++ pending = mainOps ps ++ rest := by rw [h.ops, h'.ops, htaken]
  exact Machine.compare_of_append_eq hsame

/-! ## Both tasks follow the commands -/

/-- What `contactor_main_task` still owes for the last command. -/
def pendingMain (max : UInt16) : Await → List Action
  | .command => []
  | .fullDuty _ => [.pwmSetDuty ((max / 4) * 3)]

/-- What `contactor_both_task` still owes for the last command. -/
def pendingBoth (max : UInt16) : Contactor.Await → List Action
  | .command => []
  | .precharge _ => [.pwmEnable, .pwmSetDuty max, .pwmSetDuty ((max / 4) * 3)]
  | .fullDuty _ => [.pwmSetDuty ((max / 4) * 3)]

/-- The last command of `contactor_main_task`: one that it sleeps for was `true`. -/
def commandedMain (s : State) : Bool :=
  match s.await with
  | .command => s.active
  | _ => true

/-- The last command of `contactor_both_task`. -/
def commandedBoth (s : Contactor.State) : Bool :=
  match s.await with
  | .command => s.active
  | _ => true

/-- `contactor_main_task` follows the commands. -/
def MainFollows (max : UInt16) (os : List Action) (s : State) : Prop :=
  Follows max os (pendingMain max s.await) (commandedMain s)

/-- `contactor_both_task` follows the commands. -/
def BothFollows (max : UInt16) (os : List Action) (s : Contactor.State) : Prop :=
  Follows max os (pendingBoth max s.await) (commandedBoth s)

theorem mainFollows_resumed {max : UInt16} (hI : MainFollows max os s)
    (h : Resumed max s s' ps) : MainFollows max (os ++ ps) s' := by
  unfold MainFollows commandedMain at hI ⊢
  cases h with
  | shutdown ha hact =>
      simp only [ha, hact] at hI ⊢
      exact hI.took rfl rfl
  | idle ha hact =>
      simp only [ha, hact] at hI ⊢
      exact hI.took rfl rfl
  | holding ha hact =>
      simp only [ha, hact] at hI ⊢
      exact hI.took rfl rfl
  | activate ha hact =>
      simp only [ha, hact] at hI ⊢
      exact hI.took rfl rfl
  | held wake ha hw =>
      simp only [ha] at hI ⊢
      exact hI.progress rfl rfl

/-- **Step lemma** for `contactor_main_task`. -/
theorem mainFollows_step {max : UInt16} (hI : MainFollows max os s)
    (h : (machine max).step s e = some (s', ps)) : MainFollows max (os ++ ps) s' := by
  cases e with
  | elapse d =>
      simp only [machine, Option.some.injEq, Prod.mk.injEq] at h
      obtain ⟨rfl, rfl⟩ := h
      exact Follows.progress hI rfl rfl
  | signal closed =>
      simp only [machine, Option.some.injEq, Prod.mk.injEq] at h
      obtain ⟨rfl, rfl⟩ := h
      exact Follows.progress hI rfl rfl
  | resume => exact mainFollows_resumed hI (resumed_of_contactorMainTask h)

theorem bothFollows_resumed {max : UInt16} (hI : BothFollows max os s)
    (h : Contactor.Resumed max s s' ps) : BothFollows max (os ++ ps) s' := by
  unfold BothFollows commandedBoth at hI ⊢
  cases h with
  | shutdown ha hc hact =>
      simp only [ha, hact] at hI ⊢
      exact hI.took rfl rfl
  | idle ha hc hact =>
      simp only [ha, hact] at hI ⊢
      exact hI.took rfl rfl
  | holding ha hc hact =>
      simp only [ha, hact] at hI ⊢
      exact hI.took rfl rfl
  | activate ha hc hact =>
      simp only [ha, hact] at hI ⊢
      exact hI.took rfl rfl
  | enabled wake ha hw =>
      simp only [ha] at hI ⊢
      exact hI.progress rfl rfl
  | held wake ha hw =>
      simp only [ha] at hI ⊢
      exact hI.progress rfl rfl

/-- **Step lemma** for `contactor_both_task`. -/
theorem bothFollows_step {max : UInt16} (hI : BothFollows max os s)
    (h : (Contactor.machine max).step s e = some (s', ps)) : BothFollows max (os ++ ps) s' := by
  cases e with
  | elapse d =>
      simp only [Contactor.machine, Option.some.injEq, Prod.mk.injEq] at h
      obtain ⟨rfl, rfl⟩ := h
      exact Follows.progress hI rfl rfl
  | signal closed =>
      simp only [Contactor.machine, Option.some.injEq, Prod.mk.injEq] at h
      obtain ⟨rfl, rfl⟩ := h
      exact Follows.progress hI rfl rfl
  | resume => exact bothFollows_resumed hI (Contactor.resumed_of_contactorBothTask h)

/-! ## The pins over time -/

/-- Actions with the instant of each. -/
abbrev Stamped := List (Nat × Action)

def stamp (now : Nat) (os : List Action) : Stamped := os.map fun a => (now, a)

def actions (h : Stamped) : List Action := h.map (·.2)

@[simp] theorem actions_nil : actions [] = [] := rfl

@[simp] theorem actions_append (h h' : Stamped) : actions (h ++ h') = actions h ++ actions h' := by
  simp [actions]

@[simp] theorem actions_stamp (now : Nat) (os : List Action) : actions (stamp now os) = os := by
  simp [actions, stamp, Function.comp_def]

/-- Whether the precharge output was last set high or low. -/
def lastPre (os : List Action) : Option Bool :=
  lastOf (fun | .preSetHigh => some true | .preSetLow => some false | _ => none) os

/-- The precharge output is high. -/
def preHigh (os : List Action) : Bool := lastPre os == some true

theorem lastPre_append (os ps : List Action) :
    lastPre (os ++ ps) = (lastPre ps).or (lastPre os) :=
  Machine.lastOf_append _ os ps

theorem preHigh_append_of_some (os : List Action) (h : lastPre ps = some high) :
    preHigh (os ++ ps) = high := by
  rw [preHigh, lastPre_append, h]
  cases high <;> rfl

theorem preHigh_append_of_none (os : List Action) (h : lastPre ps = none) :
    preHigh (os ++ ps) = preHigh os := by
  rw [preHigh, lastPre_append, h]
  rfl

/-- `contactor_both_task` with everything that happened so far, and when. -/
def pinMachine (max : UInt16) : Machine (Contactor.State × Stamped) Event Action :=
  (Contactor.machine max).withHistory fun h s _ os => h ++ stamp s.now os

/-- While the task waits for a command the precharge output is low, and the main
channel is enabled exactly when `active` is set. -/
def WaitsSafely (p : Contactor.State × Stamped) : Prop :=
  p.1.await = .command →
    preHigh (actions p.2) = false ∧ (mainEnabled (actions p.2) = true ↔ p.1.active = true)

/-- The precharge output was set high at `since`, with the main channel disabled,
and neither was touched again. -/
def PrechargedSince (h : Stamped) (since : Nat) : Prop :=
  ∃ before during, h = before ++ (since, .preSetHigh) :: during ∧
    mainEnabled (actions before) = false ∧ .preSetLow ∉ actions during ∧
    .pwmEnable ∉ actions during

/-- `pwm.enable` comes first in its step, 500 ms or more into a precharge. -/
def EnablesPrecharged (p : Contactor.State × Stamped) (ps : List Action) : Prop :=
  .pwmEnable ∈ ps →
    ∃ since, PrechargedSince p.2 since ∧ since + fromMillis 500 ≤ p.1.now ∧
      ps.head? = some .pwmEnable ∧ .pwmEnable ∉ ps.tail

/-- What the stamped trace says about the task. -/
structure PinInvariant (p : Contactor.State × Stamped) : Prop where
  trace : Contactor.TraceInvariant (actions p.2) p.1
  pre : p.1.await = .command → preHigh (actions p.2) = false
  precharging : ∀ wake, p.1.await = .precharge wake →
    ∃ since, wake = since + fromMillis 500 ∧ PrechargedSince p.2 since

theorem pinInvariant_start (now : Nat) : PinInvariant (.start now, []) where
  trace := Contactor.traceInvariant_start now
  pre := fun _ => rfl
  precharging := fun wake h => by simp [Contactor.State.start] at h

/-- Signals keep a precharge. -/
theorem PrechargedSince.append {h h' : Stamped} (hp : PrechargedSince h since)
    (hlow : .preSetLow ∉ actions h') (henable : .pwmEnable ∉ actions h') :
    PrechargedSince (h ++ h') since := by
  obtain ⟨before, during, rfl, hoff, h1, h2⟩ := hp
  refine ⟨before, during ++ h', by simp, hoff, ?_, ?_⟩
  · simp [h1, hlow]
  · simp [h2, henable]

/-- What a resumption does to the pins. -/
theorem pinInvariant_resumed {max : UInt16} {s s' : Contactor.State} {h : Stamped}
    {ps : List Action} (hI : PinInvariant (s, h)) (hr : Contactor.Resumed max s s' ps) :
    PinInvariant (s', h ++ stamp s.now ps) ∧ EnablesPrecharged (s, h) ps := by
  have htrace : Contactor.TraceInvariant
      (actions (h ++ stamp s.now ps)) s' := by
    rw [actions_append, actions_stamp]
    exact Contactor.traceInvariant_resumed hI.trace hr
  have hpre := hI.pre
  dsimp only at hpre
  cases hr with
  | shutdown ha hc hact =>
      refine ⟨⟨htrace, fun _ => ?_, by simp [ha]⟩, fun henable => by simp at henable⟩
      rw [actions_append, actions_stamp]
      exact preHigh_append_of_some _ rfl
  | idle ha hc hact =>
      refine ⟨⟨htrace, fun _ => ?_, by simp [ha]⟩, fun henable => by simp at henable⟩
      rw [actions_append, actions_stamp]
      exact (preHigh_append_of_none _ rfl).trans (hpre ha)
  | holding ha hc hact =>
      refine ⟨⟨htrace, fun _ => ?_, by simp [ha]⟩, fun henable => by simp at henable⟩
      rw [actions_append, actions_stamp]
      exact (preHigh_append_of_none _ rfl).trans (hpre ha)
  | activate ha hc hact =>
      refine ⟨⟨htrace, fun h => by simp at h, fun wake hw => ?_⟩, fun henable => by simp at henable⟩
      have hoff : mainEnabled (actions h) = false := by
        have hmain := hI.trace.main
        simp only [Contactor.State.mainOn, ha, hact] at hmain
        simpa using hmain
      have hoff' : mainEnabled (actions (h ++ [(s.now, .took true)])) = false := by
        rw [actions_append, mainEnabled, Contactor.lastMain_append]
        exact hoff
      have hwake : s.now + fromMillis 500 = wake := by simpa using hw
      exact ⟨s.now, hwake.symm, h ++ [(s.now, .took true)], [], by simp [stamp], hoff', by simp,
        by simp⟩
  | enabled wake ha hw =>
      obtain ⟨since, rfl, hsince⟩ := hI.precharging wake ha
      refine ⟨⟨htrace, fun h => by simp at h, fun _ h => by simp at h⟩, fun _ => ?_⟩
      exact ⟨since, hsince, hw, rfl, by simp⟩
  | held wake ha hw =>
      refine ⟨⟨htrace, fun _ => ?_, by simp⟩, fun henable => by simp at henable⟩
      rw [actions_append, actions_stamp]
      exact preHigh_append_of_some _ rfl

/-- **Step lemma**: every event keeps the pins as they should be. -/
theorem pinInvariant_step {max : UInt16} {s s' : Contactor.State} {h : Stamped}
    {ps : List Action} (hI : PinInvariant (s, h))
    (hs : (Contactor.machine max).step s e = some (s', ps)) :
    PinInvariant (s', h ++ stamp s.now ps) ∧ EnablesPrecharged (s, h) ps := by
  cases e with
  | elapse d =>
      simp only [Contactor.machine, Option.some.injEq, Prod.mk.injEq] at hs
      obtain ⟨rfl, rfl⟩ := hs
      have hkept : h ++ stamp s.now [] = h := List.append_nil h
      have htrace := hI.trace
      rw [hkept]
      refine ⟨⟨?_, hI.pre, hI.precharging⟩, fun henable => by simp at henable⟩
      exact ⟨htrace.slot, htrace.took, htrace.sleeping, htrace.main, htrace.precharging,
        htrace.closed⟩
  | signal closed =>
      simp only [Contactor.machine, Option.some.injEq, Prod.mk.injEq] at hs
      obtain ⟨rfl, rfl⟩ := hs
      have htrace := Contactor.traceInvariant_signal hI.trace closed
      refine ⟨⟨?_, fun ha => ?_, fun wake ha => ?_⟩, fun henable => by simp at henable⟩
      · rw [actions_append, actions_stamp]
        exact htrace
      · rw [actions_append, actions_stamp]
        exact (preHigh_append_of_none _ rfl).trans (hI.pre ha)
      · obtain ⟨since, hwake, hp⟩ := hI.precharging wake ha
        exact ⟨since, hwake, hp.append (by simp) (by simp)⟩
  | resume => exact pinInvariant_resumed hI (Contactor.resumed_of_contactorBothTask hs)

theorem PinInvariant.waitsSafely {p : Contactor.State × Stamped} (hI : PinInvariant p) :
    WaitsSafely p := by
  intro ha
  refine ⟨hI.pre ha, ?_⟩
  have hmain := hI.trace.main
  simpa [Contactor.State.mainOn, ha] using hmain

/-! ## The two tasks -/

/-- **The contactor tasks**: in every run of `contactor_both_task`, whatever is
signalled when, it waits with the precharge output low and the main channel as
`active` says, and enables the channel only on a precharge of 500 ms; and for
the same commands it and `contactor_main_task` perform the same operations on
the main channel, as far as each has come. -/
theorem contactor_tasks (max : UInt16) (now : Nat) (es : List Event) :
    (pinMachine max).Along (fun p _ ps p' => EnablesPrecharged p ps ∧ WaitsSafely p')
        (.start now, []) es ∧
      ∀ (s : Contactor.State) (os : List Action) (now' : Nat) (fs : List Event) (t : State)
        (ps : List Action),
        (Contactor.machine max).run (.start now) es = some (s, os) →
        (machine max).run (.start now') fs = some (t, ps) → taken os = taken ps →
        (mainOps os <+: mainOps ps ∨ mainOps ps <+: mainOps os) ∧
          (s.await = .command → t.await = .command → mainOps os = mainOps ps) := by
  constructor
  · refine Machine.along_of_invariant (I := PinInvariant) ?_ (pinInvariant_start now)
    rintro ⟨s, h⟩ e ⟨s', h'⟩ ps hI hstep
    obtain ⟨hs, hh⟩ := Machine.withHistory_step_eq_some.mp hstep
    dsimp only at hs hh
    subst hh
    obtain ⟨hI', henables⟩ := pinInvariant_step hI hs
    exact ⟨⟨henables, hI'.waitsSafely⟩, hI'⟩
  · intro s os now' fs t ps hboth hmain htaken
    have hb0 : BothFollows max [] (.start now) := follows_nil max
    have hb : BothFollows max ([] ++ os) s :=
      Machine.run_invariant (fun _ _ _ _ _ hI h => bothFollows_step hI h) hb0 hboth
    have hm0 : MainFollows max [] (.start now') := follows_nil max
    have hm : MainFollows max ([] ++ ps) t :=
      Machine.run_invariant (fun _ _ _ _ _ hI h => mainFollows_step hI h) hm0 hmain
    obtain ⟨hcompare, heq⟩ := hb.compare hm htaken
    refine ⟨hcompare, fun hs ht => heq ?_ ?_⟩
    · rw [hs]; rfl
    · rw [ht]; rfl

/-- A close command that both tasks take and complete. -/
def closeCommand : List Event :=
  [.signal true, .resume, .elapse 16384, .resume, .elapse 3277, .resume]

/-- One close command: `contactor_both_task` sleeps 600 ms for it and the other
100 ms, and then both have enabled, filled and held the channel. -/
theorem contactor_tasks_closeCommand :
    ∃ (s : Contactor.State) (os : List Action) (t : State) (ps : List Action),
      (Contactor.machine 999).run (.start 0) closeCommand = some (s, os) ∧
      (machine 999).run (.start 0) [.signal true, .resume, .elapse 3277, .resume] = some (t, ps) ∧
      taken os = taken ps ∧ s.await = .command ∧ t.await = .command ∧ mainOps os = mainOps ps :=
  ⟨_, _, _, _, rfl, rfl, rfl, rfl, rfl,
    ((contactor_tasks 999 0 closeCommand).2 _ _ 0 [.signal true, .resume, .elapse 3277, .resume]
      _ _ rfl rfl rfl).2 rfl rfl⟩

end Toucan.ContactorMain
