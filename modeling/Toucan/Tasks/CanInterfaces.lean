import Toucan.Tasks.Ze40
import Toucan.Tasks.Solax
import Toucan.Lib.Fifo

/-!
# Toucan.Tasks.CanInterfaces

A CAN bus and the tasks around it (`can_interfaces.rs`): `can_routine` moves
frames from the peripheral to the RX channel and from the TX channel to the
peripheral; a processor drains the RX channel and sends its replies to the TX
channel; on the BMS bus the periodic sender fills that one too.

Both sends wait for room, so the two tasks can wait for each other.
`not_deadlocked_iff` says at which steps that begins, `deadlocked_step` that it
never ends.
-/

namespace Toucan.CanInterfaces

/-! ## The tasks around a bus -/

/-- A task that drains the RX channel, in surroundings `ε`: the reply whose send
it awaits (`none` while it waits for a frame), and what a frame and a finished
send make of it. -/
structure Processor (ε σ : Type) where
  next : σ → Option Frame
  receive : ε → σ → Frame → Option σ
  sent : ε → σ → Option σ
  /-- A periodic sender uses the same TX channel. -/
  periodic : Bool

/-- The await `can_routine` is suspended in: `select`, `ch_rx.send`, the 50 ms
after a bus error, or `tx.write`. -/
inductive Routine where
  | select
  | chRxSend (frame : Frame)
  | errorDelay
  | txWrite (frame : Frame)
deriving DecidableEq

def Routine.isSending : Routine → Bool
  | .chRxSend _ => true
  | _ => false

/-- What the peripheral has received, the two channels, and the tasks. -/
structure Bus (X σ : Type) where
  peripheral : List (Except X Frame)
  chRx : Fifo Frame frameBuffer
  chTx : Fifo Frame frameBuffer
  routine : Routine
  processor : σ

def Bus.start (processor : σ) : Bus X σ :=
  { peripheral := [], chRx := .empty, chTx := .empty, routine := .select, processor }

/-- The way of a frame through the tasks. -/
inductive Out where
  | read (frame : Frame)
  | received (frame : Frame)
  | queued (frame : Frame)
  | written (frame : Frame)
deriving DecidableEq

/-- The peripheral receives, or one of the tasks is resumed. -/
inductive Event (X ε : Type) where
  | arrive (envelope : Except X Frame)
  | routine
  | processor (env : ε)
  | periodic (frame : Frame)

/-- `can_routine` in its loop, from one await point to the next.  `select` polls
the peripheral first. -/
def canRoutine (b : Bus X σ) : Option (Bus X σ × List Out) :=
  match b.routine with
  | .select =>
    match b.peripheral with
    | .ok frame :: rest =>
      some ({ b with peripheral := rest, routine := .chRxSend frame }, [.read frame])
    | .error _ :: rest => some ({ b with peripheral := rest, routine := .errorDelay }, [])
    | [] => b.chTx.pop.map fun r => ({ b with chTx := r.2, routine := .txWrite r.1 }, [])
  | .chRxSend frame =>
    (b.chRx.push frame).map fun chRx => ({ b with chRx, routine := .select }, [])
  | .errorDelay => some ({ b with routine := .select }, [])
  | .txWrite frame => some ({ b with routine := .select }, [.written frame])

/-- The processor, from one of its channel operations to the next. -/
def Processor.step (P : Processor ε σ) (env : ε) (b : Bus X σ) : Option (Bus X σ × List Out) :=
  match P.next b.processor with
  | none =>
    match b.chRx.pop with
    | none => none
    | some (frame, chRx) =>
      (P.receive env b.processor frame).map fun processor =>
        ({ b with chRx, processor }, [.received frame])
  | some frame =>
    match b.chTx.push frame with
    | none => none
    | some chTx =>
      (P.sent env b.processor).map fun processor => ({ b with chTx, processor }, [.queued frame])

/-- `tx.try_send` of the periodic sender: a frame without room is dropped. -/
def Processor.trySend (P : Processor ε σ) (frame : Frame) (b : Bus X σ) :
    Option (Bus X σ × List Out) :=
  if P.periodic then
    match b.chTx.push frame with
    | none => some (b, [])
    | some chTx => some ({ b with chTx }, [.queued frame])
  else none

def Processor.machine (X : Type) (P : Processor ε σ) : Machine (Bus X σ) (Event X ε) Out where
  step b
    | .arrive envelope => some ({ b with peripheral := b.peripheral ++ [envelope] }, [])
    | .routine => canRoutine b
    | .processor env => P.step env b
    | .periodic frame => P.trySend frame b

/-! ## Waiting for each other -/

/-- `can_routine` is blocked sending into a full RX channel. -/
def Bus.RoutineBlocked (b : Bus X σ) : Prop :=
  b.routine.isSending = true ∧ b.chRx.isFull = true

/-- The processor is blocked sending into a full TX channel. -/
def Bus.ProcessorBlocked (P : Processor ε σ) (b : Bus X σ) : Prop :=
  (P.next b.processor).isSome = true ∧ b.chTx.isFull = true

def Bus.Deadlocked (P : Processor ε σ) (b : Bus X σ) : Prop :=
  b.RoutineBlocked ∧ b.ProcessorBlocked P

instance (P : Processor ε σ) (b : Bus X σ) : Decidable (b.Deadlocked P) :=
  inferInstanceAs (Decidable ((b.routine.isSending = true ∧ b.chRx.isFull = true) ∧
    (P.next b.processor).isSome = true ∧ b.chTx.isFull = true))

/-- The TX channel has one slot left. -/
def Bus.lastSlot (b : Bus X σ) : Prop := b.chTx.items.length + 1 = frameBuffer

/-- A step that does not close the cycle: `can_routine` takes no frame for a full
RX channel while the processor is blocked, and while `can_routine` is blocked
nobody takes the last TX slot with a reply still to be queued. -/
def KeepsGoing (P : Processor ε σ) (b : Bus X σ) : Event X ε → Prop
  | .arrive _ => True
  | .routine =>
    b.ProcessorBlocked P → b.chRx.isFull = true → b.routine = .select →
      ∀ frame rest, b.peripheral ≠ .ok frame :: rest
  | .processor env =>
    b.RoutineBlocked → b.lastSlot → (P.next b.processor).isSome = true →
      ∀ processor, P.sent env b.processor = some processor → P.next processor = none
  | .periodic _ =>
    b.RoutineBlocked → b.lastSlot → P.periodic = true → P.next b.processor = none

section Steps

variable {P : Processor ε σ} {b b' : Bus X σ}

/-- A routine that is not sending is blocked by nobody. -/
theorem not_deadlocked_of_not_sending (h : b.routine.isSending = false) : ¬ b.Deadlocked P := by
  intro hd
  have hs := hd.1.1
  rw [h] at hs
  contradiction

/-- Only `select` closes the cycle, with a frame to be read. -/
theorem keepsGoing_routine
    (h : b.routine = .select → ∀ frame rest, b.peripheral ≠ .ok frame :: rest) :
    KeepsGoing P b (.routine : Event X ε) :=
  fun _ _ hr => h hr

theorem not_deadlocked_routine (hs : canRoutine b = some (b', os)) :
    ¬ b'.Deadlocked P ↔ KeepsGoing P b (.routine : Event X ε) := by
  unfold canRoutine at hs
  cases hr : b.routine with
  | select =>
      simp only [hr] at hs
      cases hp : b.peripheral with
      | nil =>
          rw [hp] at hs
          obtain ⟨r, _, hb⟩ := Option.map_eq_some_iff.mp hs
          obtain ⟨rfl, _⟩ := Prod.mk.inj hb
          have hkeeps : KeepsGoing P b (.routine : Event X ε) :=
            keepsGoing_routine fun _ _ _ => by simp [hp]
          exact iff_of_true (not_deadlocked_of_not_sending rfl) hkeeps
      | cons envelope rest =>
          rw [hp] at hs
          cases envelope with
          | error x =>
              obtain ⟨rfl, _⟩ := Prod.mk.inj (Option.some.inj hs)
              have hkeeps : KeepsGoing P b (.routine : Event X ε) :=
                keepsGoing_routine fun _ _ _ => by simp [hp]
              exact iff_of_true (not_deadlocked_of_not_sending rfl) hkeeps
          | ok frame =>
              -- the frame read is what `can_routine` is then sending
              obtain ⟨rfl, _⟩ := Prod.mk.inj (Option.some.inj hs)
              have hsending : (Routine.chRxSend frame).isSending = true := rfl
              simp only [KeepsGoing, Bus.Deadlocked, Bus.RoutineBlocked, hsending, true_and, hr, hp,
                true_implies]
              constructor
              · intro hd hpb hfull
                exact absurd ⟨hfull, hpb⟩ hd
              · intro hk ⟨hfull, hpb⟩
                exact hk hpb hfull frame rest rfl
  | chRxSend frame =>
      simp only [hr] at hs
      obtain ⟨chRx, _, hb⟩ := Option.map_eq_some_iff.mp hs
      obtain ⟨rfl, _⟩ := Prod.mk.inj hb
      have hkeeps : KeepsGoing P b (.routine : Event X ε) := keepsGoing_routine (by simp [hr])
      exact iff_of_true (not_deadlocked_of_not_sending rfl) hkeeps
  | errorDelay =>
      simp only [hr] at hs
      obtain ⟨rfl, _⟩ := Prod.mk.inj (Option.some.inj hs)
      have hkeeps : KeepsGoing P b (.routine : Event X ε) := keepsGoing_routine (by simp [hr])
      exact iff_of_true (not_deadlocked_of_not_sending rfl) hkeeps
  | txWrite frame =>
      simp only [hr] at hs
      obtain ⟨rfl, _⟩ := Prod.mk.inj (Option.some.inj hs)
      have hkeeps : KeepsGoing P b (.routine : Event X ε) := keepsGoing_routine (by simp [hr])
      exact iff_of_true (not_deadlocked_of_not_sending rfl) hkeeps

/-- Queueing a frame deadlocks a bus exactly when it takes the last slot while
`can_routine` is blocked and a reply is waiting behind it. -/
theorem deadlocked_push {frame : Frame} {chTx : Fifo Frame frameBuffer}
    (h : b.chTx.push frame = some chTx) (processor : σ) :
    ({ b with chTx, processor } : Bus X σ).Deadlocked P ↔
      b.RoutineBlocked ∧ b.lastSlot ∧ (P.next processor).isSome = true := by
  unfold Bus.Deadlocked Bus.ProcessorBlocked Bus.lastSlot
  rw [Fifo.isFull_push h, and_comm (a := (P.next processor).isSome = true)]
  rfl

theorem not_deadlocked_processor {env : ε} (hs : P.step env b = some (b', os)) :
    ¬ b'.Deadlocked P ↔ KeepsGoing P b (.processor env : Event X ε) := by
  unfold Processor.step at hs
  cases hn : P.next b.processor with
  | none =>
      simp only [hn] at hs
      cases hp : b.chRx.pop with
      | none => simp [hp] at hs
      | some r =>
          simp only [hp] at hs
          obtain ⟨processor, _, hb⟩ := Option.map_eq_some_iff.mp hs
          obtain ⟨rfl, _⟩ := Prod.mk.inj hb
          have hroom : r.2.isFull = false := Fifo.isFull_of_pop hp
          refine iff_of_true (fun hd => ?_) fun _ _ hsome => ?_
          · have hfull := hd.1.2
            rw [hroom] at hfull
            contradiction
          · rw [hn] at hsome
            contradiction
  | some frame =>
      simp only [hn] at hs
      cases hp : b.chTx.push frame with
      | none => simp [hp] at hs
      | some chTx =>
          simp only [hp] at hs
          obtain ⟨processor, hsent, hb⟩ := Option.map_eq_some_iff.mp hs
          obtain ⟨rfl, _⟩ := Prod.mk.inj hb
          rw [deadlocked_push hp processor]
          simp only [KeepsGoing, hn, hsent, Option.isSome_some, true_implies, Option.some.injEq,
            forall_eq', not_and, Option.not_isSome_iff_eq_none]

theorem not_deadlocked_periodic {frame : Frame} (hI : ¬ b.Deadlocked P)
    (hs : P.trySend frame b = some (b', os)) :
    ¬ b'.Deadlocked P ↔ KeepsGoing P b (.periodic frame : Event X ε) := by
  unfold Processor.trySend at hs
  by_cases hper : P.periodic = true
  · rw [if_pos hper] at hs
    cases hp : b.chTx.push frame with
    | none =>
        rw [hp] at hs
        obtain ⟨rfl, _⟩ := Prod.mk.inj (Option.some.inj hs)
        refine iff_of_true hI fun _ hlast _ => ?_
        have hfull := b.chTx.isFull_iff.mp (Fifo.push_eq_none.mp hp)
        unfold Bus.lastSlot at hlast
        omega
    | some chTx =>
        rw [hp] at hs
        obtain ⟨rfl, _⟩ := Prod.mk.inj (Option.some.inj hs)
        rw [deadlocked_push hp b.processor]
        simp only [KeepsGoing, hper, true_implies, not_and, Option.not_isSome_iff_eq_none]
  · rw [if_neg hper] at hs
    contradiction

/-- **Step lemma**: a step from a bus that is not deadlocked deadlocks it exactly
when it closes the cycle. -/
theorem not_deadlocked_step {e : Event X ε} (hI : ¬ b.Deadlocked P)
    (hs : (P.machine X).step b e = some (b', os)) : ¬ b'.Deadlocked P ↔ KeepsGoing P b e := by
  cases e with
  | arrive envelope =>
      obtain ⟨rfl, _⟩ := Prod.mk.inj (Option.some.inj hs)
      exact iff_of_true hI trivial
  | routine => exact not_deadlocked_routine hs
  | processor env => exact not_deadlocked_processor hs
  | periodic frame => exact not_deadlocked_periodic hI hs

/-- A deadlock is never resolved: neither task can be resumed, and the periodic
sender only drops its frames. -/
theorem deadlocked_step {e : Event X ε} (hd : b.Deadlocked P)
    (hs : (P.machine X).step b e = some (b', os)) : b'.Deadlocked P := by
  obtain ⟨⟨hsending, hrx⟩, hnext, htx⟩ := hd
  cases e with
  | arrive envelope =>
      obtain ⟨rfl, _⟩ := Prod.mk.inj (Option.some.inj hs)
      exact ⟨⟨hsending, hrx⟩, hnext, htx⟩
  | routine =>
      cases hr : b.routine with
      | chRxSend frame =>
          have hnone : b.chRx.push frame = none := Fifo.push_eq_none.mpr hrx
          simp [Processor.machine, canRoutine, hr, hnone] at hs
      | select => simp [hr, Routine.isSending] at hsending
      | errorDelay => simp [hr, Routine.isSending] at hsending
      | txWrite frame => simp [hr, Routine.isSending] at hsending
  | processor env =>
      obtain ⟨frame, hn⟩ := Option.isSome_iff_exists.mp hnext
      have hnone : b.chTx.push frame = none := Fifo.push_eq_none.mpr htx
      simp [Processor.machine, Processor.step, hn, hnone] at hs
  | periodic frame =>
      have hnone : b.chTx.push frame = none := Fifo.push_eq_none.mpr htx
      simp only [Processor.machine, Processor.trySend, hnone,
        Option.ite_none_right_eq_some, Option.some.injEq, Prod.mk.injEq] at hs
      obtain ⟨_, rfl, _⟩ := hs
      exact ⟨⟨hsending, hrx⟩, hnext, htx⟩

end Steps

/-- For any processor: a run is free of deadlock exactly when no step closes the
cycle. -/
theorem Processor.not_deadlocked_iff_keepsGoing (X : Type) (P : Processor ε σ) (processor : σ)
    (es : List (Event X ε)) :
    (P.machine X).Along (fun _ _ _ b' => ¬ b'.Deadlocked P) (.start processor) es ↔
      (P.machine X).Along (fun b e _ _ => KeepsGoing P b e) (.start processor) es :=
  Machine.along_iff_along (I := fun b => ¬ b.Deadlocked P)
    (fun _ _ _ _ hI hs => not_deadlocked_step hI hs) (fun _ _ _ _ _ _ hq => hq)
    (not_deadlocked_of_not_sending rfl)

/-! ## The two buses -/

/-- `bms_rx` of the ZE40 pack, with `bms_tx_periodic` beside it. -/
def ze40 [F32 F] (cfg : Features) (std : BmsStandard F B E) (dec : Ze40.Decoder F D P) :
    Processor (Statics F B) (Ze40.State F D) where
  next s := s.reply
  receive st s frame := (Ze40.bmsRx cfg std dec st s (.frame frame)).map (·.2.1)
  sent st s := (Ze40.bmsRx cfg std dec st s .sent).map (·.2.1)
  periodic := true

/-- `inverter_rx` of the Solax inverter. -/
def solax (cfg : Features) (parser : Solax.Parser I F B X) :
    Processor (Statics F B) (Solax.State I) where
  next s := s.sending.map (·.1)
  receive st s frame := (Solax.inverterRx cfg parser st s (.frame frame)).map (·.1)
  sent st s := (Solax.inverterRx cfg parser st s .sent).map (·.1)
  periodic := false

/-- **The two channels**: in every run of the BMS bus and of the inverter bus,
`can_routine` and the processor never wait for each other exactly when no step
closes the cycle (`KeepsGoing`). -/
theorem not_deadlocked_iff [F32 F] (Y : Type) (cfg : Features) (std : BmsStandard F B E)
    (dec : Ze40.Decoder F D P) (s : Ze40.State F D) (es : List (Event Y (Statics F B)))
    (parser : Solax.Parser I F B X) (t : Solax.State I) (fs : List (Event Y (Statics F B))) :
    (((ze40 cfg std dec).machine Y).Along (fun _ _ _ b' => ¬ b'.Deadlocked (ze40 cfg std dec))
          (.start s) es ↔
        ((ze40 cfg std dec).machine Y).Along (fun b e _ _ => KeepsGoing (ze40 cfg std dec) b e)
          (.start s) es) ∧
      (((solax cfg parser).machine Y).Along (fun _ _ _ b' => ¬ b'.Deadlocked (solax cfg parser))
          (.start t) fs ↔
        ((solax cfg parser).machine Y).Along (fun b e _ _ => KeepsGoing (solax cfg parser) b e)
          (.start t) fs) :=
  ⟨Processor.not_deadlocked_iff_keepsGoing Y (ze40 cfg std dec) s es,
    Processor.not_deadlocked_iff_keepsGoing Y (solax cfg parser) t fs⟩

/-! ### A pack that answers everything -/

/-- A decoder that replies to every diagnostic frame. -/
def replying : Ze40.Decoder Rat Unit Unit where
  rapidDataProcessor _ := pure false
  diagDataProcessor frame := pure (some frame)

def replyingBus : Processor (Statics Rat Unit) (Ze40.State Rat Unit) :=
  ze40 default (BmsStandard.storeValid : BmsStandard Rat Unit Unit) replying

/-- Frames keep arriving before `can_routine` gets to the TX channel: eleven
replies, then eleven more frames. -/
def flood : List (Event Unit (Statics Rat Unit)) :=
  let arrive := Event.arrive (.ok (Ze40.standardFrame 0x7bb (by decide)))
  (List.replicate 10 [arrive, .routine, .routine, .processor default, .processor default]).flatten
    ++ [arrive, .routine, .routine, .processor default]
    ++ (List.replicate 10 [arrive, .routine, .routine]).flatten ++ [arrive, .routine]

/-- A flood of diagnostic frames deadlocks the BMS bus. -/
theorem not_not_deadlocked :
    ¬ ∀ es, (replyingBus.machine Unit).Along (fun _ _ _ b' => ¬ b'.Deadlocked replyingBus)
        (.start (.start default)) es := by
  intro h
  have hrun : ((replyingBus.machine Unit).run (.start (.start default)) flood).map
      (fun r => decide (r.1.Deadlocked replyingBus)) = some true := by
    decide +kernel
  obtain ⟨r, hr, hdead⟩ := Option.map_eq_some_iff.mp hrun
  have hfree := Machine.of_along_of_run (P := fun b => ¬ b.Deadlocked replyingBus)
    (not_deadlocked_of_not_sending rfl) (h flood) hr
  exact hfree (of_decide_eq_true hdead)

end Toucan.CanInterfaces
