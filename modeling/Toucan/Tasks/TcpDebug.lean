import Toucan.Tasks.CanInterfaces

/-!
# Toucan.Tasks.TcpDebug

The debug listener (`tcp_debug.rs`) on the BMS bus.  To show the traffic to a
TCP client it receives from both channels of the bus, next to the tasks the
frames are meant for; a channel gives each frame to one receiver only.

`Lossless` is what the bus keeps without the listener: every frame read is
processed or on its way, and so is every frame queued.  `lossless_iff` says that
each frame shown to the client costs exactly this.
-/

namespace Toucan.TcpDebug

open CanInterfaces

/-! ## The listener -/

/-- Which channel a frame was taken from. -/
inductive Label where
  | bmsRx
  | bmsTx
deriving DecidableEq

/-- The await `debug_task` is suspended in: one before its inner loop (the link,
an address, a client), the `select` on both channels, or `socket.write`. -/
inductive Debug where
  | outer
  | select
  | write (label : Label) (frame : Frame)
deriving DecidableEq

/-- What resumes it: an await of the outer loop, `Ok` when a client is accepted;
a frame in one of the channels; the end of a write. -/
inductive Input where
  | outer (accepted : Bool)
  | select
  | wrote (ok : Bool)

/-- `debug_task` from one await point to the next.  `select` polls the RX channel
first. -/
def debugTask (b : Bus X σ) : Debug → Input → Option (Bus X σ × Debug)
  | .outer, .outer accepted => some (b, if accepted then .select else .outer)
  | .select, .select =>
    match b.chRx.pop with
    | some (frame, chRx) => some ({ b with chRx }, .write .bmsRx frame)
    | none => b.chTx.pop.map fun r => ({ b with chTx := r.2 }, .write .bmsTx r.1)
  | .write _ _, .wrote ok => some (b, if ok then .select else .outer)
  | _, _ => none

/-- An event on the bus, or the listener is resumed. -/
inductive Event (X ε : Type) where
  | bus (e : CanInterfaces.Event X ε)
  | debug (input : Input)

/-- The bus with the listener on it. -/
def machine (X : Type) (P : Processor ε σ) : Machine (Bus X σ × Debug) (Event X ε) Out where
  step p
    | .bus e => ((P.machine X).step p.1 e).map fun r => ((r.1, p.2), r.2)
    | .debug input => (debugTask p.1 p.2 input).map fun r => (r, [])

/-! ## The way of the frames -/

def reads (os : List Out) : List Frame := os.filterMap fun | .read frame => some frame | _ => none

def receiveds (os : List Out) : List Frame :=
  os.filterMap fun | .received frame => some frame | _ => none

def queueds (os : List Out) : List Frame :=
  os.filterMap fun | .queued frame => some frame | _ => none

def writtens (os : List Out) : List Frame :=
  os.filterMap fun | .written frame => some frame | _ => none

/-- The frame `can_routine` has read and not yet put into the RX channel. -/
def sendingOf : Routine → List Frame
  | .chRxSend frame => [frame]
  | _ => []

/-- The frame `can_routine` has taken from the TX channel and not yet written. -/
def writingOf : Routine → List Frame
  | .txWrite frame => [frame]
  | _ => []

/-- The frames read are those processed and those on the way to the processor, in
this order; and the frames queued are those written and those on the way. -/
structure Lossless (os : List Out) (b : Bus X σ) : Prop where
  rx : reads os = receiveds os ++ b.chRx.items ++ sendingOf b.routine
  tx : queueds os = writtens os ++ writingOf b.routine ++ b.chTx.items

theorem lossless_start (processor : σ) : Lossless [] (Bus.start processor : Bus X σ) := ⟨rfl, rfl⟩

/-- Nothing is lost in between: with nothing on the way, all frames read were
processed and all frames queued were written. -/
theorem Lossless.eq_of_idle {b : Bus X σ} (h : Lossless os b) (hr : b.routine = .select)
    (hrx : b.chRx.items = []) (htx : b.chTx.items = []) :
    reads os = receiveds os ∧ queueds os = writtens os := by
  have h1 := h.rx
  have h2 := h.tx
  simp only [hr, hrx, htx, sendingOf, writingOf, List.append_nil] at h1 h2
  exact ⟨h1, h2⟩

section Bus

variable {P : Processor ε σ} {b b' : Bus X σ}

theorem lossless_canRoutine (hI : Lossless os b) (hs : canRoutine b = some (b', ps)) :
    Lossless (os ++ ps) b' := by
  obtain ⟨hrx, htx⟩ := hI
  unfold canRoutine at hs
  cases hr : b.routine with
  | select =>
      simp only [hr] at hs
      cases hp : b.peripheral with
      | nil =>
          simp only [hp, Option.map_eq_some_iff, Prod.mk.injEq] at hs
          obtain ⟨⟨frame, chTx⟩, hpop, rfl, rfl⟩ := hs
          rw [Fifo.pop_eq_some] at hpop
          constructor
          · simpa [hr, sendingOf] using hrx
          · simpa [hr, writingOf, hpop] using htx
      | cons envelope rest =>
          cases envelope with
          | error x =>
              simp only [hp, Option.some.injEq, Prod.mk.injEq] at hs
              obtain ⟨rfl, rfl⟩ := hs
              constructor
              · simpa [hr, sendingOf] using hrx
              · simpa [hr, writingOf] using htx
          | ok frame =>
              simp only [hp, Option.some.injEq, Prod.mk.injEq] at hs
              obtain ⟨rfl, rfl⟩ := hs
              simp only [hr, sendingOf, List.append_nil, reads, receiveds] at hrx
              constructor
              · simp [sendingOf, reads, receiveds, hrx]
              · simpa [hr, writingOf, queueds, writtens] using htx
  | chRxSend frame =>
      simp only [hr, Option.map_eq_some_iff, Prod.mk.injEq] at hs
      obtain ⟨chRx, hpush, rfl, rfl⟩ := hs
      obtain ⟨_, hitems⟩ := Fifo.push_eq_some.mp hpush
      constructor
      · simpa [hr, sendingOf, hitems] using hrx
      · simpa [hr, writingOf] using htx
  | errorDelay =>
      simp only [hr, Option.some.injEq, Prod.mk.injEq] at hs
      obtain ⟨rfl, rfl⟩ := hs
      constructor
      · simpa [hr, sendingOf] using hrx
      · simpa [hr, writingOf] using htx
  | txWrite frame =>
      simp only [hr, Option.some.injEq, Prod.mk.injEq] at hs
      obtain ⟨rfl, rfl⟩ := hs
      constructor
      · simpa [hr, sendingOf, reads, receiveds] using hrx
      · simpa [hr, writingOf, queueds, writtens] using htx

theorem lossless_processor {env : ε} (hI : Lossless os b) (hs : P.step env b = some (b', ps)) :
    Lossless (os ++ ps) b' := by
  obtain ⟨hrx, htx⟩ := hI
  unfold Processor.step at hs
  cases hn : P.next b.processor with
  | none =>
      simp only [hn] at hs
      cases hp : b.chRx.pop with
      | none => simp [hp] at hs
      | some r =>
          obtain ⟨frame, chRx⟩ := r
          simp only [hp, Option.map_eq_some_iff, Prod.mk.injEq] at hs
          obtain ⟨processor, _, rfl, rfl⟩ := hs
          rw [Fifo.pop_eq_some] at hp
          constructor
          · simpa [reads, receiveds, hp] using hrx
          · simpa [queueds, writtens] using htx
  | some frame =>
      simp only [hn] at hs
      cases hp : b.chTx.push frame with
      | none => simp [hp] at hs
      | some chTx =>
          simp only [hp, Option.map_eq_some_iff, Prod.mk.injEq] at hs
          obtain ⟨processor, _, rfl, rfl⟩ := hs
          obtain ⟨_, hitems⟩ := Fifo.push_eq_some.mp hp
          constructor
          · simpa [reads, receiveds] using hrx
          · simp only [queueds, writtens] at htx
            simp [queueds, writtens, hitems, htx]

theorem lossless_trySend {frame : Frame} (hI : Lossless os b)
    (hs : P.trySend frame b = some (b', ps)) : Lossless (os ++ ps) b' := by
  obtain ⟨hrx, htx⟩ := hI
  simp only [Processor.trySend, Option.ite_none_right_eq_some] at hs
  obtain ⟨_, hs⟩ := hs
  cases hp : b.chTx.push frame with
  | none =>
      simp only [hp, Option.some.injEq, Prod.mk.injEq] at hs
      obtain ⟨rfl, rfl⟩ := hs
      constructor
      · simpa using hrx
      · simpa using htx
  | some chTx =>
      simp only [hp, Option.some.injEq, Prod.mk.injEq] at hs
      obtain ⟨rfl, rfl⟩ := hs
      obtain ⟨_, hitems⟩ := Fifo.push_eq_some.mp hp
      constructor
      · simpa [reads, receiveds] using hrx
      · simp only [queueds, writtens] at htx
        simp [queueds, writtens, hitems, htx]

/-- **Step lemma**: the tasks of the bus lose nothing. -/
theorem lossless_bus {e : CanInterfaces.Event X ε} (hI : Lossless os b)
    (hs : (P.machine X).step b e = some (b', ps)) : Lossless (os ++ ps) b' := by
  cases e with
  | arrive envelope =>
      simp only [Processor.machine, Option.some.injEq, Prod.mk.injEq] at hs
      obtain ⟨rfl, rfl⟩ := hs
      constructor
      · simpa using hI.rx
      · simpa using hI.tx
  | routine => exact lossless_canRoutine hI hs
  | processor env => exact lossless_processor hI hs
  | periodic frame => exact lossless_trySend hI hs

/-- A `select` that goes through has taken a frame from one of the channels. -/
theorem frame_of_take (htake : debugTask b .select .select = some (b', d)) :
    b'.routine = b.routine ∧
      ((∃ frame, b.chRx.items = frame :: b'.chRx.items) ∨
        ∃ frame, b.chTx.items = frame :: b'.chTx.items) := by
  simp only [debugTask] at htake
  cases hp : b.chRx.pop with
  | some r =>
      obtain ⟨frame, chRx⟩ := r
      simp only [hp, Option.some.injEq, Prod.mk.injEq] at htake
      obtain ⟨rfl, _⟩ := htake
      exact ⟨rfl, .inl ⟨frame, Fifo.pop_eq_some.mp hp⟩⟩
  | none =>
      simp only [hp, Option.map_eq_some_iff, Prod.mk.injEq] at htake
      obtain ⟨⟨frame, chTx⟩, hpop, rfl, _⟩ := htake
      exact ⟨rfl, .inr ⟨frame, Fifo.pop_eq_some.mp hpop⟩⟩

/-- Taking a frame loses it. -/
theorem not_lossless_of_take (hI : Lossless os b)
    (htake : debugTask b .select .select = some (b', d)) : ¬ Lossless os b' := by
  intro hI'
  have hrx := hI.rx.symm.trans hI'.rx
  have htx := hI.tx.symm.trans hI'.tx
  obtain ⟨hroutine, ⟨frame, hitems⟩ | ⟨frame, hitems⟩⟩ := frame_of_take htake
  · simp [hroutine, hitems] at hrx
  · simp [hroutine, hitems] at htx

end Bus

/-! ## What listening costs -/

/-- The bus with the listener, and everything that happened so far. -/
def traceMachine (X : Type) (P : Processor ε σ) :
    Machine ((Bus X σ × Debug) × List Out) (Event X ε) Out :=
  (machine X P).withHistory fun os _ _ ps => os ++ ps

/-- When the listener's `select` is polled both channels are empty. -/
def Spared (p : Bus X σ × Debug) : Event X ε → Prop
  | .bus _ => True
  | .debug .select => p.1.chRx.items = [] ∧ p.1.chTx.items = []
  | .debug _ => True

theorem not_spared_of_take {b b' : Bus X σ}
    (htake : debugTask b .select .select = some (b', d)) :
    ¬ (b.chRx.items = [] ∧ b.chTx.items = []) := by
  obtain ⟨_, ⟨frame, hitems⟩ | ⟨frame, hitems⟩⟩ := frame_of_take htake <;> simp [hitems]

/-- **Step lemma**: nothing is lost in a step exactly when the listener takes no
frame in it. -/
theorem lossless_step {P : Processor ε σ} {p p' : (Bus X σ × Debug) × List Out} {e : Event X ε}
    (hI : Lossless p.2 p.1.1) (hstep : (traceMachine X P).step p e = some (p', ps)) :
    Lossless p'.2 p'.1.1 ↔ Spared p.1 e := by
  obtain ⟨⟨b, d⟩, os⟩ := p
  obtain ⟨⟨b', d'⟩, os'⟩ := p'
  obtain ⟨hs, hos⟩ := Machine.withHistory_step_eq_some.mp hstep
  dsimp only at hs hos hI ⊢
  subst hos
  cases e with
  | bus e =>
      simp only [machine, Option.map_eq_some_iff, Prod.mk.injEq] at hs
      obtain ⟨⟨b'', ps'⟩, hbus, ⟨rfl, _⟩, rfl⟩ := hs
      simp [Spared, lossless_bus hI hbus]
  | debug input =>
      simp only [machine, Option.map_eq_some_iff, Prod.mk.injEq] at hs
      obtain ⟨r, htask, rfl, rfl⟩ := hs
      rw [List.append_nil]
      cases d <;> cases input <;>
        simp only [debugTask, Option.some.injEq, Prod.mk.injEq, reduceCtorEq] at htask
      · simpa [Spared, ← htask.1] using hI
      · simp [Spared, not_lossless_of_take hI htask, not_spared_of_take htask]
      · simpa [Spared, ← htask.1] using hI

/-- **Listening**: with `debug_task` on the BMS bus, in every run nothing is lost
between the CAN peripheral and `bms_rx`, or between the TX channel and the
peripheral, exactly when the listener finds both channels empty. -/
theorem lossless_iff [F32 F] (Y : Type) (cfg : Features) (std : BmsStandard F B E)
    (dec : Ze40.Decoder F D P) (s : Ze40.State F D) (es : List (Event Y (Statics F B))) :
    (traceMachine Y (ze40 cfg std dec)).Along (fun _ _ _ p' => Lossless p'.2 p'.1.1)
        ((.start s, .outer), []) es ↔
      (traceMachine Y (ze40 cfg std dec)).Along (fun p e _ _ => Spared p.1 e)
        ((.start s, .outer), []) es := by
  refine Machine.along_iff_along (I := fun p => Lossless p.2 p.1.1) ?_ ?_ (lossless_start s)
  · exact fun p e p' ps hI hs => lossless_step hI hs
  · exact fun p e p' ps _ _ hq => hq

/-- A client connects, a frame arrives, and the listener is served first. -/
def listenerFirst : List (Event Unit (Statics Rat Unit)) :=
  [.debug (.outer true), .bus (.arrive (.ok (Ze40.standardFrame 0x424 (by decide)))),
    .bus .routine, .bus .routine, .debug .select]

/-- The frame never reaches `bms_rx`. -/
theorem not_lossless :
    ¬ ∀ es, (traceMachine Unit replyingBus).Along (fun _ _ _ p' => Lossless p'.2 p'.1.1)
        ((.start (.start default), .outer), []) es := by
  intro h
  obtain ⟨_, _, _, _, hlast, _⟩ := h listenerFirst
  have hrx := hlast.rx
  simp [reads, receiveds, sendingOf] at hrx

end Toucan.TcpDebug
