import Toucan.Lib.Machine
import Toucan.Statics

/-!
# Toucan.Tasks.TeslaM3

The Tesla Model 3 tasks (`can_processors_tesla_m3.rs`).  The pack has contactors of its own:
`bms_rx` says in `CONTACTOR` what they should do, and `bms_tx_periodic` repeats six frames.

Every frame that is decoded ends with a `Precharge`, which overwrites a `Close` before
anything could take it (`overwritten_run`).  `LAST_BMS_MESSAGE` tells when `BMS` was last
updated with success (`along_stampTells`), unlike in the task of the ZE40, which stamps it
before it knows.
-/

namespace Toucan.TeslaM3

/-! ## The decoder crate -/

/-- `ExternalContactorStateCommand` -/
inductive Command where
  | close
  | precharge
  | opened
  | unimplemented
deriving DecidableEq

/-- `ContactorState`; the task looks at two of them. -/
inductive ContactorState where
  | economized
  | opened
  | other
deriving DecidableEq

/-- `ContactorOperation`; the task looks at one of them. -/
inductive ContactorOperation where
  | unknown6
  | other
deriving DecidableEq

/-- What `bms_rx` uses of `tesla_m3_bms`, with readings `D` and errors `P` and `E`. -/
structure Decoder (F B E P D : Type) where
  decodeFrame : Frame → Method D P Bool
  contactorState : D → ContactorState
  contactorOperation : D → ContactorOperation
  updateBms : Method (D × Bms F B) E Unit

/-! ## The receive loop -/

/-- What `bms_rx` does besides the shared cells.  `update` records the outcome of an update,
which the task only logs. -/
inductive Out (E : Type) where
  | contactor (command : Command)
  | wdt
  | update (result : Except E Unit)

/-- Locals of `bms_rx` -/
structure State (D : Type) where
  data : D
  contactorCommand : Command

/-- The task as it starts, with `Data::default()` as given. -/
def State.start (data : D) : State D := { data, contactorCommand := .precharge }

/-- The match on the state of the contactors, with the command that is signalled. -/
def matchContactors (dec : Decoder F B E P D) (data : D) (contactorCommand : Command) :
    Command × List (Out E) :=
  match dec.contactorState data, dec.contactorOperation data with
  | .economized, .unknown6 =>
    if contactorCommand ≠ .close then (.close, [.contactor .close]) else (contactorCommand, [])
  | .opened, _ =>
    if contactorCommand ≠ .precharge then (.precharge, [.contactor .precharge])
    else (contactorCommand, [])
  | _, _ => (contactorCommand, [])

/-- What follows the match, with the readings of `data`. -/
def updateBms (dec : Decoder F B E P D) (st : Statics F B) (s : State D) :
    Statics F B × State D × List (Out E) :=
  match dec.updateBms (s.data, st.bms) with
  | (.error e, data, bms) => ({ st with bms }, { s with data }, [.update (.error e)])
  | (.ok u, data, bms) => ({ st.touch with bms }, { s with data }, [.update (.ok u), .wdt])

/-- One pass of the loop over `frame`. -/
def bmsRx (dec : Decoder F B E P D) (st : Statics F B) (s : State D) (frame : Frame) :
    Statics F B × State D × List (Out E) :=
  match dec.decodeFrame frame s.data with
  | (.error _, data) => (st, { s with data }, [])
  | (.ok update, data) =>
    let (contactorCommand, signalled) := matchContactors dec data s.contactorCommand
    let s : State D := { data, contactorCommand }
    let os := signalled ++ [.contactor .precharge, .wdt]
    if update then
      let r := updateBms dec st s
      (r.1, r.2.1, os ++ r.2.2)
    else (st, s, os)

/-- Time passes, another task replaces `BMS.config`, or a frame is there. -/
inductive Event (F : Type) where
  | elapse (d : Nat)
  | config (config : BmsConfig F)
  | frame (frame : Frame)

def machine (dec : Decoder F B E P D) : Machine (Statics F B × State D) (Event F) (Out E) where
  step p
    | .elapse d => some (({ p.1 with now := p.1.now + d }, p.2), [])
    | .config config => some (({ p.1 with bms := { p.1.bms with config } }, p.2), [])
    | .frame frame =>
      let r := bmsRx dec p.1 p.2 frame
      some ((r.1, r.2.1), r.2.2)

/-- What one step does: a frame is dealt with, or `bms_rx` is not concerned. -/
theorem machine_step {dec : Decoder F B E P D} {p p' : Statics F B × State D} {e : Event F}
    {os : List (Out E)} (h : (machine dec).step p e = some (p', os)) :
    (∃ frame, p' = ((bmsRx dec p.1 p.2 frame).1, (bmsRx dec p.1 p.2 frame).2.1) ∧
      os = (bmsRx dec p.1 p.2 frame).2.2) ∨
    os = [] ∧ p'.1.lastBmsMessage = p.1.lastBmsMessage := by
  cases e with
  | elapse d =>
      simp only [machine, Option.some.injEq, Prod.mk.injEq] at h
      obtain ⟨rfl, rfl⟩ := h
      exact .inr ⟨rfl, rfl⟩
  | config config =>
      simp only [machine, Option.some.injEq, Prod.mk.injEq] at h
      obtain ⟨rfl, rfl⟩ := h
      exact .inr ⟨rfl, rfl⟩
  | frame frame =>
      simp only [machine, Option.some.injEq, Prod.mk.injEq] at h
      obtain ⟨rfl, rfl⟩ := h
      exact .inl ⟨frame, rfl, rfl⟩

/-! ## The contactors -/

/-- Every `Close` is followed by a `Precharge` at once. -/
inductive Overwritten : List (Out E) → Prop where
  | nil : Overwritten []
  | close (h : Overwritten os) :
      Overwritten (.contactor .close :: .contactor .precharge :: os)
  | other (ho : o ≠ .contactor .close) (h : Overwritten os) : Overwritten (o :: os)

theorem Overwritten.append {os ps : List (Out E)} (h : Overwritten os) (h' : Overwritten ps) :
    Overwritten (os ++ ps) := by
  induction h with
  | nil => exact h'
  | close _ ih => exact .close ih
  | other ho _ ih => exact .other ho ih

section Step

variable (dec : Decoder F B E P D)

theorem overwritten_updateBms (st : Statics F B) (s : State D) :
    Overwritten (updateBms dec st s).2.2 := by
  rw [updateBms]
  split
  · exact .other (by simp) .nil
  · exact .other (by simp) (.other (by simp) .nil)

/-- The command of the match is at most one, and is overwritten. -/
theorem overwritten_matchContactors (data : D) (contactorCommand : Command) {os : List (Out E)}
    (h : Overwritten os) :
    Overwritten ((matchContactors dec data contactorCommand).2 ++ .contactor .precharge :: os) := by
  have hprecharge : Overwritten (.contactor .precharge :: os) := .other (by simp) h
  rw [matchContactors]
  split
  · split
    · exact .close h
    · exact hprecharge
  · split
    · exact .other (by simp) hprecharge
    · exact hprecharge
  · exact hprecharge

theorem overwritten_bmsRx (st : Statics F B) (s : State D) (frame : Frame) :
    Overwritten (bmsRx dec st s frame).2.2 := by
  rw [bmsRx]
  split
  · exact .nil
  · next update data _ =>
      have hwdt : Overwritten ([.wdt] : List (Out E)) := .other (by simp) .nil
      have hmatch := overwritten_matchContactors dec data s.contactorCommand hwdt
      cases update with
      | false => exact hmatch
      | true => exact hmatch.append (overwritten_updateBms dec st _)

end Step

/-- **No `Close` lasts**: in every run, whatever the decoder makes of the frames, `CONTACTOR`
is overwritten with `Precharge` at once, before `bms_rx` waits again. -/
theorem overwritten_run {dec : Decoder F B E P D} {p p' : Statics F B × State D}
    {es : List (Event F)} {os : List (Out E)} (h : (machine dec).run p es = some (p', os)) :
    Overwritten os := by
  have hstep : ∀ ps q e q' qs, Overwritten ps → (machine dec).step q e = some (q', qs) →
      Overwritten (ps ++ qs) := by
    intro ps q e q' qs hps hs
    apply hps.append
    obtain ⟨frame, -, rfl⟩ | ⟨rfl, -⟩ := machine_step hs
    · exact overwritten_bmsRx dec q.1 q.2 frame
    · exact .nil
  exact Machine.run_invariant (I := fun ps _ => Overwritten ps) hstep .nil h

/-- A pack that reports closed contactors, and whose updates succeed. -/
def sampleDecoder : Decoder Rat Unit Unit Unit Unit where
  decodeFrame _ := pure true
  contactorState _ := .economized
  contactorOperation _ := .unknown6
  updateBms := pure ()

def sampleFrame : Frame := { id := .standard ⟨0x132, by decide⟩, data := none }

theorem overwritten_run_sample :
    Overwritten ([.contactor .close, .contactor .precharge, .wdt, .update (.ok ()), .wdt,
      .contactor .precharge, .wdt, .update (.ok ()), .wdt] : List (Out Unit)) := by
  have hrun : (machine sampleDecoder).run
      ({ now := 0, lastBmsMessage := none, bms := default }, .start ())
      [.frame sampleFrame, .frame sampleFrame] =
    some (({ now := 0, lastBmsMessage := some 0, bms := default }, ⟨(), .close⟩),
      [.contactor .close, .contactor .precharge, .wdt, .update (.ok ()), .wdt,
        .contactor .precharge, .wdt, .update (.ok ()), .wdt]) := rfl
  exact overwritten_run hrun

/-! ## The stamp -/

/-- An update has succeeded. -/
def Out.isUpdate : Out E → Bool
  | .update (.ok _) => true
  | _ => false

/-- The machine with the instant of the last update that succeeded. -/
def updateMachine (dec : Decoder F B E P D) :
    Machine ((Statics F B × State D) × Option Nat) (Event F) (Out E) :=
  (machine dec).withHistory fun updated p _ os =>
    if os.any Out.isUpdate then some p.1.now else updated

theorem any_isUpdate_matchContactors (dec : Decoder F B E P D) (data : D)
    (contactorCommand : Command) :
    (matchContactors dec data contactorCommand).2.any Out.isUpdate = false := by
  rw [matchContactors]
  split
  · split <;> rfl
  · split <;> rfl
  · rfl

theorem updateBms_stamp (dec : Decoder F B E P D) (st : Statics F B) (s : State D) :
    (updateBms dec st s).1.lastBmsMessage =
      if (updateBms dec st s).2.2.any Out.isUpdate then some st.now else st.lastBmsMessage := by
  rw [updateBms]
  split <;> rfl

/-- A frame stamps exactly when it has updated `BMS`. -/
theorem bmsRx_stamp (dec : Decoder F B E P D) (st : Statics F B) (s : State D) (frame : Frame) :
    (bmsRx dec st s frame).1.lastBmsMessage =
      if (bmsRx dec st s frame).2.2.any Out.isUpdate then some st.now else st.lastBmsMessage := by
  rw [bmsRx]
  split
  · rfl
  · next update data _ =>
      have hmatch := any_isUpdate_matchContactors dec data s.contactorCommand
      cases update with
      | false => simp [hmatch, Out.isUpdate]
      | true =>
          have hstamp := updateBms_stamp dec st
            ⟨data, (matchContactors dec data s.contactorCommand).1⟩
          simpa [hmatch, Out.isUpdate] using hstamp

/-- **What the stamp tells**: in every run it is the instant of the last update that has
succeeded. -/
theorem along_stampTells (dec : Decoder F B E P D) (st : Statics F B) (s : State D)
    (es : List (Event F)) :
    (updateMachine dec).Along (fun _ _ _ p' => p'.1.1.lastBmsMessage = p'.2)
      ((st, s), st.lastBmsMessage) es := by
  apply Machine.along_of_invariant (I := fun p => p.1.1.lastBmsMessage = p.2) _ rfl
  intro p e p' os hI hs
  obtain ⟨hstep, hupdated⟩ := Machine.withHistory_step_eq_some.mp hs
  rw [and_self_iff, hupdated]
  obtain ⟨frame, hp, rfl⟩ | ⟨rfl, hstamp⟩ := machine_step hstep
  · rw [hp, ← hI]
    exact bmsRx_stamp dec p.1.1 p.1.2 frame
  · rw [hstamp, hI]
    rfl

/-! ## The periodic frames -/

def frameBuilder (framedata : Data) : Frame :=
  { id := .standard ⟨0x221, by decide⟩, data := some framedata }

def arrays : List Data :=
  [⟨[0x41, 0x01, 0x05, 0x00, 0x00, 0x00, 0x00, 0x6A], by decide⟩,
    ⟨[0x41, 0x01, 0x05, 0x00, 0x00, 0x00, 0x40, 0xAA], by decide⟩,
    ⟨[0x40, 0x41, 0x05, 0x0F, 0x00, 0x50, 0x51, 0x5F], by decide⟩,
    ⟨[0x41, 0x01, 0x05, 0x00, 0x00, 0x00, 0x80, 0xEA], by decide⟩,
    ⟨[0x40, 0x41, 0x05, 0x0F, 0x00, 0x50, 0x91, 0x9F], by decide⟩,
    ⟨[0x40, 0x41, 0x05, 0x0F, 0x00, 0x50, 0xD1, 0xDF], by decide⟩]

/-- Where `bms_tx_periodic` waits: until CAN is up, or for the ticker before `data`, with `rest`
of the pass to come. -/
inductive Periodic where
  | boot (wake : Nat)
  | run (wake : Nat) (data : Data) (rest : List Data)

/-- Wait for the next frame of a pass, or begin another one. -/
def nextData (wake : Nat) : List Data → Periodic
  | data :: rest => .run wake data rest
  | [] => .run wake (arrays.head (List.cons_ne_nil _ _)) arrays.tail

/-- `bms_tx_periodic` from one await point to the next, with the frame it tries to queue. -/
def bmsTxPeriodic (now : Nat) : Periodic → Option (Periodic × List Frame)
  | .boot wake =>
    if wake ≤ now then some (nextData (now + fromMillis 100) arrays, []) else none
  | .run wake data rest =>
    if wake ≤ now then some (nextData (wake + fromMillis 100) rest, [frameBuilder data]) else none

/-- Time passes, or `bms_tx_periodic` is resumed. -/
inductive Tick where
  | elapse (d : Nat)
  | tick

def periodicMachine : Machine (Nat × Periodic) Tick Frame where
  step p
    | .elapse d => some ((p.1 + d, p.2), [])
    | .tick => (bmsTxPeriodic p.1 p.2).map fun r => ((p.1, r.1), r.2)

/-- The frames in turn. -/
def cycle (k : Nat) : Frame := frameBuilder (arrays.get ⟨k % 6, Nat.mod_lt k (Nat.zero_lt_succ 5)⟩)

/-- After the frames of `ps`, the next one is that of its number; there is a time for each. -/
def PeriodicInvariant (boot : Nat) (ps : List Frame) : Nat × Periodic → Prop
  | (_, .boot wake) => wake = boot ∧ ps = []
  | (now, .run wake data rest) =>
    ps = (List.range ps.length).map cycle ∧ data :: rest = arrays.drop (ps.length % 6) ∧
      boot + (ps.length + 1) * fromMillis 100 ≤ wake ∧ boot + ps.length * fromMillis 100 ≤ now

theorem drop_nextData {k : Nat} {data : Data} {rest : List Data}
    (h : data :: rest = arrays.drop (k % 6)) :
    cycle k = frameBuilder data ∧
      ∀ wake, ∃ data' rest', nextData wake rest = .run wake data' rest' ∧
        data' :: rest' = arrays.drop ((k + 1) % 6) := by
  have hlen : arrays.length = 6 := rfl
  have hlt : k % 6 < arrays.length := Nat.mod_lt k (Nat.zero_lt_succ 5)
  rw [List.drop_eq_getElem_cons hlt, List.cons.injEq] at h
  obtain ⟨hdata, hrest⟩ := h
  constructor
  · rw [hdata]
    rfl
  · intro wake
    cases hcases : rest with
    | nil =>
        -- the last frame of a pass
        rw [hcases] at hrest
        have hle := List.drop_eq_nil_iff.mp hrest.symm
        have hzero : (k + 1) % 6 = 0 := by omega
        exact ⟨_, _, rfl, by rw [hzero]; rfl⟩
    | cons data' rest' =>
        rw [hcases] at hrest
        have hmore : k % 6 + 1 < arrays.length := by
          apply Nat.lt_of_not_le
          intro hle
          rw [List.drop_eq_nil_of_le hle] at hrest
          contradiction
        have hnext : (k + 1) % 6 = k % 6 + 1 := by omega
        exact ⟨data', rest', rfl, by rw [hnext]; exact hrest⟩

theorem periodicInvariant_step {boot : Nat} {ps os : List Frame} {q q' : Nat × Periodic} {e : Tick}
    (hI : PeriodicInvariant boot ps q) (hs : periodicMachine.step q e = some (q', os)) :
    PeriodicInvariant boot (ps ++ os) q' := by
  obtain ⟨now, p⟩ := q
  cases e with
  | elapse d =>
      simp only [periodicMachine, Option.some.injEq, Prod.mk.injEq] at hs
      obtain ⟨rfl, rfl⟩ := hs
      rw [List.append_nil]
      cases p with
      | boot wake => exact hI
      | run wake data rest => exact ⟨hI.1, hI.2.1, hI.2.2.1, Nat.le_add_right_of_le hI.2.2.2⟩
  | tick =>
      simp only [periodicMachine, Option.map_eq_some_iff, Prod.mk.injEq] at hs
      obtain ⟨⟨p', frames⟩, hp, rfl, rfl⟩ := hs
      cases p with
      | boot wake =>
          obtain ⟨rfl, rfl⟩ := hI
          rw [bmsTxPeriodic, Option.ite_none_right_eq_some] at hp
          obtain ⟨hle, hp⟩ := hp
          injection hp with hp
          obtain ⟨rfl, rfl⟩ := Prod.mk.inj hp
          refine ⟨rfl, rfl, ?_, ?_⟩
          · simp only [List.append_nil, List.length_nil]
            omega
          · simp only [List.append_nil, List.length_nil]
            omega
      | run wake data rest =>
          obtain ⟨hps, hdata, hwake, -⟩ := hI
          rw [bmsTxPeriodic, Option.ite_none_right_eq_some] at hp
          obtain ⟨hle, hp⟩ := hp
          injection hp with hp
          obtain ⟨rfl, rfl⟩ := Prod.mk.inj hp
          obtain ⟨hcycle, hnext⟩ := drop_nextData hdata
          obtain ⟨data', rest', hrun, hdata'⟩ := hnext (wake + fromMillis 100)
          have hlen : (ps ++ [frameBuilder data]).length = ps.length + 1 := by simp
          rw [hrun]
          refine ⟨?_, ?_, ?_, ?_⟩
          · rw [hlen, List.range_succ, List.map_append, ← hps, List.map_singleton, hcycle]
          · rw [hlen]
            exact hdata'
          · rw [hlen, Nat.succ_mul (ps.length + 1)]
            omega
          · rw [hlen]
            omega

/-- **The frames of a run**: those of the six arrays in turn, from the first one on, at most one
every 100 ms, whatever becomes of the ones before in the queue. -/
theorem run_periodic {start now : Nat} {p : Periodic} {es : List Tick} {os : List Frame}
    (h : periodicMachine.run (start, .boot (start + fromMillis 4000)) es = some ((now, p), os)) :
    os = (List.range os.length).map cycle ∧
      (os ≠ [] → start + fromMillis 4000 + os.length * fromMillis 100 ≤ now) := by
  have h0 : PeriodicInvariant (start + fromMillis 4000) []
      (start, .boot (start + fromMillis 4000)) := ⟨rfl, rfl⟩
  have hI := Machine.run_invariant (fun _ _ _ _ _ hI hs => periodicInvariant_step hI hs) h0 h
  rw [List.nil_append] at hI
  cases p with
  | boot wake =>
      rw [hI.2]
      exact ⟨rfl, fun h => absurd rfl h⟩
  | run wake data rest => exact ⟨hI.1, fun _ => hI.2.2.2⟩

/-- Two frames in a little more than 4.2 s. -/
theorem run_periodic_two :
    [cycle 0, cycle 1] = (List.range 2).map cycle ∧
      ([cycle 0, cycle 1] ≠ [] → 0 + fromMillis 4000 + 2 * fromMillis 100 ≤ 140000) := by
  have hrun : periodicMachine.run (0, .boot (0 + fromMillis 4000))
      [.elapse 132000, .tick, .elapse 8000, .tick, .tick] =
    some ((140000, nextData (132000 + fromMillis 300) (arrays.drop 2)), [cycle 0, cycle 1]) := rfl
  exact run_periodic hrun

end Toucan.TeslaM3
