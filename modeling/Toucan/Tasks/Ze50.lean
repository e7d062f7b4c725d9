import Toucan.Statics
import Toucan.Lib.Machine

/-!
# Toucan.Tasks.Ze50

The Renault ZE50 tasks (`can_processors_ze50.rs`).  `bms_rx` feeds the frames of
the pack to `ze50_bms` and stamps `LAST_BMS_MESSAGE`; `bms_tx_periodic` asks for
one reading after the other and, at the end of a reading loop (`req_code` 0x01),
calls `update()`, which copies the readings into `BMS` -- and stamps
`LAST_BMS_MESSAGE` once more.

`stamp_heard_iff` says what that second stamp costs: the stamp tells when the
pack was last heard exactly in the runs in which no tick finds `req_code` 0x01
later than the last accepted frame.
-/

namespace Toucan.Ze50

/-! ## The decoder crate -/

/-- Readings collected by the decoder (`ze50_bms::Data`); `rest` is its own state. -/
structure Data (F Z : Type) where
  reqCode : UInt8
  socValue : F
  vHighCell : UInt16
  vLowCell : UInt16
  packVolts : F
  currentValue : F
  tempMin : F
  tempMax : F
  kwhRemaining : F
  packTemp : F
  rest : Z
deriving Inhabited

/-- `process_payload`, with errors `P`; it may change any reading, `req_code`
included, also when it fails. -/
abbrev ProcessPayload (F Z P : Type) := List UInt8 → Method (Data F Z) P Unit

/-! ## Updating `BMS` -/

/-- What the tasks do to their surroundings besides the shared cells. -/
inductive Out (F B : Type) where
  | wdt
  | mqttFmt (bms : Bms F B)
  | trySend (frame : Frame)

def mapCellvSoc [F32 F] (value : UInt16) : F :=
  let cell100 : F := 4175.0
  let cell0 : F := 3500.0
  let oldRange := cell100 - cell0
  let newRange : F := 100.0 - 0.1
  (((F32.ofU16 value - cell0) * newRange) / oldRange) + 0.1

/-- The closure of `update()`. -/
def updateClosure [F32 F] (cfg : Features) (std : BmsStandard F B E) (data : Data F Z) :
    Method (Bms F B) E Unit := fun bms =>
  let soc := if cfg.v65 then mapCellvSoc data.vHighCell else data.socValue
  let maxChargeAmps := bms.config.chargeCurrent.maximum
  (do
    std.setValid false
    std.setSoc soc
    std.setCellMvLowHigh data.vLowCell data.vHighCell
    std.setPackVolts data.packVolts
    std.setCurrent data.currentValue
    std.setTemps data.tempMin data.tempMax
    std.setKwh data.kwhRemaining
    std.setMaxChargeAmps maxChargeAmps
    std.setPackTemp data.packTemp
    std.throttlePack
    std.setValid true : Method (Bms F B) E Unit) bms

/-- `update()`: stamp, then run the closure; only success pushes to MQTT. -/
def update [F32 F] (cfg : Features) (std : BmsStandard F B E) (data : Data F Z)
    (st : Statics F B) : Statics F B × List (Out F B) :=
  let r := updateClosure cfg std data st.bms
  let pushed := if cfg.mqtt ∧ r.1.isOk then [.mqttFmt r.2] else []
  ({ st.touch with bms := r.2 }, .wdt :: pushed)

/-! ## The two tasks -/

/-- `bms_rx` on one frame.  The first test compares with the complement of the
expected identifier, as the source does. -/
def bmsRx (process : ProcessPayload F Z P) (st : Statics F B) (data : Data F Z) (frame : Frame) :
    Statics F B × Data F Z :=
  match frame.id with
  | .standard _ => (st, data)
  | .extended id =>
    if id.asRaw = ~~~0x18DAF1DB then (st, data)
    else
      match frame.data with
      | none => (st, data)
      | some payload =>
        match process payload.bytes data with
        | (.error _, data') => (st, data')
        | (.ok _, data') => (st.touch, data')

/-- Where `bms_tx_periodic` waits: before the first frame, before the next init
payload, or for one of its two tickers (with their deadlines). -/
inductive Periodic where
  | boot (wake : Nat)
  | init (wake : Nat) (payload : Toucan.Data) (rest : List Toucan.Data)
  | run (t1 t2 : Nat) (preambleFrameNumber1 : Bool)
deriving Inhabited

/-- Payloads of the preamble, from `ze50_bms`. -/
structure Payloads where
  init : List Toucan.Data
  preamble1 : Toucan.Data
  preamble2 : Toucan.Data

def preambleFrame (payload : Toucan.Data) : Frame :=
  { id := .standard ⟨0x373, by decide⟩, data := some payload }

def pidId (pid : UInt8) : UInt8 :=
  if pid = 0x5d then 0x92 -- current 100ms sampling
  else if pid = 0xc8 then 0x91 -- kWh remaining
  else 0x90 -- majority of readings

def requestFrame (pid : UInt8) : Frame :=
  { id := .extended ⟨0x18DADBF1, by decide⟩
    data := some ⟨[0x03, 0x22, pidId pid, pid, 0xff, 0xff, 0xff, 0xff], Nat.le_refl 8⟩ }

/-- Wait 200 ms for the next init payload, or enter the main loop. -/
def nextInit (now : Nat) : List Toucan.Data → Periodic
  | payload :: rest => .init (now + fromMillis 200) payload rest
  | [] => .run (now + fromMillis 200) (now + fromMillis 225) true

/-- Everything the two tasks hold, and the cells they share with the others. -/
structure World (F B Z : Type) where
  st : Statics F B
  data : Data F Z
  periodic : Periodic
deriving Inhabited

/-- `bms_tx_periodic` from one await point to the next; `none` while no timer is
due.  The first ticker wins when both are. -/
def bmsTxPeriodic [F32 F] (cfg : Features) (std : BmsStandard F B E) (payloads : Payloads)
    (w : World F B Z) : Option (World F B Z × List (Out F B)) :=
  match w.periodic with
  | .boot wake =>
    if wake ≤ w.st.now then some ({ w with periodic := nextInit w.st.now payloads.init }, [])
    else none
  | .init wake payload rest =>
    if wake ≤ w.st.now then
      some ({ w with periodic := nextInit w.st.now rest }, [.trySend (preambleFrame payload)])
    else none
  | .run t1 t2 preambleFrameNumber1 =>
    if t1 ≤ w.st.now then
      let payload := if preambleFrameNumber1 then payloads.preamble1 else payloads.preamble2
      some ({ w with periodic := .run (t1 + fromMillis 200) t2 (!preambleFrameNumber1) },
        [.trySend (preambleFrame payload)])
    else if t2 ≤ w.st.now then
      let pid := w.data.reqCode
      let r := if pid = 0x1 then update cfg std w.data w.st else (w.st, []) -- end of reading loop
      some ({ w with st := r.1, periodic := .run t1 (t2 + fromMillis 225) preambleFrameNumber1 },
        r.2 ++ [.trySend (requestFrame pid)])
    else none

/-- Time passes, a frame reaches `bms_rx`, or `bms_tx_periodic` is resumed. -/
inductive Event where
  | elapse (d : Nat)
  | frame (frame : Frame)
  | tick

def machine [F32 F] (cfg : Features) (std : BmsStandard F B E) (process : ProcessPayload F Z P)
    (payloads : Payloads) : Machine (World F B Z) Event (Out F B) where
  step w
    | .elapse d => some ({ w with st := { w.st with now := w.st.now + d } }, [])
    | .frame frame =>
      let r := bmsRx process w.st w.data frame
      some ({ w with st := r.1, data := r.2 }, [])
    | .tick => bmsTxPeriodic cfg std payloads w

/-- Both tasks as they are spawned: no frame seen yet, `bms_tx_periodic` two
seconds before its first frame. -/
def World.start (now : Nat) (bms : Bms F B) (data : Data F Z) : World F B Z :=
  { st := { now, lastBmsMessage := none, bms }, data, periodic := .boot (now + fromMillis 2000) }

/-! ## Hearing the pack -/

/-- `process_payload` accepts the frame. -/
def accepted (process : ProcessPayload F Z P) (data : Data F Z) (frame : Frame) : Bool :=
  match frame.id with
  | .standard _ => false
  | .extended id =>
    if id.asRaw = ~~~0x18DAF1DB then false
    else
      match frame.data with
      | none => false
      | some payload => (process payload.bytes data).1.isOk

/-- The instant at which the pack was last heard, kept along a run. -/
def hear (process : ProcessPayload F Z P) (heard : Option Nat) (w : World F B Z) :
    Event → Option Nat
  | .frame frame => if accepted process w.data frame then some w.st.now else heard
  | _ => heard

/-- The machine with that instant as a history variable. -/
def heardMachine [F32 F] (cfg : Features) (std : BmsStandard F B E)
    (process : ProcessPayload F Z P) (payloads : Payloads) :
    Machine (World F B Z × Option Nat) Event (Out F B) :=
  (machine cfg std process payloads).withHistory fun heard w e _ => hear process heard w e

/-- `LAST_BMS_MESSAGE` is no later than the last accepted frame, so the age the
inverter loops test is not smaller than the time since the pack was heard. -/
def StampHeard (p : World F B Z × Option Nat) : Prop :=
  ∀ stamp, p.1.st.lastBmsMessage = some stamp →
    ∃ heard, p.2 = some heard ∧ stamp ≤ heard ∧
      elapsed p.1.st.now heard ≤ elapsed p.1.st.now stamp

/-- The next resumption of `bms_tx_periodic` runs `update()`: the 225 ms ticker
is the one that fires, and it finds `req_code` 0x01. -/
def refreshes (w : World F B Z) : Bool :=
  match w.periodic with
  | .run t1 t2 _ => w.st.now < t1 && t2 ≤ w.st.now && w.data.reqCode = 0x1
  | _ => false

/-- A tick runs `update()` only at the instant of the last accepted frame. -/
def RefreshHeard (p : World F B Z × Option Nat) (e : Event) : Prop :=
  match e with
  | .tick => refreshes p.1 = true → p.2 = some p.1.st.now
  | _ => True

/-- An accepted frame stamps, and nothing else in `bms_rx` does. -/
theorem bmsRx_statics (process : ProcessPayload F Z P) (st : Statics F B) (data : Data F Z)
    (frame : Frame) :
    (bmsRx process st data frame).1 = if accepted process data frame then st.touch else st := by
  unfold bmsRx accepted
  split
  · rfl
  · split
    · rfl
    · split
      · rfl
      · next payload _ =>
          split
          · next hp => simp [hp, Except.isOk, Except.toBool]
          · next hp => simp [hp, Except.isOk, Except.toBool]

/-- A tick stamps exactly when it runs `update()`, and moves the clock never. -/
theorem bmsTxPeriodic_stamp [F32 F] {cfg : Features} {std : BmsStandard F B E}
    {payloads : Payloads} {w w' : World F B Z}
    (h : bmsTxPeriodic cfg std payloads w = some (w', os)) :
    w'.st.now = w.st.now ∧
      w'.st.lastBmsMessage = if refreshes w then some w.st.now else w.st.lastBmsMessage := by
  unfold bmsTxPeriodic at h
  split at h
  · next hp =>
      split at h
      · simp only [Option.some.injEq, Prod.mk.injEq] at h
        rw [← h.1]
        simp [refreshes, hp]
      · contradiction
  · next hp =>
      split at h
      · simp only [Option.some.injEq, Prod.mk.injEq] at h
        rw [← h.1]
        simp [refreshes, hp]
      · contradiction
  · next t1 t2 _ hp =>
      split at h
      · next ht1 =>
          simp only [Option.some.injEq, Prod.mk.injEq] at h
          rw [← h.1]
          have hno : refreshes w = false := by simp [refreshes, hp]; omega
          simp [hno]
      · next ht1 =>
          split at h
          · next ht2 =>
              simp only [Option.some.injEq, Prod.mk.injEq] at h
              rw [← h.1]
              by_cases hreq : w.data.reqCode = 0x1
              · have hyes : refreshes w = true := by simp [refreshes, hp, hreq]; omega
                simp [hyes, hreq, update]
              · have hno : refreshes w = false := by simp [refreshes, hp, hreq]
                simp [hno, hreq]
          · contradiction

/-- The stamp tells when the pack was heard, and that was in the past. -/
def StampInvariant (p : World F B Z × Option Nat) : Prop :=
  StampHeard p ∧ ∀ heard, p.2 = some heard → heard ≤ p.1.st.now

section Runs

variable [F32 F] {cfg : Features} {std : BmsStandard F B E} {process : ProcessPayload F Z P}
  {payloads : Payloads}

/-- **Step lemma**: from a state in which the stamp is right, a step leaves it
right exactly when it does not refresh it without hearing the pack. -/
theorem stampHeard_step {p p' : World F B Z × Option Nat} (hI : StampInvariant p)
    (hstep : (heardMachine cfg std process payloads).step p e = some (p', os)) :
    (StampHeard p' ↔ RefreshHeard p e) ∧ ∀ heard, p'.2 = some heard → heard ≤ p'.1.st.now := by
  obtain ⟨w, g⟩ := p
  obtain ⟨w', g'⟩ := p'
  obtain ⟨hstamp, hpast⟩ := hI
  obtain ⟨hs, hg⟩ := Machine.withHistory_step_eq_some.mp hstep
  dsimp only at hs hg hpast
  cases e with
  | elapse d =>
      simp only [machine, Option.some.injEq, Prod.mk.injEq] at hs
      simp only [hear] at hg
      subst hg
      rw [← hs.1]
      refine ⟨iff_of_true ?_ trivial, fun heard hh => ?_⟩
      · intro stamp hl
        obtain ⟨heard, hh, hle, _⟩ := hstamp stamp hl
        exact ⟨heard, hh, hle, Nat.sub_le_sub_left hle _⟩
      · have := hpast heard hh
        simp only
        omega
  | frame frame =>
      simp only [machine, Option.some.injEq, Prod.mk.injEq] at hs
      have hst : w'.st = if accepted process w.data frame then w.st.touch else w.st := by
        rw [← hs.1]; exact bmsRx_statics process w.st w.data frame
      simp only [hear] at hg
      by_cases hacc : accepted process w.data frame = true
      · rw [if_pos hacc] at hst hg
        subst hg
        refine ⟨iff_of_true ?_ trivial, fun heard hh => ?_⟩
        · intro stamp hl
          simp only [hst, Statics.touch_lastBmsMessage] at hl
          have hl' := Option.some.inj hl
          exact ⟨w.st.now, rfl, hl' ▸ Nat.le_refl _, hl' ▸ Nat.le_refl _⟩
        · have := Option.some.inj hh
          simp [hst, this]
      · rw [if_neg hacc] at hst hg
        subst hg
        simp only [StampHeard, hst]
        exact ⟨iff_of_true hstamp trivial, hpast⟩
  | tick =>
      obtain ⟨hnow, hlast⟩ := bmsTxPeriodic_stamp hs
      simp only [hear] at hg
      subst hg
      simp only [StampHeard, RefreshHeard, hnow, hlast]
      refine ⟨?_, hpast⟩
      by_cases href : refreshes w = true
      · simp only [href, if_true, Option.some.injEq, forall_eq', true_implies]
        constructor
        · rintro ⟨heard, hh, hle, _⟩
          have := hpast heard hh
          rw [hh, show heard = w.st.now by omega]
        · intro hh
          exact ⟨w.st.now, hh, Nat.le_refl _, Nat.le_refl _⟩
      · simp only [href, if_false, Bool.false_eq_true, false_implies, iff_true]
        exact hstamp

/-- **The stamp**: in every run of the two tasks, whatever the pack does,
`LAST_BMS_MESSAGE` is never later than the last accepted frame exactly when no
tick runs `update()` later than that frame. -/
theorem stamp_heard_iff {now : Nat} {bms : Bms F B} {data : Data F Z} {es : List Event} :
    (heardMachine cfg std process payloads).Along (fun _ _ _ p' => StampHeard p')
        (.start now bms data, none) es ↔
      (heardMachine cfg std process payloads).Along (fun p e _ _ => RefreshHeard p e)
        (.start now bms data, none) es := by
  refine Machine.along_iff_along (I := StampInvariant) ?_ ?_ ?_
  · exact fun p e p' os hI hs => (stampHeard_step hI hs).1
  · exact fun p e p' os hI hs hq => ⟨hq, (stampHeard_step hI hs).2⟩
  · exact ⟨fun _ h => by contradiction, fun _ h => by contradiction⟩

end Runs

/-! ### A pack that falls silent -/

/-- A decoder that accepts every payload and then asks for the end of the loop. -/
def endOfLoop : ProcessPayload Rat Unit Unit := fun _ =>
  Method.assign fun data => { data with reqCode := 0x1 }

def noPayloads : Payloads :=
  { init := [], preamble1 := ⟨[], by decide⟩, preamble2 := ⟨[], by decide⟩ }

/-- One answer two seconds after the start, then silence: the next tick of the
225 ms ticker stamps `LAST_BMS_MESSAGE` anew. -/
def silentPack : List Event :=
  [.elapse 65536, .tick,
    .frame { id := .extended ⟨0x18DAF1DB, by decide⟩, data := some .zeros },
    .elapse 7373, .tick, .tick]

/-- The stamp can be later than anything heard from the pack. -/
theorem not_stamp_heard :
    ¬ ∀ es, (heardMachine default (BmsStandard.storeValid : BmsStandard Rat Unit Unit) endOfLoop
        noPayloads).Along (fun _ _ _ p' => StampHeard p') (.start 0 default default, none) es := by
  intro h
  have hrun : ((heardMachine default (BmsStandard.storeValid : BmsStandard Rat Unit Unit) endOfLoop
      noPayloads).run (.start 0 default default, none) silentPack).map
        (fun r => (r.1.1.st.lastBmsMessage, r.1.2)) = some (some 72909, some 65536) := by
    decide +kernel
  obtain ⟨r, hr, hend⟩ := Option.map_eq_some_iff.mp hrun
  obtain ⟨hstamp, hheard⟩ := Prod.mk.inj hend
  have hfinal := Machine.of_along_of_run (fun _ h => by contradiction) (h silentPack) hr
  obtain ⟨heard, hh, hle, _⟩ := hfinal 72909 hstamp
  rw [hheard] at hh
  have hheard' := Option.some.inj hh
  omega

end Toucan.Ze50
