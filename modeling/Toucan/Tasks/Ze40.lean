import Toucan.Statics
import Toucan.Lib.Machine

/-!
# Toucan.Tasks.Ze40

The Renault ZE40 tasks (`can_processors_ze40.rs`): `bms_rx`, which decodes the
frames of the pack and writes `BMS`, and `bms_tx_periodic`, which keeps the pack
talking.

`bms_rx` is modelled from one await point to the next: a received frame is
handled in one step, except that a diagnostic reply then waits for room in
`BMS_CHANNEL_TX` (`State.reply`).  The `ze40_bms` decoders and the
`bms_standard` setters are parameters.

The main result, `valid_eq_isOk_lastUpdate`: whatever the order of frames and
the pattern of setter failures, `BMS.valid` tells whether the most recent update
-- rapid or diagnostic -- succeeded.
-/

namespace Toucan.Ze40

/-! ## The decoder crate -/

/-- Key the battery controller is polled with. -/
inductive LbcKey where
  | x5d
  | xb2
deriving DecidableEq

/-- Readings collected by the decoders (`ze40_bms::Data`); `rest` is the
decoders' own state. -/
structure Data (F D : Type) where
  currentValue : F
  socValue : F
  kwhRemaining : F
  packTemp : F
  maxChargeAmps : F
  packVolts : F
  balCells : Vector Bool 96
  cellMv : MinMax UInt16
  cellsMv : Vector UInt16 96
  temp : MinMax F
  rest : D
deriving Inhabited

/-- The two decoders, with errors `P`. -/
structure Decoder (F D P : Type) where
  rapidDataProcessor : Frame → Method (Data F D) P Bool
  diagDataProcessor : Frame → Method (Data F D) P (Option Frame)

/-! ## The receive loop -/

/-- The two kinds of `BMS` update. -/
inductive UpdateKind where
  | rapid
  | diag
deriving DecidableEq

/-- What `bms_rx` does to its surroundings.  `update` records the outcome of an
update closure, which the task only logs. -/
inductive Out (F B E : Type) where
  | wdt
  | update (kind : UpdateKind) (result : Except E Unit)
  | mqttFmt (bms : Bms F B)
  | lbcStatus (key : LbcKey)
  | send (frame : Frame)

/-- Locals of `bms_rx`; `reply` is the diagnostic reply whose `tx.send` is
awaited, `none` while the task waits for a frame. -/
structure State (F D : Type) where
  data : Data F D
  faa : UInt8
  f55 : UInt8
  reply : Option Frame
deriving Inhabited

/-- The task as it starts, with `Data::new()` as given. -/
def State.start (data : Data F D) : State F D := { data, faa := 0, f55 := 0, reply := none }

/-- What resumes `bms_rx`: a frame from `BMS_CHANNEL_RX`, or its own send. -/
inductive Input where
  | frame (frame : Frame)
  | sent

/-- Standard identifiers only. -/
def canid (frame : Frame) : Option UInt16 :=
  match frame.id with
  | .standard id => some id.asRaw
  | .extended _ => none

/-- `none` is the index panic on a payload of less than three bytes. -/
def x445Signal (frame : Frame) (faa f55 : UInt8) : Option (UInt8 × UInt8 × List (Out F B E)) :=
  match frame.data with
  | none => some (faa, f55, [])
  | some data =>
    match data.bytes[2]? with
    | none => none
    | some lbcKey =>
      if lbcKey = 0xaa then
        if faa + 1 = 4 then some (0, 0, [.lbcStatus .x5d]) else some (faa + 1, 0, [])
      else
        if f55 + 1 = 4 then some (0, 0, [.lbcStatus .xb2]) else some (0, f55 + 1, [])

/-- The update closure of the rapid path. -/
def rapidUpdate (std : BmsStandard F B E) (data : Data F D) : Method (Bms F B) E Unit := do
  std.setValid false
  std.setCurrent data.currentValue
  std.setSoc data.socValue
  std.setKwh data.kwhRemaining
  std.setPackTemp data.packTemp
  std.setValid true

/-- The update closure of the diagnostic path. -/
def diagUpdate [F32 F] (std : BmsStandard F B E) (data : Data F D) :
    Method (Bms F B) E Unit := do
  Method.assign fun bms => { bms with balCells := data.balCells }
  Method.assign fun bms => { bms with cellRangeMv := data.cellMv }
  Method.assign fun bms => { bms with packVolts := data.packVolts }
  std.setValid false
  std.setMaxDischargeAmps 35.0
  std.setCellMv data.cellsMv
  std.setPackVolts data.packVolts
  std.setTemps data.temp.minimum data.temp.maximum
  std.setMaxChargeAmps data.maxChargeAmps
  std.throttlePack
  std.setValid true
  Method.assign fun bms => { bms with dischargeMax := 35.0 }

/-- `push_all_to_mqtt` at the end of a successful diagnostic closure. -/
def pushAllToMqtt (cfg : Features) : UpdateKind → Except E Unit × Bms F B → List (Out F B E)
  | .diag, (.ok _, bms) => if cfg.mqtt then [.mqttFmt bms] else []
  | _, _ => []

/-- Stamp `LAST_BMS_MESSAGE`, then run an update closure on `BMS`.  The stamp is
written whether or not the closure succeeds. -/
def runUpdate (cfg : Features) (kind : UpdateKind) (update : Method (Bms F B) E Unit)
    (st : Statics F B) : Statics F B × List (Out F B E) :=
  let r := update st.bms
  ({ st.touch with bms := r.2 }, .wdt :: pushAllToMqtt cfg kind r ++ [.update kind r.1])

/-- One pass of the loop body over `frame`. -/
def receive [F32 F] (cfg : Features) (std : BmsStandard F B E) (dec : Decoder F D P)
    (st : Statics F B) (s : State F D) (frame : Frame) :
    Option (Statics F B × State F D × List (Out F B E)) :=
  match canid frame with
  | none => some (st, s, [])
  | some id =>
    if ¬ [0x155, 0x424, 0x425, 0x4ae, 0x7bb, 0x445].contains id then
      some (st, s, []) -- filter unwanted frames
    else if id = 0x445 then
      match x445Signal frame s.faa s.f55 with
      | none => none
      | some (faa, f55, os) => some (st, { s with faa, f55 }, os)
    else if id ≠ 1979 then
      match dec.rapidDataProcessor frame s.data with
      | (.error _, data) => some (st, { s with data }, [])
      | (.ok false, data) => some (st, { s with data }, [])
      | (.ok true, data) =>
        let r := runUpdate cfg .rapid (rapidUpdate std data) st
        some (r.1, { s with data }, r.2)
    else
      match dec.diagDataProcessor frame s.data with
      | (.ok none, data) =>
        let r := runUpdate cfg .diag (diagUpdate std data) st
        some (r.1, { s with data }, r.2)
      | (.ok (some nextTxFrame), data) => some (st, { s with data, reply := some nextTxFrame }, [])
      | (.error _, data) => some (st, { s with data }, [])

/-- `bms_rx` from one await point to the next. -/
def bmsRx [F32 F] (cfg : Features) (std : BmsStandard F B E) (dec : Decoder F D P)
    (st : Statics F B) (s : State F D) : Input → Option (Statics F B × State F D × List (Out F B E))
  | .frame frame =>
    match s.reply with
    | some _ => none
    | none => receive cfg std dec st s frame
  | .sent =>
    match s.reply with
    | some frame => some (st, { s with reply := none }, [.send frame])
    | none => none

/-! ## The periodic sender -/

/-- Locals of `bms_tx_periodic`. -/
structure Periodic where
  lbcKey : Option LbcKey
  counter : Nat

/-- Which of the two tickers fired: `PREAMBLE_TIME_MS` or `DIAG_TIME_MS`. -/
inductive Ticker where
  | preamble
  | diag

/-- The frame handed to `tx.try_send` when a ticker fires.  `request_frame` and
`request_tx_frame` of `ze40_bms` are parameters. -/
def bmsTxPeriodic (requestFrame : Option LbcKey → Frame) (requestTxFrame : Frame) (p : Periodic) :
    Ticker → Periodic × Frame
  | .preamble =>
    let counter := p.counter + 1
    let next : Periodic :=
      if 1 ≤ counter ∧ counter ≤ 5 then { lbcKey := some .x5d, counter }
      else if 6 ≤ counter ∧ counter ≤ 9 then { lbcKey := some .xb2, counter }
      else { lbcKey := some .xb2, counter := 0 }
    (next, requestFrame p.lbcKey)
  | .diag => (p, requestTxFrame)

/-! ## Runs of the task -/

/-- What happens around `bms_rx`: time passes, another task replaces
`BMS.config`, or `bms_rx` itself is resumed. -/
inductive Event (F : Type) where
  | elapse (d : Nat)
  | config (config : BmsConfig F)
  | task (input : Input)

/-- `bms_rx` among the shared cells. -/
def machine [F32 F] (cfg : Features) (std : BmsStandard F B E) (dec : Decoder F D P) :
    Machine (Statics F B × State F D) (Event F) (Out F B E) where
  step p
    | .elapse d => some (({ p.1 with now := p.1.now + d }, p.2), [])
    | .config config => some (({ p.1 with bms := { p.1.bms with config } }, p.2), [])
    | .task input => (bmsRx cfg std dec p.1 p.2 input).map fun r => ((r.1, r.2.1), r.2.2)

/-- The updates of `BMS` among the outputs, with their outcomes. -/
def updates (os : List (Out F B E)) : List (UpdateKind × Except E Unit) :=
  os.filterMap fun
    | .update kind result => some (kind, result)
    | _ => none

@[simp] theorem updates_nil : updates ([] : List (Out F B E)) = [] := rfl

@[simp] theorem updates_append (os ps : List (Out F B E)) :
    updates (os ++ ps) = updates os ++ updates ps := by
  simp [updates]

/-- Outcome of the most recent update. -/
def lastUpdate (os : List (Out F B E)) : Option (Except E Unit) :=
  (updates os).getLast?.map Prod.snd

/-- Outcome of the most recent update of one kind. -/
def lastUpdateOf (kind : UpdateKind) (os : List (Out F B E)) : Option (Except E Unit) :=
  ((updates os).filter (·.1 = kind)).getLast?.map Prod.snd

/-- The update closure of each path. -/
def updateOf [F32 F] (std : BmsStandard F B E) (data : Data F D) :
    UpdateKind → Method (Bms F B) E Unit
  | .rapid => rapidUpdate std data
  | .diag => diagUpdate std data

/-- The readings an update of each path works on: what the decoder of that path
leaves of `frame`. -/
def readings (dec : Decoder F D P) (frame : Frame) (data : Data F D) : UpdateKind → Data F D
  | .rapid => (dec.rapidDataProcessor frame data).2
  | .diag => (dec.diagDataProcessor frame data).2

/-- The path whose readings `frame` completes. -/
def completed (dec : Decoder F D P) (data : Data F D) (frame : Frame) : Option UpdateKind :=
  match canid frame with
  | none => none
  | some id =>
    if ¬ [0x155, 0x424, 0x425, 0x4ae, 0x7bb, 0x445].contains id then none
    else if id = 0x445 then none
    else if id ≠ 1979 then
      match (dec.rapidDataProcessor frame data).1 with
      | .ok true => some .rapid
      | _ => none
    else
      match (dec.diagDataProcessor frame data).1 with
      | .ok none => some .diag
      | _ => none

theorem updates_pushAllToMqtt (cfg : Features) (kind : UpdateKind)
    (r : Except E Unit × Bms F B) : updates (pushAllToMqtt cfg kind r) = [] := by
  unfold pushAllToMqtt
  split
  · split <;> rfl
  · rfl

@[simp] theorem updates_runUpdate (cfg : Features) (kind : UpdateKind)
    (update : Method (Bms F B) E Unit) (st : Statics F B) :
    updates (runUpdate cfg kind update st).2 = [(kind, (update st.bms).1)] := by
  have hpush := updates_pushAllToMqtt cfg kind (update st.bms)
  simp only [updates] at hpush
  simp [runUpdate, updates, hpush]

/-! ## What a step can do -/

theorem updates_x445Signal (h : x445Signal frame faa f55 = some (x, y, (os : List (Out F B E)))) :
    updates os = [] := by
  unfold x445Signal at h
  cases hd : frame.data with
  | none =>
      simp only [hd, Option.some.injEq, Prod.mk.injEq] at h
      rw [← h.2.2, updates_nil]
  | some data =>
      cases hk : data.bytes[2]? with
      | none => simp [hd, hk] at h
      | some lbcKey =>
          simp only [hd, hk] at h
          split at h <;> split at h
          all_goals
            simp only [Option.some.injEq, Prod.mk.injEq] at h
            rw [← h.2.2]
            rfl

/-- A pass without outputs. -/
theorem idle_of_some_eq {st st' : Statics F B} {s s' : State F D} {os : List (Out F B E)}
    (h : some (st, s, []) = some (st', s', os)) : st' = st ∧ updates os = [] := by
  simp only [Option.some.injEq, Prod.mk.injEq] at h
  obtain ⟨hst, _, hos⟩ := h
  rw [← hos]
  exact ⟨hst.symm, updates_nil⟩

/-- **Step lemma**: a pass over a frame leaves the shared cells alone, or it
completes the readings of a path, stamps `LAST_BMS_MESSAGE` and runs the update
closure of that path. -/
theorem receive_cases [F32 F] {cfg : Features} {std : BmsStandard F B E} {dec : Decoder F D P}
    {st st' : Statics F B} {s s' : State F D}
    (h : receive cfg std dec st s frame = some (st', s', os)) :
    ((st' = st ∧ updates os = []) ∧ completed dec s.data frame = none) ∨
      ∃ kind, completed dec s.data frame = some kind ∧
        s'.data = readings dec frame s.data kind ∧
        st' = (runUpdate cfg kind (updateOf std s'.data kind) st).1 ∧
        os = (runUpdate cfg kind (updateOf std s'.data kind) st).2 := by
  unfold receive at h
  unfold completed
  cases hid : canid frame with
  | none =>
      rw [hid] at h
      exact Or.inl ⟨idle_of_some_eq h, rfl⟩
  | some id =>
      simp only [hid] at h ⊢
      by_cases hwanted : ¬ [0x155, 0x424, 0x425, 0x4ae, 0x7bb, 0x445].contains id
      · rw [if_pos hwanted] at h ⊢
        exact Or.inl ⟨idle_of_some_eq h, rfl⟩
      rw [if_neg hwanted] at h ⊢
      by_cases hsignal : id = 0x445
      · rw [if_pos hsignal] at h ⊢
        cases hx : x445Signal (F := F) (B := B) (E := E) frame s.faa s.f55 with
        | none => simp [hx] at h
        | some r =>
            obtain ⟨faa, f55, os'⟩ := r
            simp only [hx, Option.some.injEq, Prod.mk.injEq] at h
            obtain ⟨hst, _, hos⟩ := h
            exact Or.inl ⟨⟨hst.symm, hos ▸ updates_x445Signal hx⟩, rfl⟩
      rw [if_neg hsignal] at h ⊢
      by_cases hrapid : id ≠ 1979
      · rw [if_pos hrapid] at h ⊢
        split at h
        · next hdata => exact Or.inl ⟨idle_of_some_eq h, by rw [hdata]⟩
        · next hdata => exact Or.inl ⟨idle_of_some_eq h, by rw [hdata]⟩
        · next hdata =>
            simp only [Option.some.injEq, Prod.mk.injEq] at h
            obtain ⟨hst, hs, hos⟩ := h
            subst hs
            exact Or.inr ⟨.rapid, by rw [hdata], by simp [readings, hdata], hst.symm, hos.symm⟩
      · rw [if_neg hrapid] at h ⊢
        split at h
        · next hdata =>
            simp only [Option.some.injEq, Prod.mk.injEq] at h
            obtain ⟨hst, hs, hos⟩ := h
            subst hs
            exact Or.inr ⟨.diag, by rw [hdata], by simp [readings, hdata], hst.symm, hos.symm⟩
        · next hdata => exact Or.inl ⟨idle_of_some_eq h, by rw [hdata]⟩
        · next hdata => exact Or.inl ⟨idle_of_some_eq h, by rw [hdata]⟩

/-- The step lemma for every way `bms_rx` is resumed. -/
theorem bmsRx_cases [F32 F] {cfg : Features} {std : BmsStandard F B E} {dec : Decoder F D P}
    {st st' : Statics F B} {s s' : State F D}
    (h : bmsRx cfg std dec st s input = some (st', s', os)) :
    ((st' = st ∧ updates os = []) ∧
        ∀ frame, input = .frame frame → completed dec s.data frame = none) ∨
      ∃ frame kind, input = .frame frame ∧ completed dec s.data frame = some kind ∧
        s'.data = readings dec frame s.data kind ∧
        st' = (runUpdate cfg kind (updateOf std s'.data kind) st).1 ∧
        os = (runUpdate cfg kind (updateOf std s'.data kind) st).2 := by
  cases input with
  | frame frame =>
      simp only [bmsRx] at h
      split at h
      · contradiction
      · rcases receive_cases h with ⟨hidle, hnone⟩ | ⟨kind, hupdate⟩
        · refine Or.inl ⟨hidle, fun frame' hf => ?_⟩
          rw [← Input.frame.inj hf]
          exact hnone
        · exact Or.inr ⟨frame, kind, rfl, hupdate⟩
  | sent =>
      simp only [bmsRx] at h
      split at h
      · simp only [Option.some.injEq, Prod.mk.injEq] at h
        have hidle : st' = st ∧ updates os = [] := ⟨h.1.symm, by rw [← h.2.2]; rfl⟩
        exact Or.inl ⟨hidle, fun frame hf => by contradiction⟩
      · contradiction

/-! ## The validity flag -/

/-- `set_valid(true)` as the last fallible link of a closure. -/
theorem raises_setValid {std : BmsStandard F B E} (hstd : std.StoresValid) :
    Method.Raises Bms.valid (std.setValid true) :=
  Method.Raises.of_set fun b => by rw [hstd.setValid]; exact ⟨rfl, rfl⟩

theorem lowers_setValid {std : BmsStandard F B E} (hstd : std.StoresValid) (b : Bms F B) :
    ∃ a b', std.setValid false b = (.ok a, b') ∧ b'.valid = false :=
  ⟨(), { b with valid := false }, hstd.setValid false b, rfl⟩

/-- The rapid closure leaves `valid` raised exactly when it succeeds. -/
theorem tells_rapidUpdate {std : BmsStandard F B E} (hstd : std.StoresValid) (data : Data F D) :
    Method.Tells Bms.valid (rapidUpdate std data) := by
  refine Method.Tells.of_lower (lowers_setValid hstd) fun _ => ?_
  refine Method.Raises.bind (hstd.setCurrent _) fun _ => ?_
  refine Method.Raises.bind (hstd.setSoc _) fun _ => ?_
  refine Method.Raises.bind (hstd.setKwh _) fun _ => ?_
  refine Method.Raises.bind (hstd.setPackTemp _) fun _ => ?_
  exact raises_setValid hstd

/-- The diagnostic closure leaves `valid` raised exactly when it succeeds. -/
theorem tells_diagUpdate [F32 F] {std : BmsStandard F B E} (hstd : std.StoresValid)
    (data : Data F D) : Method.Tells Bms.valid (diagUpdate std data) := by
  refine Method.Tells.assign_bind fun _ => Method.Tells.assign_bind fun _ =>
    Method.Tells.assign_bind fun _ => ?_
  refine Method.Tells.of_lower (lowers_setValid hstd) fun _ => ?_
  refine Method.Raises.bind (hstd.setMaxDischargeAmps _) fun _ => ?_
  refine Method.Raises.bind (hstd.setCellMv _) fun _ => ?_
  refine Method.Raises.bind (hstd.setPackVolts _) fun _ => ?_
  refine Method.Raises.bind (hstd.setTemps _ _) fun _ => ?_
  refine Method.Raises.bind (hstd.setMaxChargeAmps _) fun _ => ?_
  refine Method.Raises.bind hstd.throttlePack fun _ => ?_
  exact Method.Raises.bind_assign (raises_setValid hstd) fun _ => rfl

theorem tells_updateOf [F32 F] {std : BmsStandard F B E} (hstd : std.StoresValid)
    (data : Data F D) : ∀ kind, Method.Tells Bms.valid (updateOf std data kind)
  | .rapid => tells_rapidUpdate hstd data
  | .diag => tells_diagUpdate hstd data

/-- `BMS.valid` agrees with the outcome of the last update among `os`, if any. -/
def ValidTellsLast (os : List (Out F B E)) (p : Statics F B × State F D) : Prop :=
  ∀ result, lastUpdate os = some result → p.1.bms.valid = result.isOk

/-- An update at the end of the outputs is the last one. -/
theorem lastUpdate_append_runUpdate (ps : List (Out F B E)) (cfg : Features) (kind : UpdateKind)
    (update : Method (Bms F B) E Unit) (st : Statics F B) :
    lastUpdate (ps ++ (runUpdate cfg kind update st).2) = some (update st.bms).1 := by
  simp [lastUpdate]

theorem lastUpdate_append_of_updates_eq_nil (ps : List (Out F B E)) (h : updates os = []) :
    lastUpdate (ps ++ os) = lastUpdate ps := by
  simp [lastUpdate, h]

/-- What a step can be: the clock or the configuration moves, or `bms_rx` is resumed. -/
theorem step_cases [F32 F] {cfg : Features} {std : BmsStandard F B E} {dec : Decoder F D P}
    {p p' : Statics F B × State F D} (hs : (machine cfg std dec).step p e = some (p', os)) :
    (os = [] ∧ (∀ input, e ≠ .task input) ∧
        ∃ now config, p' = ({ p.1 with now, bms := { p.1.bms with config } }, p.2)) ∨
      ∃ input, e = .task input ∧ bmsRx cfg std dec p.1 p.2 input = some (p'.1, p'.2, os) := by
  cases e with
  | elapse d =>
      simp only [machine, Option.some.injEq, Prod.mk.injEq] at hs
      exact .inl ⟨hs.2.symm, by simp, _, p.1.bms.config, hs.1.symm⟩
  | config config =>
      simp only [machine, Option.some.injEq, Prod.mk.injEq] at hs
      exact .inl ⟨hs.2.symm, by simp, p.1.now, config, hs.1.symm⟩
  | task input =>
      simp only [machine, Option.map_eq_some_iff, Prod.mk.injEq] at hs
      obtain ⟨⟨st', s', os'⟩, hrx, rfl, rfl⟩ := hs
      exact .inr ⟨input, rfl, hrx⟩

/-- Every event keeps `ValidTellsLast`. -/
theorem validTellsLast_step [F32 F] {cfg : Features} {std : BmsStandard F B E}
    {dec : Decoder F D P} (hstd : std.StoresValid) {p p' : Statics F B × State F D}
    (hI : ValidTellsLast ps p) (hs : (machine cfg std dec).step p e = some (p', os)) :
    ValidTellsLast (ps ++ os) p' := by
  rcases step_cases hs with ⟨rfl, -, now, config, rfl⟩ | ⟨input, rfl, hrx⟩
  · simpa [ValidTellsLast] using hI
  · intro result hr
    cases bmsRx_cases hrx with
    | inl hidle =>
        rw [lastUpdate_append_of_updates_eq_nil ps hidle.1.2] at hr
        rw [hidle.1.1]
        exact hI result hr
    | inr hupd =>
        obtain ⟨_, kind, _, _, _, hst, hos⟩ := hupd
        have htells := tells_updateOf hstd p'.2.data kind p.1.bms
        rw [hos, lastUpdate_append_runUpdate] at hr
        rw [← Option.some.inj hr, ← htells, hst]
        rfl

/-- **The validity flag**: in every run of `bms_rx`, whatever the frames, the
decoders and the failing setters, once an update was attempted `BMS.valid` is
raised exactly when the most recent update, rapid or diagnostic, returned `Ok`. -/
theorem valid_eq_isOk_lastUpdate [F32 F] {cfg : Features} {std : BmsStandard F B E}
    {dec : Decoder F D P} (hstd : std.StoresValid) {st st' : Statics F B} {data : Data F D}
    {s' : State F D} {es : List (Event F)}
    (hrun : (machine cfg std dec).run (st, .start data) es = some ((st', s'), os))
    (hlast : lastUpdate os = some result) : st'.bms.valid = result.isOk := by
  have hI : ValidTellsLast ([] ++ os) (st', s') :=
    Machine.run_invariant (I := ValidTellsLast)
      (fun _ _ _ _ _ hI hs => validTellsLast_step hstd hI hs)
      (by intro _ h; contradiction) hrun
  exact hI result hlast

/-! ### A pack whose cell readings are rejected -/

/-- Setters of which `set_cell_mv` rejects every reading. -/
def rejectCells : BmsStandard Rat Unit Unit :=
  { BmsStandard.storeValid with setCellMv := fun _ b => (.error (), b) }

theorem storesValid_rejectCells : rejectCells.StoresValid :=
  { BmsStandard.storesValid_storeValid with setCellMv := fun _ _ => rfl }

/-- Decoders that complete a reading with every frame. -/
def everyFrame : Decoder Rat Unit Unit where
  rapidDataProcessor _ := pure true
  diagDataProcessor _ := pure none

/-- Zeros under a standard identifier. -/
def standardFrame (id : UInt16) (h : id ≤ 0x7FF) : Frame :=
  { id := .standard ⟨id, h⟩, data := some .zeros }

/-- A single rapid frame: the update succeeds and raises `valid`. -/
theorem valid_after_rapid_frame :
    ∃ st' s', (machine default rejectCells everyFrame).run (default, .start default)
        [.task (.frame (standardFrame 0x155 (by decide)))] =
          some ((st', s'), [.wdt, .update .rapid (.ok ())]) ∧
      st'.bms.valid = (Except.ok () : Except Unit Unit).isOk := by
  refine ⟨_, _, rfl, ?_⟩
  have hrun : (machine default rejectCells everyFrame).run (default, .start default)
      [.task (.frame (standardFrame 0x155 (by decide)))] =
        some ((_, _), [.wdt, .update .rapid (.ok ())]) := rfl
  exact valid_eq_isOk_lastUpdate storesValid_rejectCells hrun rfl

/-- `valid` does not wait for both kinds of data: a rapid update raises it right
after a diagnostic update failed, and before any diagnostic update succeeded. -/
theorem not_valid_only_after_both :
    ¬ ∀ (es : List (Event Rat)) (st' : Statics Rat Unit) (s' : State Rat Unit)
        (os : List (Out Rat Unit Unit)),
      (machine default rejectCells everyFrame).run (default, .start default) es =
          some ((st', s'), os) →
      lastUpdate os ≠ none → st'.bms.valid = true →
      lastUpdateOf .rapid os = some (.ok ()) ∧ lastUpdateOf .diag os = some (.ok ()) := by
  intro h
  have hboth := h [.task (.frame (standardFrame 0x7bb (by decide))), .task (.frame (standardFrame 0x155 (by decide)))]
    _ _ [.wdt, .update .diag (.error ()), .wdt, .update .rapid (.ok ())] rfl
    (by simp [lastUpdate, updates]) rfl
  have hdiag : lastUpdateOf .diag ([.wdt, .update .diag (.error ()), .wdt,
      .update .rapid (.ok ())] : List (Out Rat Unit Unit)) = some (.error ()) := rfl
  rw [hdiag] at hboth
  simp at hboth

end Toucan.Ze40
