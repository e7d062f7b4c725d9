import Toucan.Tasks.Ze40

/-!
# Toucan.Tasks.Ze40Discharge

The discharge limit a diagnostic update publishes.  The update asks for 35 A, has
`throttle_pack` cut that down to what the pack can give, raises `valid` -- and
then writes 35 A over the result.

`dischargeLimited_iff` says when that does no harm: exactly when `throttle_pack`
never cut below 35 A.
-/

namespace Toucan.Ze40

/-! ## Up to the throttle -/

/-- The diagnostic closure up to `throttle_pack`. -/
def diagToThrottle [F32 F] (std : BmsStandard F B E) (data : Data F D) :
    Method (Bms F B) E Unit := do
  Method.assign fun bms => { bms with balCells := data.balCells }
  Method.assign fun bms => { bms with cellRangeMv := data.cellMv }
  Method.assign fun bms => { bms with packVolts := data.packVolts }
  std.setValid false
  std.setMaxDischargeAmps 35.0
  std.setCellMv data.cellsMv
  std.setPackVolts data.packVolts
  std.setTemps data.temp.minimum data.temp.maximum
  std.setMaxChargeAmps data.maxChargeAmps

/-- What `throttle_pack` made of the discharge limit in an update: the value it
computed, and the configured maximum it worked under. -/
structure Throttling (F : Type) where
  computed : F
  maximum : F

/-- The throttling of a diagnostic update of `bms`; `none` when the update fails
before its end. -/
def throttling [F32 F] (std : BmsStandard F B E) (data : Data F D) (bms : Bms F B) :
    Option (Throttling F) :=
  match diagToThrottle std data bms with
  | (.error _, _) => none
  | (.ok _, given) =>
    match std.throttlePack given with
    | (.error _, _) => none
    | (.ok _, throttled) =>
      some { computed := throttled.dischargeMax, maximum := given.config.dischargeCurrent.maximum }

theorem diagUpdate_eq [F32 F] (std : BmsStandard F B E) (data : Data F D) :
    diagUpdate std data = diagToThrottle std data >>= fun _ => std.throttlePack >>= fun _ =>
      std.setValid true >>= fun _ => Method.assign fun bms => { bms with dischargeMax := 35.0 } := by
  simp only [diagUpdate, diagToThrottle, Method.bind_assoc]

/-- A diagnostic update succeeds exactly when the throttle does, and publishes
35 A whatever that was. -/
theorem diagUpdate_spec [F32 F] {std : BmsStandard F B E} (hstd : std.StoresValid)
    (data : Data F D) (bms : Bms F B) :
    (diagUpdate std data bms).1.isOk = (throttling std data bms).isSome ∧
      ((throttling std data bms).isSome = true →
        (diagUpdate std data bms).2.dischargeMax = 35.0) := by
  rw [diagUpdate_eq]
  unfold throttling
  cases hgiven : diagToThrottle std data bms with
  | mk r given =>
      cases r with
      | error e =>
          rw [Method.bind_of_error hgiven]
          simp [Except.isOk, Except.toBool]
      | ok a =>
          rw [Method.bind_of_ok hgiven]
          cases hthrottled : std.throttlePack given with
          | mk r throttled =>
              cases r with
              | error e =>
                  rw [Method.bind_of_error hthrottled]
                  simp only [hthrottled]
                  simp [Except.isOk, Except.toBool]
              | ok a =>
                  rw [Method.bind_of_ok hthrottled, Method.bind_of_ok (hstd.setValid true throttled)]
                  simp only [hthrottled]
                  simp [Except.isOk, Except.toBool]

/-- What `throttle_pack` promises: it does not exceed the configured maximum. -/
def RespectsMaximum [LE F] (std : BmsStandard F B E) : Prop :=
  ∀ b b', std.throttlePack b = (.ok (), b') →
    b'.dischargeMax ≤ b.config.dischargeCurrent.maximum

theorem computed_le_maximum [F32 F] [LE F] {std : BmsStandard F B E} (hstd : RespectsMaximum std)
    {data : Data F D} {bms : Bms F B} (h : throttling std data bms = some t) :
    t.computed ≤ t.maximum := by
  unfold throttling at h
  split at h
  · contradiction
  · split at h
    · contradiction
    · next hthrottled =>
        rw [← Option.some.inj h]
        exact hstd _ _ hthrottled

/-! ## The published limit -/

/-- The last update of the run, if it was a successful diagnostic one: the
readings and the pack it ran on. -/
abbrev LastDiag (F B D : Type) := Option (Data F D × Bms F B)

def LastDiag.next [F32 F] (dec : Decoder F D P) (last : LastDiag F B D)
    (p : Statics F B × State F D) (e : Event F) (os : List (Out F B E)) : LastDiag F B D :=
  match updates os with
  | [] => last
  | (.diag, .ok _) :: _ =>
    match e with
    | .task (.frame frame) => some (readings dec frame p.2.data .diag, p.1.bms)
    | _ => none
  | _ => none

/-- `bms_rx` with what raised `BMS.valid`. -/
def diagMachine [F32 F] (cfg : Features) (std : BmsStandard F B E) (dec : Decoder F D P) :
    Machine ((Statics F B × State F D) × LastDiag F B D) (Event F) (Out F B E) :=
  (machine cfg std dec).withHistory fun last p e os => last.next dec p e os

/-- While `BMS` is valid by a diagnostic update, its discharge limit is within what
`throttle_pack` computed in that update and within the maximum configured then. -/
def DischargeLimited [F32 F] [LE F] (std : BmsStandard F B E)
    (p : (Statics F B × State F D) × LastDiag F B D) : Prop :=
  p.1.1.bms.valid = true → ∀ data bms, p.2 = some (data, bms) →
    ∃ t, throttling std data bms = some t ∧
      p.1.1.bms.dischargeMax ≤ t.computed ∧ p.1.1.bms.dischargeMax ≤ t.maximum

/-- A frame that completes the diagnostic readings finds a pack that
`throttle_pack`, where the update gets through to the end, leaves at 35 A or more. -/
def ThrottledAbove [F32 F] [LE F] (std : BmsStandard F B E) (dec : Decoder F D P)
    (p : (Statics F B × State F D) × LastDiag F B D) : Event F → Prop
  | .task (.frame frame) =>
    completed dec p.1.2.data frame = some .diag →
      ∀ t, throttling std (readings dec frame p.1.2.data .diag) p.1.1.bms = some t →
        35.0 ≤ t.computed
  | _ => True

section Runs

variable [F32 F] [LE F] {cfg : Features} {std : BmsStandard F B E} {dec : Decoder F D P}

/-- A step that only moves the clock or the configuration, or runs no update. -/
theorem dischargeLimited_of_eq {p p' : (Statics F B × State F D) × LastDiag F B D}
    (hI : DischargeLimited std p) (hvalid : p'.1.1.bms.valid = p.1.1.bms.valid)
    (hmax : p'.1.1.bms.dischargeMax = p.1.1.bms.dischargeMax) (hlast : p'.2 = p.2) :
    DischargeLimited std p' := by
  intro hv data bms hd
  rw [hmax]
  rw [hvalid] at hv
  rw [hlast] at hd
  exact hI hv data bms hd

/-- A diagnostic update leaves the limit within bounds exactly when the throttle,
if it got that far, computed 35 A or more. -/
theorem dischargeLimited_diagUpdate (hstd : std.StoresValid) (hmax : RespectsMaximum std)
    (htrans : ∀ {x y z : F}, x ≤ y → y ≤ z → x ≤ z) {data : Data F D} {bms : Bms F B}
    {p' : (Statics F B × State F D) × LastDiag F B D}
    (hbms : p'.1.1.bms = (diagUpdate std data bms).2)
    (hlast : p'.2 = if (diagUpdate std data bms).1.isOk then some (data, bms) else none) :
    DischargeLimited std p' ↔
      ∀ t, throttling std data bms = some t → 35.0 ≤ t.computed := by
  obtain ⟨hok, hpublished⟩ := diagUpdate_spec hstd data bms
  have hvalid : p'.1.1.bms.valid = (diagUpdate std data bms).1.isOk := by
    rw [hbms]
    exact tells_diagUpdate hstd data bms
  rw [hok] at hlast hvalid
  unfold DischargeLimited
  cases ht : throttling std data bms with
  | none =>
      rw [ht] at hvalid
      simp [hvalid]
  | some t =>
      have hle : t.computed ≤ t.maximum := computed_le_maximum hmax ht
      rw [ht] at hvalid hlast hpublished
      have hdischarge : p'.1.1.bms.dischargeMax = 35.0 := by
        rw [hbms]
        exact hpublished rfl
      rw [hvalid, hlast, hdischarge]
      simp only [Option.isSome_some, if_true, true_implies, Option.some.injEq, Prod.mk.injEq,
        forall_eq']
      constructor
      · intro h
        obtain ⟨t', ht', hcomputed, _⟩ := h data bms ⟨rfl, rfl⟩
        rw [ht] at ht'
        rw [Option.some.inj ht']
        exact hcomputed
      · rintro h data' bms' ⟨rfl, rfl⟩
        exact ⟨t, ht, h, htrans h hle⟩

/-- When `bms_rx` is resumed, from a limit within bounds. -/
theorem dischargeLimited_input (hstd : std.StoresValid) (hmax : RespectsMaximum std)
    (htrans : ∀ {x y z : F}, x ≤ y → y ≤ z → x ≤ z) {p p' : Statics F B × State F D}
    {last : LastDiag F B D} (hI : DischargeLimited std (p, last))
    (hrx : bmsRx cfg std dec p.1 p.2 input = some (p'.1, p'.2, os)) :
    DischargeLimited std (p', last.next dec p (.task input) os) ↔
      ThrottledAbove std dec (p, last) (.task input) := by
  rcases bmsRx_cases hrx with ⟨⟨hst, hnone⟩, hframe⟩ | ⟨frame, kind, rfl, hkind, hdata, hst, hos⟩
  · -- no update
    have hlast : last.next dec p (.task input) os = last := by
      simp only [LastDiag.next, hnone]
    have habove : ThrottledAbove std dec (p, last) (.task input) := by
      cases input with
      | sent => trivial
      | frame frame =>
          intro hdiag
          rw [hframe frame rfl] at hdiag
          contradiction
    rw [hlast]
    exact iff_of_true (dischargeLimited_of_eq hI (by rw [hst]) (by rw [hst]) rfl) habove
  · have hupdates : updates os = [(kind, (updateOf std p'.2.data kind p.1.bms).1)] := by
      rw [hos, updates_runUpdate]
    have hbms : p'.1.bms = (updateOf std p'.2.data kind p.1.bms).2 := by
      rw [hst]
      rfl
    cases kind with
    | rapid =>
        refine iff_of_true ?_ fun hdiag => ?_
        · intro _ data bms hsome
          simp [LastDiag.next, hupdates] at hsome
        · rw [hkind] at hdiag
          contradiction
    | diag =>
        have hlast : last.next dec p (.task (.frame frame)) os =
            if (diagUpdate std p'.2.data p.1.bms).1.isOk then some (p'.2.data, p.1.bms)
            else none := by
          rw [hdata]
          simp only [LastDiag.next, hupdates, hdata, updateOf]
          cases (diagUpdate std (readings dec frame p.2.data .diag) p.1.bms).1 with
          | ok a => rfl
          | error e => rfl
        have hiff : DischargeLimited std (p', last.next dec p (.task (.frame frame)) os) ↔ _ :=
          dischargeLimited_diagUpdate hstd hmax htrans hbms hlast
        rw [hiff, hdata]
        simp only [ThrottledAbove, hkind, true_implies]

/-- **Step lemma**: from a limit within bounds, a step leaves it within bounds
exactly when it does not publish over a lower one. -/
theorem dischargeLimited_step (hstd : std.StoresValid) (hmax : RespectsMaximum std)
    (htrans : ∀ {x y z : F}, x ≤ y → y ≤ z → x ≤ z)
    {p p' : (Statics F B × State F D) × LastDiag F B D} (hI : DischargeLimited std p)
    (hstep : (diagMachine cfg std dec).step p e = some (p', os)) :
    DischargeLimited std p' ↔ ThrottledAbove std dec p e := by
  obtain ⟨p, last⟩ := p
  obtain ⟨p', last'⟩ := p'
  obtain ⟨hs, rfl⟩ := Machine.withHistory_step_eq_some.mp hstep
  rcases step_cases hs with ⟨rfl, hother, now, config, rfl⟩ | ⟨input, rfl, hrx⟩
  · have habove : ThrottledAbove std dec (p, last) e := by
      cases e with
      | task input => exact absurd rfl (hother input)
      | _ => trivial
    exact iff_of_true (dischargeLimited_of_eq hI rfl rfl rfl) habove
  · exact dischargeLimited_input hstd hmax htrans hI hrx

/-- **The published limit**: in every run, whatever the configuration becomes in
between, the discharge limit of a pack made valid by a diagnostic update is within
what `throttle_pack` computed and within the configured maximum exactly when
`throttle_pack` never computed less than 35 A. -/
theorem dischargeLimited_iff (hstd : std.StoresValid) (hmax : RespectsMaximum std)
    (htrans : ∀ {x y z : F}, x ≤ y → y ≤ z → x ≤ z) {st : Statics F B} {data : Data F D}
    {es : List (Event F)} :
    (diagMachine cfg std dec).Along (fun _ _ _ p' => DischargeLimited std p')
        ((st, .start data), none) es ↔
      (diagMachine cfg std dec).Along (fun p e _ _ => ThrottledAbove std dec p e)
        ((st, .start data), none) es := by
  refine Machine.along_iff_along (I := DischargeLimited std) ?_ ?_ ?_
  · exact fun p e p' os hI hs => dischargeLimited_step hstd hmax htrans hI hs
  · exact fun _ _ _ _ _ _ hq => hq
  · intro _ data bms hd
    contradiction

end Runs

/-! ### A cold pack -/

/-- Setters whose `throttle_pack` allows `amps`, but no more than the maximum. -/
def derated (amps : Rat) : BmsStandard Rat Unit Unit :=
  { BmsStandard.storeValid with
    throttlePack := Method.assign fun b =>
      let maximum := b.config.dischargeCurrent.maximum
      { b with dischargeMax := if amps ≤ maximum then amps else maximum } }

theorem storesValid_derated (amps : Rat) : (derated amps).StoresValid :=
  { BmsStandard.storesValid_storeValid with throttlePack := fun _ => rfl }

theorem respectsMaximum_derated (amps : Rat) : RespectsMaximum (derated amps) := by
  intro b b' h
  rw [← (Prod.mk.inj h).2]
  show (if amps ≤ b.config.dischargeCurrent.maximum then amps else _) ≤ _
  split
  · assumption
  · exact Rat.le_refl

theorem standard_0x7bb : (0x7bb : UInt16) ≤ 0x7FF := by decide

/-- A configured maximum of 40 A, then a frame that completes the readings. -/
def configured : List (Event Rat) :=
  [.config { (default : BmsConfig Rat) with dischargeCurrent := ⟨0, 40⟩ },
    .task (.frame (standardFrame 0x7bb standard_0x7bb))]

/-- A pack good for 38 A is published with 35 A. -/
theorem dischargeLimited_derated :
    (diagMachine default (derated 38) everyFrame).Along
        (fun _ _ _ p' => DischargeLimited (derated 38) p')
      ((default, .start default), none) configured := by
  refine (dischargeLimited_iff (storesValid_derated 38) (respectsMaximum_derated 38)
    Rat.le_trans).mpr ?_
  refine ⟨trivial, fun _ t ht => ?_, trivial⟩
  rw [← Option.some.inj ht]
  decide +kernel

/-- A pack good for 20 A is published with 35 A all the same. -/
theorem not_dischargeLimited :
    ¬ ∀ es, (diagMachine default (derated 20) everyFrame).Along
        (fun _ _ _ p' => DischargeLimited (derated 20) p') ((default, .start default), none) es := by
  intro h
  obtain ⟨_, hlimited, _⟩ := h configured
  obtain ⟨t, ht, hcomputed, _⟩ := hlimited rfl _ _ rfl
  rw [← Option.some.inj ht] at hcomputed
  exact absurd hcomputed (by decide +kernel)

end Toucan.Ze40
