import Toucan.Tasks.Ze50

/-!
# Toucan.Tasks.Ze50Filter

What reaches the decoder of a ZE50 build: the acceptance filter that
`can1_init` (`can_interfaces.rs`) puts into the CAN peripheral, and behind it
the test in `bms_rx`.

The filter compares 25 of the 29 identifier bits, and the test in `bms_rx`
refuses nothing (`handedOver_eq_some`), so the four top bits are nobody's:
`onlyPack_iff`.
-/

namespace Toucan.Ze50

/-! ## The acceptance filter -/

/-- `filter::Mask32` of the `bxcan` crate, made by `frames_with_ext_id`: data and
remote frames with an extended identifier that agrees with `id` where `mask`
has a one. -/
structure Mask32 where
  id : ExtendedId
  mask : ExtendedId

def Mask32.passes (filter : Mask32) (frame : Frame) : Bool :=
  match frame.id with
  | .standard _ => false
  | .extended id => id.asRaw &&& filter.mask.asRaw == filter.id.asRaw &&& filter.mask.asRaw

theorem filterId_le : (0x18DAF1DB : UInt32) ≤ 0x1FFFFFFF := by decide

theorem filterMask_le : (0x1ffffff : UInt32) ≤ 0x1FFFFFFF := by decide

/-- The filter of the BMS bus on a ZE50 build. -/
def can1Filter : Mask32 :=
  { id := ⟨0x18DAF1DB, filterId_le⟩, mask := ⟨0x1ffffff, filterMask_le⟩ }

theorem can1Filter_passes_iff (frame : Frame) :
    can1Filter.passes frame = true ↔
      ∃ id, frame.id = .extended id ∧ id.asRaw &&& 0x1ffffff = 0xDAF1DB := by
  cases h : frame.id with
  | standard id => simp [Mask32.passes, h]
  | extended id =>
      have hfilter : (0x18DAF1DB : UInt32) &&& 0x1ffffff = 0xDAF1DB := by decide
      simp [Mask32.passes, can1Filter, h, hfilter]

/-! ## What `bms_rx` hands over -/

/-- A `process_payload` that only remembers the bytes it is given. -/
def remember : ProcessPayload Unit (Option (List UInt8)) Empty := fun bytes =>
  Method.assign fun data => { data with rest := some bytes }

/-- The bytes `bms_rx` hands to `process_payload` for a frame, if it calls it. -/
def handedOver (frame : Frame) : Option (List UInt8) :=
  (bmsRx (B := Unit) remember default default frame).2.rest

/-- No extended identifier is the complement of one: the test of `bms_rx` never
skips a frame. -/
theorem ne_complement (id : ExtendedId) : id.asRaw ≠ ~~~0x18DAF1DB := by
  intro h
  have hle := id.le
  rw [h] at hle
  contradiction

/-- Every data frame with an extended identifier is handed over. -/
theorem handedOver_eq_some {frame : Frame} :
    handedOver frame = some bytes ↔
      (∃ id, frame.id = .extended id) ∧ ∃ data, frame.data = some data ∧ bytes = data.bytes := by
  unfold handedOver bmsRx
  cases hid : frame.id with
  | standard id => simp [default, instInhabitedData.default]
  | extended id =>
      simp only [if_neg (ne_complement id)]
      cases hdata : frame.data with
      | none => simp [default, instInhabitedData.default]
      | some data => simp [remember, eq_comm]

theorem handedOver_isSome {frame : Frame} {id : ExtendedId} (hid : frame.id = .extended id) :
    (handedOver frame).isSome = frame.data.isSome := by
  unfold handedOver bmsRx
  simp only [hid, if_neg (ne_complement id)]
  cases hdata : frame.data with
  | none => simp [default, instInhabitedData.default]
  | some data => simp [remember]

/-- What `bms_rx` does to a frame is what `process_payload` does to the bytes
handed over. -/
theorem bmsRx_of_handedOver {process : ProcessPayload F Z P} (st : Statics F B) (data : Data F Z)
    {frame : Frame} (h : handedOver frame = some bytes) :
    bmsRx process st data frame =
      (if (process bytes data).1.isOk then st.touch else st, (process bytes data).2) := by
  obtain ⟨⟨id, hid⟩, payload, hdata, rfl⟩ := handedOver_eq_some.mp h
  simp only [bmsRx, hid, hdata, if_neg (ne_complement id)]
  cases hp : process payload.bytes data with
  | mk r data' => cases r <;> simp [Except.isOk, Except.toBool]

/-- A frame that is not handed over does nothing. -/
theorem bmsRx_of_not_handedOver {process : ProcessPayload F Z P} (st : Statics F B)
    (data : Data F Z) {frame : Frame} (h : handedOver frame = none) :
    bmsRx process st data frame = (st, data) := by
  unfold bmsRx
  cases hid : frame.id with
  | standard id => rfl
  | extended id =>
      have hnone : frame.data = none := by simpa [h] using handedOver_isSome hid
      simp [hnone]

/-! ## The two layers together -/

/-- A frame that passes the filter and is handed over is a data frame of the pack. -/
def OnlyPack (frame : Frame) : Prop :=
  can1Filter.passes frame = true → (handedOver frame).isSome = true →
    frame.data.isSome = true ∧ ∃ id, frame.id = .extended id ∧ id.asRaw = 0x18DAF1DB

/-- Not a data frame that agrees with the pack's identifier in the low 25 bits
only: its four top bits are the pack's too. -/
def TopBitsOfPack (frame : Frame) : Prop :=
  ∀ id, frame.id = .extended id → frame.data.isSome = true →
    id.asRaw &&& 0x1ffffff = 0xDAF1DB → id.asRaw >>> 25 = 0b1100

/-- Low and top bits make the identifier. -/
theorem eq_of_low_of_top {n : UInt32} (hlow : n &&& 0x1ffffff = 0xDAF1DB) :
    n = 0x18DAF1DB ↔ n >>> 25 = 0b1100 := by
  have hmod : n.toNat % 2 ^ 25 = 0xDAF1DB := by
    have h := congrArg UInt32.toNat hlow
    rw [UInt32.toNat_and] at h
    rw [← Nat.and_two_pow_sub_one_eq_mod]
    exact h
  have htop : (n >>> 25).toNat = n.toNat / 2 ^ 25 := by
    rw [UInt32.toNat_shiftRight, Nat.shiftRight_eq_div_pow]
    rfl
  rw [← UInt32.toNat_inj, ← UInt32.toNat_inj, htop]
  simp only [UInt32.reduceToNat]
  omega

/-- **Filter and test together**: a frame is handed to the decoder only when it
is a data frame of the pack, exactly when it is no extended data frame that
differs from the pack's in the four top bits of the identifier alone. -/
theorem onlyPack_iff (frame : Frame) : OnlyPack frame ↔ TopBitsOfPack frame := by
  unfold OnlyPack TopBitsOfPack
  rw [can1Filter_passes_iff]
  cases hid : frame.id with
  | standard id => simp
  | extended id =>
      rw [handedOver_isSome hid]
      simp only [Id.extended.injEq, exists_eq_left', forall_eq']
      constructor
      · intro h hdata hlow
        exact (eq_of_low_of_top hlow).mp (h hlow hdata).2
      · intro h hlow hdata
        exact ⟨hdata, (eq_of_low_of_top hlow).mpr (h hdata hlow)⟩

/-- The top bits cleared: another node's frame, handed over as the pack's. -/
theorem not_onlyPack : ¬ ∀ frame, OnlyPack frame := by
  intro h
  have hpack := h { id := .extended ⟨0x00DAF1DB, by decide⟩, data := some .zeros } rfl rfl
  obtain ⟨_, id, hid, hraw⟩ := hpack
  have hraw' := congrArg ExtendedId.asRaw (Id.extended.inj hid)
  rw [hraw] at hraw'
  contradiction

end Toucan.Ze50
