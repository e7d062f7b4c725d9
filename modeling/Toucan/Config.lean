import Toucan.BmsStandard

/-!
# Toucan.Config

The limits as the controller keeps them (`config/mod.rs`), and the two ways
between them and `BMS.config`: `main` imports what the pack starts with, and
`uart_task` exports what was edited.

The two mappings are written field by field.  `exportAsBms_importFromBms_iff`
says for which limits they are inverse to each other.
-/

namespace Toucan

/-! ## The mappings -/

/-- The limits of `CONFIG`; `dod` is known to the controller only. -/
structure Config (F : Type) where
  chargeCurrent : MinMax F
  dischargeCurrent : MinMax F
  currentSensor : MinMax F
  packVolts : MinMax F
  cellTemperatures : MinMax F
  packTemperatures : MinMax F
  cellMillivoltPeak : UInt16
  cellsMv : MinMax UInt16
  cellMillivoltDeltaMax : UInt16
  soc : MinMax UInt8
  dod : MinMax UInt8
deriving DecidableEq

/-- The getters of `bms_standard::Config` that the import calls. -/
structure BmsGetters (F : Type) where
  chargeCurrentLimts : BmsConfig F → MinMax F
  dischargeCurrentLimts : BmsConfig F → MinMax F
  currentSensorLimts : BmsConfig F → MinMax F
  packVolts : BmsConfig F → MinMax F
  packTemperatures : BmsConfig F → MinMax F
  cellMillivoltPeak : BmsConfig F → UInt16
  cellsMv : BmsConfig F → MinMax UInt16
  cellMillivoltDeltaMax : BmsConfig F → UInt16
  soc : BmsConfig F → MinMax UInt8

/-- Every getter reads the field it is named after. -/
structure BmsGetters.ReadsFields (get : BmsGetters F) : Prop where
  chargeCurrentLimts : ∀ b, get.chargeCurrentLimts b = b.chargeCurrent
  dischargeCurrentLimts : ∀ b, get.dischargeCurrentLimts b = b.dischargeCurrent
  currentSensorLimts : ∀ b, get.currentSensorLimts b = b.currentSensor
  packVolts : ∀ b, get.packVolts b = b.packVolts
  packTemperatures : ∀ b, get.packTemperatures b = b.packTemperatures
  cellMillivoltPeak : ∀ b, get.cellMillivoltPeak b = b.cellMillivoltPeak
  cellsMv : ∀ b, get.cellsMv b = b.cellsMv
  cellMillivoltDeltaMax : ∀ b, get.cellMillivoltDeltaMax b = b.cellMillivoltDeltaMax
  soc : ∀ b, get.soc b = b.soc

/-- The fields themselves as getters. -/
def BmsGetters.fields : BmsGetters F where
  chargeCurrentLimts := BmsConfig.chargeCurrent
  dischargeCurrentLimts := BmsConfig.dischargeCurrent
  currentSensorLimts := BmsConfig.currentSensor
  packVolts := BmsConfig.packVolts
  packTemperatures := BmsConfig.packTemperatures
  cellMillivoltPeak := BmsConfig.cellMillivoltPeak
  cellsMv := BmsConfig.cellsMv
  cellMillivoltDeltaMax := BmsConfig.cellMillivoltDeltaMax
  soc := BmsConfig.soc

theorem BmsGetters.readsFields_fields : (BmsGetters.fields : BmsGetters F).ReadsFields := by
  constructor <;> exact fun _ => rfl

namespace Config

/-- `From<&Config> for bms_standard::Config` -/
def exportAsBms (c : Config F) : BmsConfig F where
  chargeCurrent := c.chargeCurrent
  dischargeCurrent := c.dischargeCurrent
  currentSensor := c.currentSensor
  packVolts := c.packVolts
  cellTemperatures := c.cellTemperatures
  packTemperatures := c.packTemperatures
  cellMillivoltPeak := c.cellMillivoltPeak
  cellsMv := c.cellsMv
  cellMillivoltDeltaMax := c.cellMillivoltDeltaMax
  soc := c.soc

/-- `Config::import_from_bms`; both temperature ranges are read with the same
getter. -/
def importFromBms (get : BmsGetters F) (c : Config F) (bmsConfig : BmsConfig F) : Config F :=
  { c with
    chargeCurrent := get.chargeCurrentLimts bmsConfig
    dischargeCurrent := get.dischargeCurrentLimts bmsConfig
    currentSensor := get.currentSensorLimts bmsConfig
    packVolts := get.packVolts bmsConfig
    cellTemperatures := get.packTemperatures bmsConfig
    packTemperatures := get.packTemperatures bmsConfig
    cellMillivoltPeak := get.cellMillivoltPeak bmsConfig
    cellsMv := get.cellsMv bmsConfig
    cellMillivoltDeltaMax := get.cellMillivoltDeltaMax bmsConfig
    soc := get.soc bmsConfig }

/-! ## Inverse mappings -/

section Mappings

variable {get : BmsGetters F} (hget : get.ReadsFields)
include hget

/-- What comes back of imported limits: all of them, with the range of the cells
overwritten by that of the pack. -/
theorem exportAsBms_importFromBms (c : Config F) (b : BmsConfig F) :
    (c.importFromBms get b).exportAsBms = { b with cellTemperatures := b.packTemperatures } := by
  simp only [exportAsBms, importFromBms, hget.chargeCurrentLimts, hget.dischargeCurrentLimts,
    hget.currentSensorLimts, hget.packVolts, hget.packTemperatures, hget.cellMillivoltPeak,
    hget.cellsMv, hget.cellMillivoltDeltaMax, hget.soc]

/-- The same for exported limits. -/
theorem importFromBms_exportAsBms (c : Config F) :
    c.importFromBms get c.exportAsBms = { c with cellTemperatures := c.packTemperatures } := by
  simp only [exportAsBms, importFromBms, hget.chargeCurrentLimts, hget.dischargeCurrentLimts,
    hget.currentSensorLimts, hget.packVolts, hget.packTemperatures, hget.cellMillivoltPeak,
    hget.cellsMv, hget.cellMillivoltDeltaMax, hget.soc]

/-- **The limits there and back**: import and export are inverse to each other
exactly on limits that give the cells the temperature range of the pack. -/
theorem exportAsBms_importFromBms_iff :
    (∀ (c : Config F) (b : BmsConfig F),
        (c.importFromBms get b).exportAsBms = b ↔ b.cellTemperatures = b.packTemperatures) ∧
      ∀ c : Config F,
        c.importFromBms get c.exportAsBms = c ↔ c.cellTemperatures = c.packTemperatures := by
  constructor
  · intro c b
    rw [exportAsBms_importFromBms hget]
    constructor
    · intro h
      exact (congrArg BmsConfig.cellTemperatures h).symm
    · intro h
      exact congrArg (fun cellTemperatures => { b with cellTemperatures }) h.symm
  · intro c
    rw [importFromBms_exportAsBms hget]
    constructor
    · intro h
      exact (congrArg Config.cellTemperatures h).symm
    · intro h
      exact congrArg (fun cellTemperatures => { c with cellTemperatures }) h.symm

end Mappings

/-! ### A pack that keeps its cells warmer -/

/-- The defaults of the controller. -/
def defaults : Config Rat where
  chargeCurrent := ⟨0, 200⟩
  dischargeCurrent := ⟨0, 200⟩
  currentSensor := ⟨-40, 40⟩
  packVolts := ⟨300, 400⟩
  cellTemperatures := ⟨-20, 50⟩
  packTemperatures := ⟨-20, 50⟩
  cellMillivoltPeak := 4200
  cellsMv := ⟨3000, 4150⟩
  cellMillivoltDeltaMax := 500
  soc := ⟨0, 100⟩
  dod := ⟨0, 90⟩

/-- The same limits, with the cells kept between 5 and 45 degrees. -/
def warmCells : Config Rat := { defaults with cellTemperatures := ⟨5, 45⟩ }

/-- The default limits survive both ways. -/
theorem importFromBms_defaults :
    (defaults.importFromBms .fields defaults.exportAsBms).exportAsBms = defaults.exportAsBms ∧
      defaults.importFromBms .fields defaults.exportAsBms = defaults := by
  obtain ⟨hexport, himport⟩ :=
    exportAsBms_importFromBms_iff (BmsGetters.readsFields_fields (F := Rat))
  exact ⟨(hexport defaults defaults.exportAsBms).mpr rfl, (himport defaults).mpr rfl⟩

/-- The range of the cells is lost both ways. -/
theorem not_exportAsBms_importFromBms :
    (¬ ∀ (c : Config Rat) (b : BmsConfig Rat), (c.importFromBms .fields b).exportAsBms = b) ∧
      ¬ ∀ c : Config Rat, c.importFromBms .fields c.exportAsBms = c := by
  constructor
  · intro h
    have hcells := congrArg BmsConfig.cellTemperatures (h defaults warmCells.exportAsBms)
    exact absurd hcells (by decide)
  · intro h
    have hcells := congrArg Config.cellTemperatures (h warmCells)
    exact absurd hcells (by decide)

end Config

end Toucan
