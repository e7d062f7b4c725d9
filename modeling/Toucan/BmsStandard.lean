import Toucan.Types
import Toucan.Lib.Method

/-!
# Toucan.BmsStandard

The `bms_standard` crate as the tasks see it: the records whose fields they read
and write, and the setters of `Bms`.  The crate itself is not part of the
repository, so the setters are parameters: any fallible methods on `Bms`.
-/

namespace Toucan

/-- A range with its two ends. -/
structure MinMax (α : Type) where
  minimum : α
  maximum : α
deriving DecidableEq, Inhabited

/-- The limits a battery pack is run with (`bms_standard::Config`). -/
structure BmsConfig (F : Type) where
  chargeCurrent : MinMax F
  dischargeCurrent : MinMax F
  currentSensor : MinMax F
  packVolts : MinMax F
  cellTemperatures : MinMax F
  packTemperatures : MinMax F
  cellMillivoltPeak : UInt16
  cellsMv : MinMax UInt16
  cellMillivoltDeltaMax : UInt16
  soc : MinMax UInt8
deriving DecidableEq, Inhabited

/-- The pack state shared by the BMS and the inverter tasks.  `rest` stands for
the fields no modelled task touches except through the setters. -/
structure Bms (F B : Type) where
  valid : Bool
  balCells : Vector Bool 96
  cellRangeMv : MinMax UInt16
  packVolts : F
  dischargeMax : F
  config : BmsConfig F
  rest : B
deriving Inhabited

/-- The setters of `Bms`: each may fail, and may leave any value behind. -/
structure BmsStandard (F B E : Type) where
  setValid : Bool → Method (Bms F B) E Unit
  setCurrent : F → Method (Bms F B) E Unit
  setSoc : F → Method (Bms F B) E Unit
  setKwh : F → Method (Bms F B) E Unit
  setPackTemp : F → Method (Bms F B) E Unit
  setMaxDischargeAmps : F → Method (Bms F B) E Unit
  setMaxChargeAmps : F → Method (Bms F B) E Unit
  setPackVolts : F → Method (Bms F B) E Unit
  setTemps : F → F → Method (Bms F B) E Unit
  setCellMv : Vector UInt16 96 → Method (Bms F B) E Unit
  setCellMvLowHigh : UInt16 → UInt16 → Method (Bms F B) E Unit
  throttlePack : Method (Bms F B) E Unit

/-- `set_valid` stores its argument, and no other setter writes `valid`. -/
structure BmsStandard.StoresValid (std : BmsStandard F B E) : Prop where
  setValid : ∀ v b, std.setValid v b = (.ok (), { b with valid := v })
  setCurrent : ∀ x, Method.Keeps Bms.valid (std.setCurrent x)
  setSoc : ∀ x, Method.Keeps Bms.valid (std.setSoc x)
  setKwh : ∀ x, Method.Keeps Bms.valid (std.setKwh x)
  setPackTemp : ∀ x, Method.Keeps Bms.valid (std.setPackTemp x)
  setMaxDischargeAmps : ∀ x, Method.Keeps Bms.valid (std.setMaxDischargeAmps x)
  setMaxChargeAmps : ∀ x, Method.Keeps Bms.valid (std.setMaxChargeAmps x)
  setPackVolts : ∀ x, Method.Keeps Bms.valid (std.setPackVolts x)
  setTemps : ∀ x y, Method.Keeps Bms.valid (std.setTemps x y)
  setCellMv : ∀ x, Method.Keeps Bms.valid (std.setCellMv x)
  setCellMvLowHigh : ∀ x y, Method.Keeps Bms.valid (std.setCellMvLowHigh x y)
  throttlePack : Method.Keeps Bms.valid std.throttlePack

/-- The least crate with that behaviour: every setter succeeds, and only
`set_valid` stores anything. -/
def BmsStandard.storeValid : BmsStandard F B E where
  setValid v := Method.assign fun b => { b with valid := v }
  setCurrent _ := pure ()
  setSoc _ := pure ()
  setKwh _ := pure ()
  setPackTemp _ := pure ()
  setMaxDischargeAmps _ := pure ()
  setMaxChargeAmps _ := pure ()
  setPackVolts _ := pure ()
  setTemps _ _ := pure ()
  setCellMv _ := pure ()
  setCellMvLowHigh _ _ := pure ()
  throttlePack := pure ()

theorem BmsStandard.storesValid_storeValid :
    (BmsStandard.storeValid : BmsStandard F B E).StoresValid where
  setValid := fun _ _ => rfl
  setCurrent := fun _ => Method.Keeps.pure Bms.valid ()
  setSoc := fun _ => Method.Keeps.pure Bms.valid ()
  setKwh := fun _ => Method.Keeps.pure Bms.valid ()
  setPackTemp := fun _ => Method.Keeps.pure Bms.valid ()
  setMaxDischargeAmps := fun _ => Method.Keeps.pure Bms.valid ()
  setMaxChargeAmps := fun _ => Method.Keeps.pure Bms.valid ()
  setPackVolts := fun _ => Method.Keeps.pure Bms.valid ()
  setTemps := fun _ _ => Method.Keeps.pure Bms.valid ()
  setCellMv := fun _ => Method.Keeps.pure Bms.valid ()
  setCellMvLowHigh := fun _ _ => Method.Keeps.pure Bms.valid ()
  throttlePack := Method.Keeps.pure Bms.valid ()

end Toucan
