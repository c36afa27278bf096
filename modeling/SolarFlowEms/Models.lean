import Mathlib.Data.Rat.Floor

/-!
# The data the target calculation reads

One device report as the controller reads it, what its firmware allows, and what is configured
for it.  Telemetry is in exact rationals.  A device's watt ceiling is a natural number: `run_once`
reads it back as a non-negative integer in every cycle, before the targets are calculated.
-/

namespace SolarFlowEms.Models

/-- `battery_presence`: absence cannot be inferred from silence. -/
inductive BatteryPresence where
  | present
  | absent
  | unknown
deriving DecidableEq

/-- One device report.  `packNum` is what `parse_pack_count` made of the reported
count, so `none` means that nobody said. -/
structure DeviceState where
  soc : ℚ
  minSoc : ℚ
  maxSoc : ℚ
  solar : ℚ
  output : ℚ
  packIn : ℚ
  outputLimit : ℚ
  socLimit : ℤ
  packNum : Option ℕ
deriving DecidableEq

def batteryPresence (state : DeviceState) : BatteryPresence :=
  match state.packNum with
  | none => .unknown
  | some packs => if 0 < packs then .present else .absent

structure DeviceCapabilities where
  canDischarge : Bool
  canExport : Bool
deriving DecidableEq

structure DeviceConfig where
  maxPower : ℕ
  pvKwp : ℚ
  pvPriorityFactor : ℚ
  batteryKwh : ℚ
deriving DecidableEq

/-- What the source keeps in parallel lists, one row of it: a report, the configuration
and capabilities when those lists were passed, and whether the EMS may write to the
device in this cycle (which it may when no such list was passed). -/
structure Device where
  state : DeviceState
  config : Option DeviceConfig
  capabilities : Option DeviceCapabilities
  commandable : Bool
deriving DecidableEq

/-- The battery of a device without a configuration counts as one kilowatt hour. -/
def getDeviceBatteryKwh (deviceConfig : Option DeviceConfig) : ℚ :=
  match deviceConfig with
  | none => 1
  | some config => max (1 / 100) config.batteryKwh

/-- The classification of `derive_soc_runtime_state`. -/
inductive SocRuntimeState where
  | socFull
  | socEmpty
  | socNormal
deriving DecidableEq

def deriveSocRuntimeState (state : DeviceState) : SocRuntimeState :=
  if state.socLimit = 1 ∨ (0 < state.maxSoc ∧ state.maxSoc ≤ state.soc) then .socFull
  else if state.socLimit = 2 ∨ state.soc ≤ state.minSoc then .socEmpty
  else .socNormal

end SolarFlowEms.Models
