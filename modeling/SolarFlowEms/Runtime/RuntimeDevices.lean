import SolarFlowEms.Library.Document

/-!
# The devices of the runtime state

The runtime state keeps an entry for every configured device.  A device owns the entry stamped
with its serial, else the one under its name, unless that one carries another serial.  What is
loaded is reconciled with the configured devices by this rule: a device that was renamed takes its
settings along, and the entry of a device that is gone is pruned where the caller asks for it.
-/

namespace SolarFlowEms.Runtime

open Python Documents

/-- `{**base, **values}`. -/
def dictUpdate (base values : Entries) : Entries :=
  values.foldl (fun entries entry => dictSet entries entry.1 entry.2) base

/-- `entries.pop(key, None)`, as far as what is left. -/
def dictPop (entries : Entries) (key : String) : Entries := entries.filter (·.1 ≠ key)

theorem dictGet_dictPop (entries : Entries) (key name : String) :
    dictGet (dictPop entries key) name = if name = key then none else dictGet entries name := by
  rw [dictPop, dictGet_filter fun name => decide (name ≠ key)]
  by_cases h : name = key
  · simp [h]
  · simp [h]

def cleanIdentity : PyValue → Option String
  | .str s => if pyStrip s = "" then none else some (pyStrip s)
  | _ => none

/-- `_clean_identity(state.get("identity"))`. -/
def stampedIdentity (state : Entries) : Option String := cleanIdentity (getValue state "identity")

def sanitizedDevice : PyValue → PyValue
  | .dict state => .dict (dictPop state "offgrid_socket")
  | state => state

/-- The entries that carry a serial, in their order. -/
def carriers (devices : Entries) (ident : String) : Entries :=
  devices.filter fun entry =>
    match entry.2 with
    | .dict state => stampedIdentity state = some ident
    | _ => false

/-- The entry under the device's own name, unless it carries another serial. -/
def namedRuntimeDevice (devices : Entries) (name : String) (ident : Option String) : Option String :=
  match dictGet devices name with
  | some (.dict state) =>
    if stampedIdentity state = none ∨ stampedIdentity state = ident then some name else none
  | _ => none

def runtimeDeviceFor (devices : Entries) (name : String) (identity : PyValue) : Option String :=
  let ident := cleanIdentity identity
  match ident.bind fun serial => (carriers devices serial).head? with
  | some entry => some entry.1
  | none => namedRuntimeDevice devices name ident

def ownedRuntimeDevice (devices : Entries) (name : String) (identity : PyValue) : Option String :=
  match cleanIdentity identity with
  | some serial =>
    if (carriers devices serial).length > 1 then none else runtimeDeviceFor devices name identity
  | none => runtimeDeviceFor devices name identity

/-- What a reconciliation did, for the log. -/
structure Changes where
  added : List (String × Option String) := []
  renamed : List (String × String × Option String) := []
  pruned : List (String × Option String) := []
  rekeyed : List (String × String) := []

def Changes.destructive (changes : Changes) : Bool :=
  !changes.renamed.isEmpty || !changes.pruned.isEmpty

def Changes.changed (changes : Changes) : Bool :=
  changes.destructive || !changes.added.isEmpty || !changes.rekeyed.isEmpty

/-- A reconciliation under way. -/
structure Reconciling where
  merged : Entries := []
  consumed : List String := []
  changes : Changes := {}

/-- The entry of a device without one to take over. -/
def Reconciling.add (r : Reconciling) (name : String) (defaults : Entries) : Reconciling where
  merged := dictSet r.merged name (.dict (dictPop defaults "offgrid_socket"))
  consumed := r.consumed
  changes :=
    { r.changes with added := r.changes.added ++ [(name, stampedIdentity defaults)] }

/-- The settings of the entry a device owns, over its defaults and under its own serial. -/
def adoptedEntry (defaults state : Entries) : Entries :=
  let entry := dictUpdate defaults (dictPop state "identity")
  dictPop
    (match stampedIdentity defaults with
      | some ident => dictSet entry "identity" (.str ident)
      | none => dictPop entry "identity")
    "offgrid_socket"

def Changes.adopt (changes : Changes) (matched name : String) (ident prior : Option String) :
    Changes :=
  if matched ≠ name then
    { changes with renamed := changes.renamed ++ [(matched, name, ident)] }
  else
    match ident with
    | some serial =>
      if prior ≠ ident then { changes with rekeyed := changes.rekeyed ++ [(name, serial)] }
      else changes
    | none => changes

/-- One configured device of the reconciliation. -/
def reconcileDevice (loaded : Entries) (r : Reconciling) (device : String × Entries) :
    Reconciling :=
  let (name, defaults) := device
  match runtimeDeviceFor loaded name (getValue defaults "identity") with
  | some matched =>
    if matched ∈ r.consumed then r.add name defaults
    else
      match dictGet loaded matched with
      | some (.dict state) =>
        { merged := dictSet r.merged name (.dict (adoptedEntry defaults state))
          consumed := matched :: r.consumed
          changes := r.changes.adopt matched name (stampedIdentity defaults)
            (stampedIdentity state) }
      | _ => r.add name defaults
  | none => r.add name defaults

/-- One loaded entry, after the configured devices. -/
def reconcileOrphan (prune : Bool) (r : Reconciling) (entry : String × PyValue) : Reconciling :=
  if entry.1 ∈ r.consumed then r
  else if prune then
    let ident := match entry.2 with
      | .dict state => stampedIdentity state
      | _ => none
    { r with
      changes := { r.changes with pruned := r.changes.pruned ++ [(entry.1, ident)] } }
  else if (dictGet r.merged entry.1).isSome then r
  else { r with merged := dictSet r.merged entry.1 (sanitizedDevice entry.2) }

def reconcileRuntimeDevices (loaded : Entries) (defaults : List (String × Entries)) (prune : Bool) :
    Entries × Changes :=
  if defaults.isEmpty then (loaded.map fun entry => (entry.1, sanitizedDevice entry.2), {})
  else
    let configured := defaults.foldl (reconcileDevice loaded) {}
    let all := loaded.foldl (reconcileOrphan prune) configured
    (all.merged, all.changes)

/-- What the EMS seeds a runtime state with. -/
structure RuntimeDefaults where
  system : Entries
  winter : Entries
  acChargeControl : Entries
  devices : List (String × Entries)

/-- `data.get(key)` where it is an object, else an empty one. -/
def objectAt (data : Entries) (key : String) : Entries := ((getValue data key).dict?).getD []

def mergeSection (key : String) (defaults : Entries) (data : Entries) : Entries :=
  dictSet data key (.dict (dictUpdate defaults (objectAt data key)))

def mergeRuntimeDefaults (data : Entries) (defaults : RuntimeDefaults) : Entries :=
  let merged := mergeSection "ac_charge_control" defaults.acChargeControl
    (mergeSection "winter" defaults.winter (mergeSection "system" defaults.system data))
  dictSet merged "devices"
    (.dict (reconcileRuntimeDevices (objectAt data "devices") defaults.devices false).1)

end SolarFlowEms.Runtime
