import AcctonAs9817.Util.Driver
import AcctonAs9817.Util.RetimerScript
import AcctonAs9817.Util.I2cTree

set_option autoImplicit false

namespace AcctonAs9817.Util

open Python

def i2cPrefix : String := "/sys/bus/i2c/devices/"

def sfpMap : List Nat :=
  [2, 3, 4, 5, 6, 7, 8, 9, 10, 11, 12, 13, 14, 15, 16, 17,
    18, 19, 20, 21, 22, 23, 24, 25, 26, 27, 28, 29, 30, 31, 32, 33,
    34, 35]

def osfpEnd : Nat := 31

def mknod : List String := ["echo as9817_32_mux 0x78 > /sys/bus/i2c/devices/i2c-0/new_device"]

def mkfile : List String := ["/tmp/device_threshold.json", "/tmp/device_threshold.json.lock"]

def eepromMknod : List String := ["echo 24c02 0x56 > /sys/bus/i2c/devices/i2c-36/new_device"]

def eepromCheck : HostM Nat := getstatusoutputNoshell ["i2cget", "-f", "-y", "36", "0x56"]

def optoeNewDevice (i bus : Nat) : String :=
  if i > osfpEnd then "echo optoe2 0x50 > /sys/bus/i2c/devices/i2c-" ++ toString bus ++ "/new_device"
  else "echo optoe3 0x50 > /sys/bus/i2c/devices/i2c-" ++ toString bus ++ "/new_device"

def eepromInstall : HostM Unit := do
  if (← eepromCheck) == 0 then
    let _ ← logOsSystem (eepromMknod.get ⟨0, by decide⟩)
    if !(← pathExists "/sys/bus/i2c/devices/36-0056/eeprom") then
      let _ ← subprocessCall "echo 0x56 > /sys/bus/i2c/devices/i2c-36/delete_device"

def moduleResetCommand (i : Nat) : String :=
  "echo 0 > /sys/devices/platform/as9817_32_fpga/module_reset_" ++ toString (i + 1)

def moduleLpModeCommand (i : Nat) : String :=
  "echo 0 > /sys/devices/platform/as9817_32_fpga/module_lp_mode_" ++ toString (i + 1)

/-- The mkfile loop: `open(path, 'a')` and `os.chmod`, and on OSError a second `os.chmod`. -/
def makeFiles (force : Nat) : List String → HostM (Option Int)
  | [] => pure none
  | path :: rest => do
    if ← touchChmod path then makeFiles force rest
    else do
      chmod path
      if force == 0 then pure (some (-1)) else makeFiles force rest

def deviceInstall (force : Nat) (sfpMap : List Nat) (mknod : List String) : HostM (Option Int) := do
  match ← forceEach force mknod with
  | some status => pure (some status)
  | none =>
    eepromInstall
    match ← forceEach force (sfpMap.enum.map fun (i, bus) => optoeNewDevice i bus) with
    | some status => pure (some status)
    | none =>
      getstatusoutputEach ((List.range (osfpEnd + 1)).map moduleResetCommand)
      getstatusoutputEach ((List.range (osfpEnd + 1)).map moduleLpModeCommand)
      let _ ← configSfp front s25G
      makeFiles force mkfile

def sfpDeleteTarget (bus : Nat) : String := "/sys/bus/i2c/devices/i2c-" ++ toString bus ++ "/delete_device"

/-- The sfp_map loop of device_uninstall. It hands on the loop variable `target` as it leaves it. -/
def deleteSfpDevices (force : Nat) (target : Option String) : List Nat → HostM (Option Nat × Option String)
  | [] => pure (none, target)
  | bus :: rest => do
    let target := sfpDeleteTarget bus
    let status ← logOsSystem ("echo 0x50 > " ++ target)
    if status != 0 && force == 0 then pure (some status, some target)
    else deleteSfpDevices force (some target) rest

def deleteCommand (target : String) : Except PyExc String :=
  match split target with
  | first :: _ :: rest =>
    let temp := first :: rest
    pure (join " " (temp.dropLast ++ [replace (temp.getLast (List.cons_ne_nil _ _)) "new_device" "delete_device"]))
  | _ => throw .indexError

def deleteMknodDevices (force : Nat) (target : Option String) : List String → HostM (Option Nat × Option String)
  | [] => pure (none, target)
  | entry :: rest => do
    let status ← logOsSystem (← liftExcept (deleteCommand entry))
    if status != 0 && force == 0 then pure (some status, some entry)
    else deleteMknodDevices force (some entry) rest

def deviceUninstall (force : Nat) (sfpMap : List Nat) (mknod : List String) : HostM (Option Nat) := do
  let (stopped, target) ← deleteSfpDevices force none sfpMap
  match stopped with
  | some status => pure (some status)
  | none =>
    let (stopped, target) ← deleteMknodDevices force target mknod.reverse
    match stopped with
    | some status => pure (some status)
    | none =>
      let eepromThere ← pathExists "/sys/bus/i2c/devices/36-0056/eeprom"
      match if eepromThere then some (eepromMknod.get ⟨0, by decide⟩) else target with
      | none => raise .unboundLocalError
      | some target =>
        let status ← logOsSystem (← liftExcept (deleteCommand target))
        if status != 0 && force == 0 then pure (some status)
        else forceEach force (mkfile.map ("rm -f " ++ ·))

def deviceExist : HostM Bool := do
  let ret1 ← logOsSystem ("ls " ++ i2cPrefix ++ "*0070")
  let ret2 ← logOsSystem ("ls " ++ i2cPrefix ++ "i2c-2")
  pure !(ret1 != 0 || ret2 != 0)

section Requests

theorem sysfsRequest_i2cset (bus device register value : String) :
    sysfsRequest (i2cset bus device register value) = none := by
  rw [i2cset, join_cons_cons]
  exact sysfsRequest_of_head (by decide) (by decide) _

theorem optoeNewDevice_eq (i bus : Nat) :
    optoeNewDevice i bus = newDeviceCommand (if i > osfpEnd then "optoe2" else "optoe3") "0x50" (toString bus) := by
  unfold optoeNewDevice
  split <;> apply String.ext <;> simp [newDeviceCommand, join, i2cDevicePath, i2cBusPath, intercalate_cons_cons]

theorem sysfsRequest_optoeNewDevice (i bus : Nat) :
    sysfsRequest (optoeNewDevice i bus) =
      some (.newDevice (if i > osfpEnd then "optoe2" else "optoe3") "0x50" (toString bus)) := by
  rw [optoeNewDevice_eq]
  exact sysfsRequest_newDeviceCommand (by split <;> decide) (by decide) (Word.digits bus)

theorem sysfsRequest_sfpDelete (bus : Nat) :
    sysfsRequest ("echo 0x50 > " ++ sfpDeleteTarget bus) = some (.deleteDevice "0x50" (toString bus)) := by
  have same : "echo 0x50 > " ++ sfpDeleteTarget bus = deleteDeviceCommand "0x50" (toString bus) := by
    apply String.ext
    simp [sfpDeleteTarget, deleteDeviceCommand, join, i2cDevicePath, i2cBusPath, intercalate_cons_cons]
  rw [same]
  exact sysfsRequest_deleteDeviceCommand (by decide) (Word.digits bus)

theorem sysfsRequest_echo_elsewhere {node : String} (word : Word node)
    (elsewhere : afterLeading i2cBusPath.data node.data = none) :
    sysfsRequest (join " " ["echo", "0", ">", node]) = none := by
  have words : split (join " " ["echo", "0", ">", node]) = ["echo", "0", ">", node] := by
    refine split_words ?_ (List.cons_ne_nil _ _)
    simp only [List.mem_cons, List.mem_singleton, List.not_mem_nil, or_false]
    rintro w (rfl | rfl | rfl | rfl) <;> first | decide | exact word
  simp [sysfsRequest, words, echoRequest, busOf, elsewhere]

theorem sysfsRequest_moduleResetCommand (i : Nat) : sysfsRequest (moduleResetCommand i) = none := by
  have same : moduleResetCommand i =
      join " " ["echo", "0", ">", "/sys/devices/platform/as9817_32_fpga/module_reset_" ++ toString (i + 1)] := by
    apply String.ext
    simp [moduleResetCommand, join, intercalate_cons_cons]
  rw [same]
  exact sysfsRequest_echo_elsewhere ((show Word "/sys/devices/platform/as9817_32_fpga/module_reset_" by decide).append_digits _)
    rfl

theorem sysfsRequest_moduleLpModeCommand (i : Nat) : sysfsRequest (moduleLpModeCommand i) = none := by
  have same : moduleLpModeCommand i =
      join " " ["echo", "0", ">", "/sys/devices/platform/as9817_32_fpga/module_lp_mode_" ++ toString (i + 1)] := by
    apply String.ext
    simp [moduleLpModeCommand, join, intercalate_cons_cons]
  rw [same]
  exact sysfsRequest_echo_elsewhere ((show Word "/sys/devices/platform/as9817_32_fpga/module_lp_mode_" by decide).append_digits _)
    rfl

end Requests

section Runs

variable {force : Nat} {h : Host}

theorem deleteSfpDevices_issues (goOn : Proceeds force h) (target : Option String) (buses : List Nat) :
    deleteSfpDevices force target buses h =
      (.ok (none, buses.foldl (fun _ bus => some (sfpDeleteTarget bus)) target),
        h.extend (buses.map fun bus => "echo 0x50 > " ++ sfpDeleteTarget bus)) := by
  induction buses generalizing h target with
  | nil => simp [deleteSfpDevices]
  | cons bus rest ih =>
    simp [deleteSfpDevices, bind_apply, goOn.passes, ih (goOn.extend _)]

theorem deleteMknodDevices_issues (goOn : Proceeds force h) (target : Option String) (entries : List String)
    {rms : List String} (derived : entries.map deleteCommand = rms.map .ok) :
    deleteMknodDevices force target entries h =
      (.ok (none, entries.foldl (fun _ entry => some entry) target), h.extend rms) := by
  induction entries generalizing h target rms with
  | nil => cases rms <;> simp_all [deleteMknodDevices]
  | cons entry rest ih =>
    cases rms with
    | nil => cases derived
    | cons rm rms =>
      obtain ⟨first, others⟩ := List.cons.inj derived
      simp [deleteMknodDevices, bind_apply, liftExcept, first, goOn.passes, ih (goOn.extend [rm]) _ others]

end Runs

end AcctonAs9817.Util
