import AcctonAs9817.Util.Device

set_option autoImplicit false

namespace AcctonAs9817.Util

open Python

def driverCheck : HostM Bool := do
  let ret ← logOsSystem "ls /sys/module/*accton*"
  pure (ret == 0)

def projectName : String := "as9817_32o"
def platformRootPath : String := "/usr/share/sonic/device"
def platformApi2WhlFilePy3 : String := "sonic_platform-1.0-py3-none-any.whl"

def doSonicPlatformInstall : HostM (Option Nat) := do
  let devicePath := platformRootPath ++ "/x86_64-accton_" ++ projectName ++ "-r0"
  let sonicPlatformBspWhlPkgPy3 := join "/" [devicePath, platformApi2WhlFilePy3]
  let status ← logOsSystem "pip3 show sonic-platform > /dev/null 2>&1"
  if status != 0 then
    if ← pathExists sonicPlatformBspWhlPkgPy3 then do
      let status ← logOsSystem ("pip3 install " ++ sonicPlatformBspWhlPkgPy3)
      pure (if status != 0 then some status else none)
    else pure none
  else pure none

def doSonicPlatformClean : HostM (Option Nat) := do
  let status ← logOsSystem "pip3 show sonic-platform > /dev/null 2>&1"
  if status != 0 then pure none
  else do
    let status ← logOsSystem "pip3 uninstall sonic-platform -y"
    pure (if status != 0 then some status else none)

def stopsAt (force : Nat) : Option Int → Option Int
  | some status => if status != 0 && force == 0 then some status else none
  | none => none

def installDrivers (force : Nat) (kos : List String) : HostM (Option Int) := do
  if ← driverCheck then pure none
  else do
    let status ← driverInstall force kos
    pure (stopsAt force (some status))

def installDevices (force : Nat) (sfpMap : List Nat) (mknod : List String) : HostM (Option Int) := do
  if ← deviceExist then pure none
  else do
    let status ← deviceInstall force sfpMap mknod
    pure (stopsAt force status)

-- The fan_pwm writes that follow the LED are left out: they issue no command and swallow IOError.
def doInstall (force : Nat) (kos : List String) (sfpMap : List Nat) (mknod : List String) :
    HostM (Option Int) := do
  match ← installDrivers force kos with
  | some status => pure (some status)
  | none =>
    match ← installDevices force sfpMap mknod with
    | some status => pure (some status)
    | none => do
      let _ ← logOsSystem "echo 0 > /sys/devices/platform/as9817_32_led/led_loc"
      let _ ← doSonicPlatformInstall
      pure none

def removeDevices (force : Nat) (sfpMap : List Nat) (mknod : List String) : HostM (Option Int) := do
  if !(← deviceExist) then pure none
  else do
    let status ← deviceUninstall force sfpMap mknod
    pure (stopsAt force (status.map (↑)))

def removeDrivers (force : Nat) (kos : List String) : HostM (Option Int) := do
  if !(← driverCheck) then pure none
  else do
    let status ← driverUninstall force kos
    pure (stopsAt force (some status))

def doUninstall (force : Nat) (kos : List String) (sfpMap : List Nat) (mknod : List String) :
    HostM (Option Int) := do
  match ← removeDevices force sfpMap mknod with
  | some status => pure (some status)
  | none =>
    match ← removeDrivers force kos with
    | some status => pure (some status)
    | none => do
      let _ ← doSonicPlatformClean
      pure none

section Probes

variable (h : Host)

@[simp] theorem driverCheck_apply :
    driverCheck h = (.ok (h.status h.log "ls /sys/module/*accton*" == 0),
      h.extend ["ls /sys/module/*accton*"]) := rfl

@[simp] theorem deviceExist_apply :
    deviceExist h = (.ok !(h.status h.log "ls /sys/bus/i2c/devices/*0070" != 0 ||
        h.status (h.log ++ ["ls /sys/bus/i2c/devices/*0070"]) "ls /sys/bus/i2c/devices/i2c-2" != 0),
      h.extend ["ls /sys/bus/i2c/devices/*0070", "ls /sys/bus/i2c/devices/i2c-2"]) := by
  simp [deviceExist, bind_apply, i2cPrefix]

theorem eepromProbe_eq : join " " ["i2cget", "-f", "-y", "36", "0x56"] = "i2cget -f -y 36 0x56" := by decide

end Probes

end AcctonAs9817.Util
