import AcctonAs9817.Util.Install
import AcctonAs9817.Util.Ipmi

set_option autoImplicit false

namespace AcctonAs9817.Util

open Python

/-! do_install and do_uninstall as main runs them, with FORCE = 1, on every host and for every table of
modules and devices: what they ask of the i2c core, and how they can end. -/

def deviceExistCmds : List String := ["ls /sys/bus/i2c/devices/*0070", "ls /sys/bus/i2c/devices/i2c-2"]

def eepromNode : String := "/sys/bus/i2c/devices/36-0056/eeprom"

def sfpDeleteCmds (sfpMap : List Nat) : List String := sfpMap.map fun bus => "echo 0x50 > " ++ sfpDeleteTarget bus

def muxDeleteCmd : String := "echo 0x78 > /sys/bus/i2c/devices/i2c-0/delete_device"

def eepromDeleteCmd : String := "echo 0x56 > /sys/bus/i2c/devices/i2c-36/delete_device"

theorem deviceExist_run (h : Host) : ∃ present, deviceExist h = (.ok present, h.extend deviceExistCmds) :=
  ⟨_, deviceExist_apply h⟩

theorem deviceExistCmds_requests : deviceExistCmds.filterMap sysfsRequest = [] := by decide

theorem sfpDeleteCmds_requests (sfpMap : List Nat) :
    (sfpDeleteCmds sfpMap).filterMap sysfsRequest = sfpMap.map fun bus => .deleteDevice "0x50" (toString bus) := by
  simp only [sfpDeleteCmds, List.filterMap_map, Function.comp_def, sysfsRequest_sfpDelete]
  exact congrFun (List.filterMap_eq_map _) _

section Uninstall

variable {force : Nat} {h : Host}

/-- device_uninstall when nothing stops it: the 0x56 step deletes the EEPROM when its node is there
and otherwise repeats the deletion of the first mknod entry. -/
theorem deviceUninstall_proceeds (goOn : Proceeds force h) (sfpMap : List Nat) {mknod rms : List String}
    (derived : mknod.reverse.map deleteCommand = rms.map .ok) {first rm : String}
    (head : mknod.head? = some first) (firstDerived : deleteCommand first = .ok rm) :
    deviceUninstall force sfpMap mknod h =
      (.ok none, h.extend (sfpDeleteCmds sfpMap ++ rms ++
        (if h.isFile (h.log ++ (sfpDeleteCmds sfpMap ++ rms)) eepromNode then eepromDeleteCmd else rm) ::
          mkfile.map ("rm -f " ++ ·))) := by
  have lastEntry : mknod.reverse.foldl (fun _ entry => some entry)
      (sfpMap.foldl (fun _ bus => some (sfpDeleteTarget bus)) none) = some first := by
    cases mknod with
    | nil => cases head
    | cons entry rest =>
      cases head
      rw [List.foldl_reverse]
      rfl
  have eepromDerived : deleteCommand eepromMknod[0] = .ok eepromDeleteCmd := rfl
  by_cases there : h.isFile (h.log ++ (sfpDeleteCmds sfpMap ++ rms)) eepromNode = true
  all_goals
    simp only [sfpDeleteCmds, eepromNode] at there
    simp [deviceUninstall, bind_apply, deleteSfpDevices_issues goOn, sfpDeleteCmds,
      deleteMknodDevices_issues (goOn.extend _) _ _ derived, lastEntry, liftExcept, firstDerived, eepromDerived,
      goOn.passes, forceEach_issues_all _ (goOn.extend _), eepromNode, there]

end Uninstall

def uninstallDeletions (sfpMap : List Nat) (rms : List String) (again : String) (eepromThere : Bool) :
    List I2cRequest :=
  (sfpMap.map fun bus => .deleteDevice "0x50" (toString bus)) ++
    (rms ++ [if eepromThere then eepromDeleteCmd else again]).filterMap sysfsRequest

theorem removeDevices_forced (sfpMap : List Nat) {mknod rms : List String}
    (derived : mknod.reverse.map deleteCommand = rms.map .ok) {first rm : String}
    (head : mknod.head? = some first) (firstDerived : deleteCommand first = .ok rm) (h : Host) :
    ∃ present removed, deviceExist h = (.ok present, h.extend deviceExistCmds) ∧
      removeDevices 1 sfpMap mknod h = (.ok none, h.extend removed) ∧
      removed.filterMap sysfsRequest = if present then
        uninstallDeletions sfpMap rms rm (h.isFile (h.log ++ deviceExistCmds ++ sfpDeleteCmds sfpMap ++ rms) eepromNode)
      else [] := by
  obtain ⟨present, probed⟩ := deviceExist_run h
  have quiet : (mkfile.map ("rm -f " ++ ·)).filterMap sysfsRequest = [] := by decide
  cases present
  · refine ⟨false, deviceExistCmds, probed, ?_, deviceExistCmds_requests⟩
    simp only [removeDevices, bind_apply, probed]
    rfl
  · have removed := deviceUninstall_proceeds (h := h.extend deviceExistCmds) (.inl Nat.one_ne_zero) sfpMap
      derived head firstDerived
    simp only [Host.extend_log, Host.extend_isFile, Host.extend_extend, List.append_assoc] at removed
    refine ⟨true, deviceExistCmds ++ (sfpDeleteCmds sfpMap ++ (rms ++
      (if h.isFile (h.log ++ (deviceExistCmds ++ (sfpDeleteCmds sfpMap ++ rms))) eepromNode
        then eepromDeleteCmd else rm) :: mkfile.map ("rm -f " ++ ·))), probed, ?_, ?_⟩
    · simp only [removeDevices, bind_apply, probed, Bool.not_true, Bool.false_eq_true, if_false]
      rw [removed]
      rfl
    · simp only [List.filterMap_append, deviceExistCmds_requests, sfpDeleteCmds_requests, uninstallDeletions,
        List.append_assoc, if_true, List.nil_append, List.cons_append, List.singleton_append]
      split_ifs <;> simp [List.filterMap_cons, quiet]

theorem kosUnloads_quiet : (kos.reverse.map unloadCommand).filterMap sysfsRequest = [] := by
  have modprobes : ∀ e ∈ kosEntries, e.Unloadable ∧ e.loader = .modprobe := by decide
  rw [← kosEntries_command, List.map_reverse, List.map_map, List.filterMap_eq_nil_iff]
  intro cmd listed
  obtain ⟨e, entry, rfl⟩ := List.mem_map.mp (List.mem_reverse.mp listed)
  obtain ⟨unloadable, modprobe⟩ := modprobes e entry
  rw [Function.comp_apply, e.unloadCommand_of_unloadable unloadable, KoEntry.unload, modprobe,
    Loader.unloadWords, List.cons_append, List.singleton_append, join_cons_cons]
  exact sysfsRequest_of_head (by decide) (by decide) _

theorem kosLoads_quiet : kos.filterMap sysfsRequest = [] := by decide

theorem removeDrivers_forced (kos : List String) (unloadsQuiet : (kos.reverse.map unloadCommand).filterMap sysfsRequest = [])
    (h : Host) : ∃ cmds, removeDrivers 1 kos h = (.ok none, h.extend cmds) ∧ cmds.filterMap sysfsRequest = [] := by
  by_cases loaded : h.status h.log "ls /sys/module/*accton*" = 0
  · have listing : sysfsRequest "ls /sys/module/*accton*" = none := by decide
    refine ⟨"ls /sys/module/*accton*" :: kos.reverse.map unloadCommand, ?_,
      by rw [List.filterMap_cons_none listing, unloadsQuiet]⟩
    simp [removeDrivers, bind_apply, loaded, driverUninstall_issues _ (.inl Nat.one_ne_zero), stopsAt]
  · exact ⟨["ls /sys/module/*accton*"], by simp [removeDrivers, bind_apply, loaded], by decide⟩

theorem doSonicPlatformClean_quiet (h : Host) :
    ∃ status cmds, doSonicPlatformClean h = (.ok status, h.extend cmds) ∧ cmds.filterMap sysfsRequest = [] := by
  by_cases shown : h.status h.log "pip3 show sonic-platform > /dev/null 2>&1" = 0
  · exact ⟨_, ["pip3 show sonic-platform > /dev/null 2>&1", "pip3 uninstall sonic-platform -y"],
      by simp [doSonicPlatformClean, bind_apply, shown]; rfl, by decide⟩
  · exact ⟨_, ["pip3 show sonic-platform > /dev/null 2>&1"], by simp [doSonicPlatformClean, bind_apply, shown]; rfl,
      by decide⟩

theorem doUninstall_tail {kos : List String} (unloadsQuiet : (kos.reverse.map unloadCommand).filterMap sysfsRequest = [])
    {sfpMap : List Nat} {mknod : List String} {h : Host} {removed : List String}
    (devicesRemoved : removeDevices 1 sfpMap mknod h = (.ok none, h.extend removed)) :
    ∃ tail, doUninstall 1 kos sfpMap mknod h = (.ok none, h.extend (removed ++ tail)) ∧
      tail.filterMap sysfsRequest = [] := by
  obtain ⟨drivers, driversRemoved, driversQuiet⟩ := removeDrivers_forced kos unloadsQuiet (h.extend removed)
  obtain ⟨_, cleaned, platformCleaned, platformQuiet⟩ := doSonicPlatformClean_quiet ((h.extend removed).extend drivers)
  simp only [Host.extend_extend] at platformCleaned
  refine ⟨drivers ++ cleaned, ?_, by simp [List.filterMap_append, driversQuiet, platformQuiet]⟩
  simp [doUninstall, bind_apply, devicesRemoved, driversRemoved, platformCleaned]

theorem doUninstall_forced (kos : List String) (sfpMap : List Nat) {mknod rms : List String}
    (derived : mknod.reverse.map deleteCommand = rms.map .ok) {first rm : String}
    (head : mknod.head? = some first) (firstDerived : deleteCommand first = .ok rm)
    (unloadsQuiet : (kos.reverse.map unloadCommand).filterMap sysfsRequest = []) (h : Host) :
    ∃ present issued, deviceExist h = (.ok present, h.extend deviceExistCmds) ∧
      doUninstall 1 kos sfpMap mknod h = (.ok none, h.extend issued) ∧
      issued.filterMap sysfsRequest = if present then
        uninstallDeletions sfpMap rms rm (h.isFile (h.log ++ deviceExistCmds ++ sfpDeleteCmds sfpMap ++ rms) eepromNode)
      else [] := by
  obtain ⟨present, removed, probed, devicesRemoved, deletions⟩ := removeDevices_forced sfpMap derived head firstDerived h
  obtain ⟨tail, run, quiet⟩ := doUninstall_tail unloadsQuiet devicesRemoved
  exact ⟨present, removed ++ tail, probed, run, by simp [List.filterMap_append, deletions, quiet]⟩

theorem doUninstall_forced_sourceTables :
    ∃ present issued, deviceExist Host.obliging = (.ok present, Host.obliging.extend deviceExistCmds) ∧
      doUninstall 1 kos sfpMap mknod Host.obliging = (.ok none, Host.obliging.extend issued) ∧
      issued.filterMap sysfsRequest = if present then
        uninstallDeletions sfpMap [muxDeleteCmd] muxDeleteCmd
          (Host.obliging.isFile (Host.obliging.log ++ deviceExistCmds ++ sfpDeleteCmds sfpMap ++ [muxDeleteCmd]) eepromNode)
      else [] :=
  @doUninstall_forced kos sfpMap mknod [muxDeleteCmd] rfl _ muxDeleteCmd rfl rfl kosUnloads_quiet Host.obliging

def probeCmd : String := "i2cget -f -y 36 0x56"

def eepromCreateCmd : String := "echo 24c02 0x56 > /sys/bus/i2c/devices/i2c-36/new_device"

def eepromCmds (h : Host) : List String :=
  probeCmd :: if h.status h.log probeCmd = 0 then
    eepromCreateCmd :: if h.isFile (h.log ++ [probeCmd, eepromCreateCmd]) eepromNode then [] else [eepromDeleteCmd]
  else []

theorem eepromInstall_run (h : Host) : eepromInstall h = (.ok (), h.extend (eepromCmds h)) := by
  have probe : join " " ["i2cget", "-f", "-y", "36", "0x56"] = probeCmd := eepromProbe_eq
  have created : eepromMknod[0] = eepromCreateCmd := rfl
  by_cases probed : h.status h.log probeCmd = 0
  · by_cases there : h.isFile (h.log ++ [probeCmd, eepromCreateCmd]) eepromNode = true
    all_goals
      simp only [eepromNode] at there
      simp [eepromInstall, eepromCheck, getstatusoutputNoshell, bind_apply, probe, created, probed, there,
        eepromCmds, eepromNode, eepromDeleteCmd, subprocessCall]
  · simp [eepromInstall, eepromCheck, getstatusoutputNoshell, bind_apply, probe, probed, eepromCmds]

def chmodFailure (h : Host) (log paths : List String) : Option ChmodError := paths.findSome? (h.chmodError log)

@[simp] theorem chmodFailure_extend (h : Host) (new : List String) :
    chmodFailure (h.extend new) = chmodFailure h := rfl

def mkfileOutcome : Option ChmodError → Except PyExc (Option Int)
  | some e => .error e.exc
  | none => .ok none

theorem makeFiles_proceeds {force : Nat} (forced : force ≠ 0) (paths : List String) (h : Host) :
    makeFiles force paths h = (mkfileOutcome (chmodFailure h h.log paths), h) := by
  induction paths with
  | nil => rfl
  | cons path rest ih =>
    cases failed : h.chmodError h.log path with
    | none =>
      cases writable : h.writable h.log path <;>
        simp [makeFiles, bind_apply, chmod, chmodFailure, List.findSome?_cons, failed, writable, forced, ih]
    | some e => simp [makeFiles, bind_apply, chmod, chmodFailure, List.findSome?_cons, failed, mkfileOutcome]

def optoeCmds (sfpMap : List Nat) : List String := sfpMap.enum.map fun p => optoeNewDevice p.1 p.2

def releaseCmds : List String :=
  (List.range (osfpEnd + 1)).map moduleResetCommand ++ (List.range (osfpEnd + 1)).map moduleLpModeCommand

def deviceInstallCmds (h : Host) (sfpMap : List Nat) (mknod config : List String) : List String :=
  mknod ++ eepromCmds (h.extend mknod) ++ optoeCmds sfpMap ++ releaseCmds ++ config

theorem deviceInstall_proceeds {force : Nat} (forced : force ≠ 0) (sfpMap : List Nat) (mknod : List String)
    (h : Host) : ∃ config, (∀ cmd ∈ config, IsI2cset cmd) ∧
      deviceInstall force sfpMap mknod h =
        (mkfileOutcome (chmodFailure h (h.log ++ deviceInstallCmds h sfpMap mknod config) mkfile),
          h.extend (deviceInstallCmds h sfpMap mknod config)) := by
  obtain ⟨_, config, configured, writes⟩ := configSfp_isI2cset front s25G
    (h.extend (mknod ++ eepromCmds (h.extend mknod) ++ optoeCmds sfpMap ++ releaseCmds))
  simp only [Host.extend_extend, optoeCmds, releaseCmds, List.append_assoc] at configured
  refine ⟨config, writes, ?_⟩
  simp [deviceInstall, bind_apply, forceEach_issues_all _ (.inl forced), eepromInstall_run, getstatusoutputEach_apply,
    configured, makeFiles_proceeds forced, deviceInstallCmds, optoeCmds, releaseCmds, List.append_assoc]

def installCreations (sfpMap : List Nat) (mknod : List String) (probed eepromThere : Bool) : List I2cRequest :=
  mknod.filterMap sysfsRequest ++
    ((if probed then .newDevice "24c02" "0x56" "36" :: if eepromThere then [] else [.deleteDevice "0x56" "36"]
      else []) ++
    sfpMap.enum.map fun p => .newDevice (if p.1 > osfpEnd then "optoe2" else "optoe3") "0x50" (toString p.2))

theorem eepromCmds_requests (h : Host) :
    (eepromCmds h).filterMap sysfsRequest =
      if h.status h.log probeCmd = 0 then .newDevice "24c02" "0x56" "36" ::
        if h.isFile (h.log ++ [probeCmd, eepromCreateCmd]) eepromNode then [] else [.deleteDevice "0x56" "36"]
      else [] := by
  have probe : sysfsRequest probeCmd = none := by decide
  have create : sysfsRequest eepromCreateCmd = some (.newDevice "24c02" "0x56" "36") := by decide
  have delete : sysfsRequest eepromDeleteCmd = some (.deleteDevice "0x56" "36") := by decide
  unfold eepromCmds
  split_ifs <;> simp [probe, create, delete]

theorem optoeCmds_requests (sfpMap : List Nat) :
    (optoeCmds sfpMap).filterMap sysfsRequest =
      sfpMap.enum.map fun p => .newDevice (if p.1 > osfpEnd then "optoe2" else "optoe3") "0x50" (toString p.2) := by
  simp only [optoeCmds, List.filterMap_map, Function.comp_def, sysfsRequest_optoeNewDevice]
  exact congrFun (List.filterMap_eq_map _) _

theorem releaseCmds_requests : releaseCmds.filterMap sysfsRequest = [] := by
  simp [releaseCmds, List.filterMap_eq_nil_iff, sysfsRequest_moduleResetCommand, sysfsRequest_moduleLpModeCommand]

theorem deviceInstallCmds_requests (h : Host) (sfpMap : List Nat) (mknod : List String) {config : List String}
    (writes : ∀ cmd ∈ config, IsI2cset cmd) :
    (deviceInstallCmds h sfpMap mknod config).filterMap sysfsRequest =
      installCreations sfpMap mknod (h.status (h.log ++ mknod) probeCmd == 0)
        (h.isFile (h.log ++ mknod ++ [probeCmd, eepromCreateCmd]) eepromNode) := by
  have configQuiet : config.filterMap sysfsRequest = [] := List.filterMap_eq_nil_iff.mpr fun cmd listed => by
    obtain ⟨_, _, _, _, rfl⟩ := writes cmd listed
    exact sysfsRequest_i2cset _ _ _ _
  simp only [deviceInstallCmds, List.filterMap_append, eepromCmds_requests, optoeCmds_requests, releaseCmds_requests,
    configQuiet, Host.extend_log, Host.extend_status, Host.extend_isFile]
  simp [installCreations, List.append_assoc]

theorem installDrivers_forced (kos : List String) (loadsQuiet : kos.filterMap sysfsRequest = []) (h : Host) :
    ∃ cmds, installDrivers 1 kos h = (.ok none, h.extend cmds) ∧ cmds.filterMap sysfsRequest = [] := by
  by_cases loaded : h.status h.log "ls /sys/module/*accton*" = 0
  · exact ⟨["ls /sys/module/*accton*"], by simp [installDrivers, driverCheck, bind_apply, loaded], by decide⟩
  obtain ⟨_, ipmi, ipmiRun, ipmiListed⟩ := initIpmi_issues (h.extend ["ls /sys/module/*accton*", "modprobe ice"])
  have ipmiQuiet : ∀ cmd ∈ ipmiCommands, sysfsRequest cmd = none := by decide
  have setupQuiet : ["ls /sys/module/*accton*", "modprobe ice"].filterMap sysfsRequest = [] := by decide
  have depmodQuiet : sysfsRequest "depmod -ae" = none := by decide
  refine ⟨["ls /sys/module/*accton*", "modprobe ice"] ++ ipmi ++ "depmod -ae" :: kos, ?_, ?_⟩
  · simp [installDrivers, driverCheck, driverInstall, bind_apply, loaded, ipmiRun,
      forceEach_issues_all _ (.inl Nat.one_ne_zero), stopsAt]
  · rw [List.filterMap_append, List.filterMap_append, setupQuiet, List.filterMap_eq_nil_iff.mpr fun cmd listed =>
      ipmiQuiet cmd (ipmiListed cmd listed), List.filterMap_cons_none depmodQuiet, loadsQuiet]
    rfl

theorem installDevices_forced (sfpMap : List Nat) (mknod : List String) (h : Host) :
    ∃ present config, (∀ cmd ∈ config, IsI2cset cmd) ∧
      deviceExist h = (.ok present, h.extend deviceExistCmds) ∧
      installDevices 1 sfpMap mknod h = if present then (.ok none, h.extend deviceExistCmds) else
        (mkfileOutcome (chmodFailure h (h.log ++ deviceExistCmds ++
            deviceInstallCmds (h.extend deviceExistCmds) sfpMap mknod config) mkfile),
          h.extend (deviceExistCmds ++ deviceInstallCmds (h.extend deviceExistCmds) sfpMap mknod config)) := by
  obtain ⟨present, probed⟩ := deviceExist_run h
  obtain ⟨config, writes, installed⟩ := deviceInstall_proceeds Nat.one_ne_zero sfpMap mknod (h.extend deviceExistCmds)
  refine ⟨present, config, writes, probed, ?_⟩
  cases present
  · simp only [Host.extend_log, Host.extend_extend, chmodFailure_extend] at installed
    simp only [installDevices, bind_apply, probed, Bool.not_false, if_false, Bool.false_eq_true, installed]
    cases chmodFailure h (h.log ++ deviceExistCmds ++ deviceInstallCmds (h.extend deviceExistCmds) sfpMap mknod config)
      mkfile <;> rfl
  · simp only [installDevices, bind_apply, probed]
    rfl

theorem installDevices_ends (sfpMap : List Nat) (mknod : List String) (h : Host) :
    ∃ present ended devices, deviceExist h = (.ok present, h.extend deviceExistCmds) ∧
      installDevices 1 sfpMap mknod h = (ended, h.extend devices) ∧
      (ended = .ok none ∨
        ∃ e, ended = .error e.exc ∧ present = false ∧ chmodFailure h (h.log ++ devices) mkfile = some e) ∧
      (present = false → ∃ rest, devices = deviceExistCmds ++ mknod ++ rest) ∧
      devices.filterMap sysfsRequest = if present then [] else
        installCreations sfpMap mknod (h.status (h.log ++ deviceExistCmds ++ mknod) probeCmd == 0)
          (h.isFile (h.log ++ deviceExistCmds ++ mknod ++ [probeCmd, eepromCreateCmd]) eepromNode) := by
  obtain ⟨present, config, writes, probed, devicesRun⟩ := installDevices_forced sfpMap mknod h
  cases present
  · simp only [Bool.false_eq_true, if_false] at devicesRun
    refine ⟨false, _, _, probed, devicesRun, ?_, fun _ => ⟨eepromCmds (h.extend (deviceExistCmds ++ mknod)) ++
      optoeCmds sfpMap ++ releaseCmds ++ config, by simp [deviceInstallCmds, List.append_assoc]⟩, ?_⟩
    · cases failure : chmodFailure h (h.log ++ deviceExistCmds ++
          deviceInstallCmds (h.extend deviceExistCmds) sfpMap mknod config) mkfile with
      | none => exact .inl rfl
      | some e => exact .inr ⟨e, rfl, rfl, by rw [← List.append_assoc]; exact failure⟩
    · simp [List.filterMap_append, deviceExistCmds_requests, deviceInstallCmds_requests _ _ _ writes, List.append_assoc]
  · rw [if_pos rfl] at devicesRun
    exact ⟨true, _, _, probed, devicesRun, .inl rfl, fun absurd => Bool.noConfusion absurd,
      by rw [if_pos rfl]; exact deviceExistCmds_requests⟩

theorem doSonicPlatformInstall_quiet (h : Host) :
    ∃ status cmds, doSonicPlatformInstall h = (.ok status, h.extend cmds) ∧ cmds.filterMap sysfsRequest = [] := by
  have showQuiet : sysfsRequest "pip3 show sonic-platform > /dev/null 2>&1" = none := by decide
  have installQuiet : sysfsRequest ("pip3 install " ++
      join "/" [platformRootPath ++ "/x86_64-accton_" ++ projectName ++ "-r0", platformApi2WhlFilePy3]) = none := by
    decide
  by_cases shown : h.status h.log "pip3 show sonic-platform > /dev/null 2>&1" = 0
  · exact ⟨_, _, by simp [doSonicPlatformInstall, bind_apply, shown]; exact ⟨rfl, rfl⟩, by simp [showQuiet]⟩
  by_cases found : h.isFile (h.log ++ ["pip3 show sonic-platform > /dev/null 2>&1"])
      (join "/" [platformRootPath ++ "/x86_64-accton_" ++ projectName ++ "-r0", platformApi2WhlFilePy3]) = true
  · exact ⟨_, _, by simp [doSonicPlatformInstall, bind_apply, shown, found]; exact ⟨rfl, rfl⟩,
      by simp [showQuiet, installQuiet]⟩
  · exact ⟨_, _, by simp [doSonicPlatformInstall, bind_apply, shown, found]; exact ⟨rfl, rfl⟩, by simp [showQuiet]⟩

theorem doInstall_tail {kos : List String} {sfpMap : List Nat} {mknod : List String} {h : Host}
    {drivers devices : List String} {ended : Except PyExc (Option Int)}
    (driversRun : installDrivers 1 kos h = (.ok none, h.extend drivers))
    (devicesRun : installDevices 1 sfpMap mknod (h.extend drivers) = (ended, h.extend (drivers ++ devices)))
    (outcome : ended = .ok none ∨ ∃ e, ended = .error e) :
    ∃ tail, doInstall 1 kos sfpMap mknod h = (ended, h.extend (drivers ++ devices ++ tail)) ∧
      tail.filterMap sysfsRequest = [] ∧ ((∃ e, ended = .error e) → tail = []) := by
  rcases outcome with rfl | ⟨e, rfl⟩
  · obtain ⟨_, platform, platformRun, platformQuiet⟩ := doSonicPlatformInstall_quiet
      (h.extend (drivers ++ devices ++ ["echo 0 > /sys/devices/platform/as9817_32_led/led_loc"]))
    have led : sysfsRequest "echo 0 > /sys/devices/platform/as9817_32_led/led_loc" = none := by decide
    simp only [Host.extend_extend, List.append_assoc] at platformRun
    refine ⟨"echo 0 > /sys/devices/platform/as9817_32_led/led_loc" :: platform, ?_, by simp [led, platformQuiet],
      fun ⟨_, raised⟩ => nomatch raised⟩
    simp [doInstall, bind_apply, driversRun, devicesRun, platformRun]
  · exact ⟨[], by simp [doInstall, bind_apply, driversRun, devicesRun], rfl, fun _ => rfl⟩

theorem doInstall_forced (kos : List String) (sfpMap : List Nat) (mknod : List String)
    (loadsQuiet : kos.filterMap sysfsRequest = []) (h : Host) :
    ∃ drivers present issued, installDrivers 1 kos h = (.ok none, h.extend drivers) ∧
      deviceExist (h.extend drivers) = (.ok present, h.extend (drivers ++ deviceExistCmds)) ∧
      (doInstall 1 kos sfpMap mknod h = (.ok none, h.extend issued) ∨
        ∃ e, doInstall 1 kos sfpMap mknod h = (.error e.exc, h.extend issued) ∧ present = false ∧
          chmodFailure h (h.log ++ issued) mkfile = some e) ∧
      issued.filterMap sysfsRequest = if present then [] else
        installCreations sfpMap mknod (h.status (h.log ++ drivers ++ deviceExistCmds ++ mknod) probeCmd == 0)
          (h.isFile (h.log ++ drivers ++ deviceExistCmds ++ mknod ++ [probeCmd, eepromCreateCmd]) eepromNode) := by
  obtain ⟨drivers, driversRun, driversQuiet⟩ := installDrivers_forced kos loadsQuiet h
  obtain ⟨present, ended, devices, probed, devicesRun, outcome, -, requests⟩ :=
    installDevices_ends sfpMap mknod (h.extend drivers)
  simp only [Host.extend_log, Host.extend_extend, Host.extend_status, Host.extend_isFile, chmodFailure_extend]
    at probed devicesRun outcome requests
  obtain ⟨tail, run, tailQuiet, stopped⟩ :=
    doInstall_tail driversRun devicesRun (outcome.imp_right fun ⟨e, raised, _⟩ => ⟨_, raised⟩)
  refine ⟨drivers, present, drivers ++ devices ++ tail, driversRun, probed, ?_,
    by simp [List.filterMap_append, driversQuiet, requests, tailQuiet, List.append_assoc]⟩
  rcases outcome with rfl | ⟨e, rfl, absent, failed⟩
  · exact .inl run
  · rw [stopped ⟨_, rfl⟩, List.append_nil] at run ⊢
    exact .inr ⟨e, run, absent, by rw [← List.append_assoc]; exact failed⟩

theorem doInstall_forced_sourceTables :
    ∃ drivers present issued, installDrivers 1 kos Host.obliging = (.ok none, Host.obliging.extend drivers) ∧
      deviceExist (Host.obliging.extend drivers) = (.ok present, Host.obliging.extend (drivers ++ deviceExistCmds)) ∧
      (doInstall 1 kos sfpMap mknod Host.obliging = (.ok none, Host.obliging.extend issued) ∨
        ∃ e, doInstall 1 kos sfpMap mknod Host.obliging = (.error e.exc, Host.obliging.extend issued) ∧
          present = false ∧ chmodFailure Host.obliging (Host.obliging.log ++ issued) mkfile = some e) ∧
      issued.filterMap sysfsRequest = if present then [] else
        installCreations sfpMap mknod
          (Host.obliging.status (Host.obliging.log ++ drivers ++ deviceExistCmds ++ mknod) probeCmd == 0)
          (Host.obliging.isFile (Host.obliging.log ++ drivers ++ deviceExistCmds ++ mknod ++ [probeCmd, eepromCreateCmd])
            eepromNode) :=
  doInstall_forced kos sfpMap mknod kosLoads_quiet Host.obliging

end AcctonAs9817.Util
