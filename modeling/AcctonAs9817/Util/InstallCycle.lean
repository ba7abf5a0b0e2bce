import AcctonAs9817.Util.InstallRuns

set_option autoImplicit false

namespace AcctonAs9817.Util

open Python

/-! `install` and then `clean`, as main runs them, read as the requests they make of an i2c core that
holds no device at the start. Only the case where the EEPROM's node is missing at clean time is
read: what the deletion of a mux does to the buses it created is the kernel's. -/

def mknodDevices (mknod : List String) : List (String × String) := (mknod.filterMap sysfsRequest).map I2cRequest.device

def optoeDevices (sfpMap : List Nat) : List (String × String) := sfpMap.map fun bus => (toString bus, "0x50")

/-- What the i2c core needs of a mknod table to follow install and clean: its requests create devices,
device_uninstall derives a delete command from each entry (`rms`, last entry first) and those delete
the created devices in reverse, and `rm`, derived from the first entry, deletes one of them. -/
structure MknodTable (mknod rms : List String) (rm : String) : Prop where
  derived : mknod.reverse.map deleteCommand = rms.map .ok
  head : ∃ first, mknod.head? = some first ∧ deleteCommand first = .ok rm
  creating : ∀ r ∈ mknod.filterMap sysfsRequest, ∃ driver addr bus, r = .newDevice driver addr bus
  deleting : rms.filterMap sysfsRequest = (mknodDevices mknod).reverse.map deleteOf
  again : ∃ d ∈ mknodDevices mknod, sysfsRequest rm = some (deleteOf d)

theorem mknod_table : MknodTable mknod [muxDeleteCmd] muxDeleteCmd := by
  have made : mknod.filterMap sysfsRequest = [.newDevice "as9817_32_mux" "0x78" "0"] := by decide
  refine ⟨rfl, ⟨_, rfl, rfl⟩, fun r listed => ?_, by decide, ⟨("0", "0x78"), by decide, by decide⟩⟩
  rw [made, List.mem_singleton] at listed
  exact ⟨_, _, _, listed⟩

theorem sourceTables_distinct : (mknodDevices mknod ++ ("36", "0x56") :: optoeDevices sfpMap).Nodup := by
  decide

def installedDevices (sfpMap : List Nat) (mknod : List String) (probed there : Bool) : List (String × String) :=
  mknodDevices mknod ++ ((if probed && there then [("36", "0x56")] else []) ++ optoeDevices sfpMap)

theorem optoeCreations_devices (sfpMap : List Nat) :
    (sfpMap.enum.map fun p =>
      I2cRequest.newDevice (if p.1 > osfpEnd then "optoe2" else "optoe3") "0x50" (toString p.2)).map
        I2cRequest.device = optoeDevices sfpMap := by
  conv_rhs => rw [optoeDevices, ← List.enum_map_snd sfpMap, List.map_map]
  rw [List.map_map]
  rfl

theorem optoeDeletions_eq (sfpMap : List Nat) :
    (sfpMap.map fun bus => I2cRequest.deleteDevice "0x50" (toString bus)) = (optoeDevices sfpMap).map deleteOf := by
  simp [optoeDevices, deleteOf, Function.comp_def]

section Cycle

variable {sfpMap : List Nat} {mknod rms : List String} {rm : String}

theorem installedDevices_nodup (distinct : (mknodDevices mknod ++ ("36", "0x56") :: optoeDevices sfpMap).Nodup)
    (probed there : Bool) : (installedDevices sfpMap mknod probed there).Nodup := by
  unfold installedDevices
  split
  · simpa using distinct
  · exact distinct.sublist ((List.sublist_cons_self _ _).append_left _)

theorem replay_installCreations (table : MknodTable mknod rms rm)
    (distinct : (mknodDevices mknod ++ ("36", "0x56") :: optoeDevices sfpMap).Nodup) (probed there : Bool) :
    replay [] (installCreations sfpMap mknod probed there) = .ok (installedDevices sfpMap mknod probed there) := by
  have fresh : ("36", "0x56") ∉ mknodDevices mknod := fun held =>
    (List.nodup_append.mp distinct).2.2 held (List.mem_cons_self _ _)
  have made : replay [] (mknod.filterMap sysfsRequest) = .ok (mknodDevices mknod) :=
    replay_creations _ table.creating [] (distinct.sublist (List.sublist_append_left _ _))
  have eeprom : replay (mknodDevices mknod) (if probed then .newDevice "24c02" "0x56" "36" ::
      if there then [] else [.deleteDevice "0x56" "36"] else []) =
      .ok (mknodDevices mknod ++ if probed && there then [("36", "0x56")] else []) := by
    cases probed <;> cases there <;> simp [replay, applyRequest, fresh, List.erase_append_right _ fresh]
  have optoes := replay_creations (sfpMap.enum.map fun p =>
      I2cRequest.newDevice (if p.1 > osfpEnd then "optoe2" else "optoe3") "0x50" (toString p.2))
    (fun r listed => by
      obtain ⟨p, _, rfl⟩ := List.mem_map.mp listed
      exact ⟨_, _, _, rfl⟩) (mknodDevices mknod ++ if probed && there then [("36", "0x56")] else [])
    (by rw [optoeCreations_devices, List.append_assoc]; exact installedDevices_nodup distinct probed there)
  simp only [installCreations, replay_append, made, eeprom, optoes, optoeCreations_devices, installedDevices,
    List.append_assoc]

theorem replay_uninstallDeletions (table : MknodTable mknod rms rm)
    (distinct : (mknodDevices mknod ++ ("36", "0x56") :: optoeDevices sfpMap).Nodup) (probed there : Bool) :
    ∃ left refused, replay (installedDevices sfpMap mknod probed there)
        ((sfpMap.map fun bus => .deleteDevice "0x50" (toString bus)) ++ rms.filterMap sysfsRequest) = .ok left ∧
      sysfsRequest rm = some refused ∧ applyRequest left refused = none := by
  have installed := installedDevices_nodup distinct probed there
  have apart : ∀ d ∈ mknodDevices mknod, d ∉ optoeDevices sfpMap := fun d made optoe =>
    (List.nodup_append.mp distinct).2.2 made (List.mem_cons_of_mem _ optoe)
  obtain ⟨afterOptoes, optoesRun, afterDistinct, afterMem⟩ := replay_deletions_held (optoeDevices sfpMap)
    _ installed (distinct.sublist (List.sublist_append_right _ _)).of_cons
    fun d optoe => by simp [installedDevices, optoe]
  obtain ⟨left, mknodRun, -, leftMem⟩ := replay_deletions_held (mknodDevices mknod).reverse afterOptoes afterDistinct
    (List.nodup_reverse.mpr (distinct.sublist (List.sublist_append_left _ _)))
    fun d made => (afterMem d).mpr ⟨by simp [installedDevices, List.mem_reverse.mp made],
      apart d (List.mem_reverse.mp made)⟩
  obtain ⟨d, made, again⟩ := table.again
  refine ⟨left, deleteOf d, ?_, again, ?_⟩
  · simp only [optoeDeletions_eq, replay_append, optoesRun, table.deleting, mknodRun]
  · have gone : d ∉ left := fun kept => ((leftMem d).mp kept).2 (List.mem_reverse.mpr made)
    obtain ⟨bus, addr⟩ := d
    simp [applyRequest, deleteOf, gone]

theorem install_then_clean_requests (table : MknodTable mknod rms rm)
    (distinct : (mknodDevices mknod ++ ("36", "0x56") :: optoeDevices sfpMap).Nodup) (probed there : Bool) :
    ∃ accepted refused core,
      installCreations sfpMap mknod probed there ++ uninstallDeletions sfpMap rms rm false = accepted ++ [refused] ∧
      sysfsRequest rm = some refused ∧ replay [] accepted = .ok core ∧ applyRequest core refused = none := by
  obtain ⟨core, refused, deleted, again, refusedThere⟩ := replay_uninstallDeletions table distinct probed there
  refine ⟨installCreations sfpMap mknod probed there ++
    ((sfpMap.map fun bus => .deleteDevice "0x50" (toString bus)) ++ rms.filterMap sysfsRequest), refused, core, ?_, again,
    by simp only [replay_append, replay_installCreations table distinct, deleted], refusedThere⟩
  simp [uninstallDeletions, List.filterMap_append, again, List.append_assoc]

end Cycle

theorem doInstall_then_doUninstall_refuses_repeated_delete (kos : List String) (sfpMap : List Nat)
    {mknod rms : List String} {rm : String} (loadsQuiet : kos.filterMap sysfsRequest = [])
    (unloadsQuiet : (kos.reverse.map unloadCommand).filterMap sysfsRequest = []) (table : MknodTable mknod rms rm)
    (distinct : (mknodDevices mknod ++ ("36", "0x56") :: optoeDevices sfpMap).Nodup) (h : Host) :
    ∃ drivers installPresent installed result cleanPresent removed,
      installDrivers 1 kos h = (.ok none, h.extend drivers) ∧
      deviceExist (h.extend drivers) = (.ok installPresent, h.extend (drivers ++ deviceExistCmds)) ∧
      doInstall 1 kos sfpMap mknod h = (result, h.extend installed) ∧
      deviceExist (h.extend installed) = (.ok cleanPresent, h.extend (installed ++ deviceExistCmds)) ∧
      doUninstall 1 kos sfpMap mknod (h.extend installed) = (.ok none, h.extend (installed ++ removed)) ∧
      (installPresent = false → cleanPresent = true →
        h.isFile (h.log ++ installed ++ deviceExistCmds ++ sfpDeleteCmds sfpMap ++ rms) eepromNode = false →
        ∃ accepted refused core, (installed ++ removed).filterMap sysfsRequest = accepted ++ [refused] ∧
          sysfsRequest rm = some refused ∧ replay [] accepted = .ok core ∧ applyRequest core refused = none) := by
  obtain ⟨drivers, driversRun, driversQuiet⟩ := installDrivers_forced kos loadsQuiet h
  obtain ⟨installPresent, ended, devices, installProbed, devicesRun, outcome, -, creations⟩ :=
    installDevices_ends sfpMap mknod (h.extend drivers)
  simp only [Host.extend_log, Host.extend_extend, Host.extend_status, Host.extend_isFile]
    at installProbed devicesRun creations
  obtain ⟨installTail, installed, installQuiet, -⟩ :=
    doInstall_tail driversRun devicesRun (outcome.imp_right fun ⟨e, raised, _⟩ => ⟨_, raised⟩)
  obtain ⟨first, head, firstDerived⟩ := table.head
  obtain ⟨cleanPresent, removedDevices, cleanProbed, devicesRemoved, deletions⟩ :=
    removeDevices_forced sfpMap table.derived head firstDerived (h.extend (drivers ++ devices ++ installTail))
  obtain ⟨cleanTail, cleaned, cleanQuiet⟩ := doUninstall_tail unloadsQuiet devicesRemoved
  simp only [Host.extend_log, Host.extend_extend, Host.extend_isFile] at cleanProbed cleaned deletions
  refine ⟨drivers, installPresent, drivers ++ devices ++ installTail, ended, cleanPresent, removedDevices ++ cleanTail,
    driversRun, installProbed, installed, cleanProbed, by simpa using cleaned, ?_⟩
  rintro rfl rfl absent
  obtain ⟨accepted, refused, core, split, again, acceptedRun, refusedThere⟩ := install_then_clean_requests table
    distinct (h.status (h.log ++ (drivers ++ (deviceExistCmds ++ mknod))) probeCmd == 0)
    (h.isFile (h.log ++ (drivers ++ (deviceExistCmds ++ (mknod ++ [probeCmd, eepromCreateCmd])))) eepromNode)
  refine ⟨accepted, refused, core, ?_, again, acceptedRun, refusedThere⟩
  simp only [List.append_assoc] at absent creations deletions
  rw [← split]
  simp [List.filterMap_append, driversQuiet, creations, installQuiet, deletions, cleanQuiet, absent, List.append_assoc]

def eepromlessBoard : Host where
  log := []
  status log cmd :=
    if cmd = "i2cget -f -y 36 0x56" then 1
    else if (cmd = "ls /sys/bus/i2c/devices/*0070" ∨ cmd = "ls /sys/bus/i2c/devices/i2c-2") ∧
        "echo as9817_32_mux 0x78 > /sys/bus/i2c/devices/i2c-0/new_device" ∉ log then 2
    else 0
  isFile _ _ := false
  writable _ _ := true
  chmodError _ _ := none

theorem doInstall_then_doUninstall_on_eepromlessBoard :
    ∃ drivers installPresent installed result cleanPresent removed,
      installDrivers 1 kos eepromlessBoard = (.ok none, eepromlessBoard.extend drivers) ∧
      deviceExist (eepromlessBoard.extend drivers) =
        (.ok installPresent, eepromlessBoard.extend (drivers ++ deviceExistCmds)) ∧
      doInstall 1 kos sfpMap mknod eepromlessBoard = (result, eepromlessBoard.extend installed) ∧
      deviceExist (eepromlessBoard.extend installed) =
        (.ok cleanPresent, eepromlessBoard.extend (installed ++ deviceExistCmds)) ∧
      doUninstall 1 kos sfpMap mknod (eepromlessBoard.extend installed) =
        (.ok none, eepromlessBoard.extend (installed ++ removed)) ∧
      (installPresent = false → cleanPresent = true →
        eepromlessBoard.isFile (eepromlessBoard.log ++ installed ++ deviceExistCmds ++ sfpDeleteCmds sfpMap ++
          [muxDeleteCmd]) eepromNode = false →
        ∃ accepted refused core, (installed ++ removed).filterMap sysfsRequest = accepted ++ [refused] ∧
          sysfsRequest muxDeleteCmd = some refused ∧ replay [] accepted = .ok core ∧
          applyRequest core refused = none) :=
  doInstall_then_doUninstall_refuses_repeated_delete kos sfpMap kosLoads_quiet kosUnloads_quiet mknod_table
    sourceTables_distinct eepromlessBoard

section EepromlessBoard

def muxCreateCmd : String := "echo as9817_32_mux 0x78 > /sys/bus/i2c/devices/i2c-0/new_device"

theorem eepromlessBoard_present {log : List String} :
    deviceExist (eepromlessBoard.extend log) =
      (.ok (decide (muxCreateCmd ∈ log)), eepromlessBoard.extend (log ++ deviceExistCmds)) := by
  rw [deviceExist_apply]
  by_cases made : muxCreateCmd ∈ log <;> simp only [muxCreateCmd] at made ⊢ <;>
    simp [eepromlessBoard, Host.extend, deviceExistCmds, made]

theorem doUninstall_deletes_mux_twice :
    ∃ installed removed,
      doInstall 1 kos sfpMap mknod eepromlessBoard = (.ok none, eepromlessBoard.extend installed) ∧
      doUninstall 1 kos sfpMap mknod (eepromlessBoard.extend installed) =
        (.ok none, eepromlessBoard.extend (installed ++ removed)) ∧
      removed.filterMap sysfsRequest = (sfpMap.map fun bus => .deleteDevice "0x50" (toString bus)) ++
        [.deleteDevice "0x78" "0", .deleteDevice "0x78" "0"] ∧
      replay [] ((installed ++ removed).filterMap sysfsRequest) = .error (.deleteDevice "0x78" "0") := by
  obtain ⟨drivers, driversRun, driversQuiet⟩ := installDrivers_forced kos kosLoads_quiet eepromlessBoard
  have muxRequest : sysfsRequest muxCreateCmd = some (.newDevice "as9817_32_mux" "0x78" "0") := by decide
  have notMade : muxCreateCmd ∉ drivers := fun made => by
    simp [List.filterMap_eq_nil_iff.mp driversQuiet _ made] at muxRequest
  obtain ⟨present, ended, devices, probed, devicesRun, outcome, issuesMknod, creations⟩ :=
    installDevices_ends sfpMap mknod (eepromlessBoard.extend drivers)
  obtain rfl : present = false := by
    rw [eepromlessBoard_present, Prod.mk.injEq, Except.ok.injEq] at probed
    simpa [notMade] using probed.1.symm
  obtain rfl : ended = .ok none := outcome.resolve_right fun ⟨e, _, _, failed⟩ => by
    simp [chmodFailure, eepromlessBoard, Host.extend, mkfile] at failed
  obtain ⟨rest, rfl⟩ := issuesMknod rfl
  obtain ⟨installTail, installed, installQuiet, -⟩ := doInstall_tail driversRun devicesRun (.inl rfl)
  obtain ⟨cleanPresent, removedDevices, cleanProbed, devicesRemoved, deletions⟩ := @removeDevices_forced sfpMap mknod
    [muxDeleteCmd] rfl _ muxDeleteCmd rfl rfl (eepromlessBoard.extend (drivers ++ (deviceExistCmds ++ mknod ++ rest) ++
      installTail))
  obtain rfl : cleanPresent = true := by
    rw [eepromlessBoard_present, Prod.mk.injEq, Except.ok.injEq] at cleanProbed
    simpa [mknod, muxCreateCmd] using cleanProbed.1.symm
  obtain ⟨cleanTail, cleaned, cleanQuiet⟩ := doUninstall_tail kosUnloads_quiet devicesRemoved
  obtain ⟨accepted, refused, core, split, again, acceptedRun, refusedThere⟩ :=
    @install_then_clean_requests sfpMap mknod [muxDeleteCmd] muxDeleteCmd mknod_table sourceTables_distinct false false
  have twice : [muxDeleteCmd, muxDeleteCmd].filterMap sysfsRequest =
      [.deleteDevice "0x78" "0", .deleteDevice "0x78" "0"] := by
    decide
  obtain rfl : refused = .deleteDevice "0x78" "0" := Option.some.inj (again.symm.trans (by decide))
  have removed : (removedDevices ++ cleanTail).filterMap sysfsRequest =
      uninstallDeletions sfpMap [muxDeleteCmd] muxDeleteCmd false := by
    simp [List.filterMap_append, deletions, cleanQuiet, eepromlessBoard, Host.extend]
  have requests : ((drivers ++ (deviceExistCmds ++ mknod ++ rest) ++ installTail) ++
      (removedDevices ++ cleanTail)).filterMap sysfsRequest = accepted ++ [.deleteDevice "0x78" "0"] := by
    rw [← split, List.filterMap_append, removed, List.filterMap_append, List.filterMap_append, driversQuiet, creations,
      installQuiet]
    simp [eepromlessBoard, Host.extend, probeCmd]
  refine ⟨_, _, installed, by simpa using cleaned, ?_, ?_⟩
  · rw [removed]
    simp [uninstallDeletions, twice]
  · rw [requests, replay_append, acceptedRun]
    simp [replay, refusedThere]

end EepromlessBoard

end AcctonAs9817.Util
