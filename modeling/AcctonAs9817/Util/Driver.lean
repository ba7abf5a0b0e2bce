import AcctonAs9817.Util.Host

set_option autoImplicit false

namespace AcctonAs9817.Util

open Python

/-- The loop `for cmd in cmds: status = log_os_system(cmd); if status and FORCE == 0: return status`:
the status that stopped the loop, if one did. -/
def forceEach (force : Nat) : List String → HostM (Option Nat)
  | [] => pure none
  | cmd :: rest => do
    let status ← logOsSystem cmd
    if status != 0 && force == 0 then pure (some status) else forceEach force rest

def getstatusoutputEach : List String → HostM Unit
  | [] => pure ()
  | cmd :: rest => do
    let _ ← getstatusoutput cmd
    getstatusoutputEach rest

def ipmiKo : List String :=
  ["modprobe ipmi_msghandler", "modprobe ipmi_ssif", "modprobe ipmi_si", "modprobe ipmi_devintf"]

def attempts : Nat := 5
def interval : Nat := 3

/-- One pass of the `while attempts` loop of init_ipmi_dev_intf per remaining attempt `left`, for the
module list `ko` and ATTEMPTS = `total`; the second component is the time slept. -/
def initIpmiDevIntfLoop (ko : List String) (total interval : Nat) : Nat → HostM (Nat × Nat)
  | 0 => pure (1, total * interval)
  | left + 1 => do
    getstatusoutputEach ko
    if (← pathExists "/dev/ipmi0") || (← pathExists "/dev/ipmidev/0") then
      pure (0, (total - (left + 1)) * interval)
    else do
      getstatusoutputEach (ko.reverse.map (replace · "modprobe" "modprobe -rq"))
      initIpmiDevIntfLoop ko total interval left

def initIpmiDevIntf : HostM (Nat × Nat) := initIpmiDevIntfLoop ipmiKo attempts interval attempts

def initIpmiOemCmdLoop : Nat → HostM (Nat × Nat)
  | 0 => pure (1, attempts * interval)
  | left + 1 => do
    if (← getstatusoutput "ipmitool raw 0x34 0x95") != 0 then initIpmiOemCmdLoop left
    else pure (0, (attempts - (left + 1)) * interval)

def initIpmiOemCmd : HostM (Nat × Nat) := initIpmiOemCmdLoop attempts

def initIpmiLoop : Nat → HostM Nat
  | 0 => pure 1
  | left + 1 => do
    let (status, _) ← initIpmiDevIntf
    if status != 0 then initIpmiLoop left else do
    let (status, _) ← initIpmiOemCmd
    if status != 0 then initIpmiLoop left else pure 0

def initIpmi : HostM Nat := initIpmiLoop attempts

def kos : List String :=
  ["modprobe i2c_dev", "modprobe i2c_i801", "modprobe i2c_ismt", "modprobe optoe", "modprobe at24",
    "modprobe i2c-ocores", "modprobe accton_as9817_32_fpga", "modprobe accton_as9817_32_fan",
    "modprobe accton_as9817_32_psu", "modprobe accton_as9817_32_thermal", "modprobe accton_as9817_32_sys",
    "modprobe accton_as9817_32_leds", "modprobe accton_as9817_32_mux"]

def driverInstall (force : Nat) (kos : List String) : HostM Nat := do
  let status ← logOsSystem "modprobe ice"
  if status != 0 && force == 0 then pure status else do
  let status ← initIpmi
  if status != 0 && force == 0 then pure status else do
  let _ ← logOsSystem "depmod -ae"
  pure ((← forceEach force kos).getD 0)

def unloadCommand (ko : String) : String :=
  let rm := replace ko "modprobe" "modprobe -rq"
  let rm := replace rm "insmod" "rmmod"
  let lst := splitOn rm ' '
  let lst := if lst.length > 3 then lst.eraseIdx 3 else lst
  join " " lst

def driverUninstall (force : Nat) (kos : List String) : HostM Nat := do
  pure ((← forceEach force (kos.reverse.map unloadCommand)).getD 0)

def Proceeds (force : Nat) (h : Host) : Prop := force ≠ 0 ∨ ∀ log cmd, h.status log cmd = 0

section Runs

variable {force : Nat} {h : Host}

@[simp] theorem Proceeds.extend (goOn : Proceeds force h) (new : List String) : Proceeds force (h.extend new) := by
  simpa [Proceeds] using goOn

theorem Proceeds.passes (goOn : Proceeds force h) (log : List String) (cmd : String) :
    ¬ (¬ h.status log cmd = 0 ∧ force = 0) := by
  rcases goOn with forced | succeeds <;> simp [*]

theorem forceEach_issues_all (cmds : List String) (goOn : Proceeds force h) :
    forceEach force cmds h = (.ok none, h.extend cmds) := by
  induction cmds generalizing h with
  | nil => simp [forceEach]
  | cons cmd rest ih => simp [forceEach, bind_apply, goOn.passes, ih (goOn.extend [cmd])]

theorem getstatusoutputEach_apply (cmds : List String) (h : Host) :
    getstatusoutputEach cmds h = (.ok (), h.extend cmds) := by
  induction cmds generalizing h with
  | nil => simp [getstatusoutputEach]
  | cons cmd rest ih => simp [getstatusoutputEach, bind_apply, ih]

theorem getstatusoutputEach_returns (cmds : List String) : Returns (getstatusoutputEach cmds) :=
  fun h => ⟨(), cmds, getstatusoutputEach_apply cmds h⟩

theorem initIpmiDevIntfLoop_returns (ko : List String) (total interval : Nat) :
    ∀ left, Returns (initIpmiDevIntfLoop ko total interval left)
  | 0 => returns_pure _
  | left + 1 =>
    (getstatusoutputEach_returns _).bind fun _ => (returns_pathExists _).bind fun _ =>
      (returns_pathExists _).bind fun _ => returns_ite (returns_pure _)
        ((getstatusoutputEach_returns _).bind fun _ => initIpmiDevIntfLoop_returns ko total interval left)

theorem initIpmiOemCmdLoop_returns : ∀ left, Returns (initIpmiOemCmdLoop left)
  | 0 => returns_pure _
  | left + 1 =>
    (returns_getstatusoutput _).bind fun _ => returns_ite (initIpmiOemCmdLoop_returns left) (returns_pure _)

theorem initIpmiLoop_returns : ∀ left, Returns (initIpmiLoop left)
  | 0 => returns_pure _
  | left + 1 =>
    (initIpmiDevIntfLoop_returns _ _ _ attempts).bind fun _ => returns_ite (initIpmiLoop_returns left)
      ((initIpmiOemCmdLoop_returns attempts).bind fun _ => returns_ite (initIpmiLoop_returns left) (returns_pure _))

theorem driverInstall_loads_in_order (forced : force ≠ 0) (kos : List String) (h : Host) :
    ∃ setup, driverInstall force kos h = (.ok 0, h.extend (setup ++ kos)) := by
  obtain ⟨status, new, ipmi⟩ := initIpmiLoop_returns attempts (h.extend ["modprobe ice"])
  have loaded := @forceEach_issues_all force (h.extend ("modprobe ice" :: (new ++ ["depmod -ae"])))
    kos (.inl forced)
  refine ⟨"modprobe ice" :: new ++ ["depmod -ae"], ?_⟩
  simp [driverInstall, initIpmi, bind_apply, forced, ipmi, loaded]

theorem driverUninstall_issues (kos : List String) (goOn : Proceeds force h) :
    driverUninstall force kos h = (.ok 0, h.extend (kos.reverse.map unloadCommand)) := by
  simp [driverUninstall, bind_apply, forceEach_issues_all _ goOn]

end Runs

inductive Loader
  | modprobe
  | insmod
  deriving DecidableEq, Repr

def Loader.name : Loader → String
  | .modprobe => "modprobe"
  | .insmod => "insmod"

def Loader.unloadWords : Loader → List String
  | .modprobe => ["modprobe", "-rq"]
  | .insmod => ["rmmod"]

def Plain (word : String) : Prop :=
  ' ' ∉ word.data ∧ ¬ "modprobe".data <:+: word.data ∧ ¬ "insmod".data <:+: word.data

instance : DecidablePred Plain := fun _ => inferInstanceAs (Decidable (_ ∧ _ ∧ _))

structure KoEntry where
  loader : Loader
  module : String
  params : List String
  plain : ∀ word ∈ module :: params, Plain word

def KoEntry.command (e : KoEntry) : String := join " " (e.loader.name :: e.module :: e.params)

/-- Modelled from the spec: the unload command of an entry, with no parameter left on it. -/
def KoEntry.unload (e : KoEntry) : String := join " " (e.loader.unloadWords ++ [e.module])

section Unload

theorem map_replace_plain {words : List String} (plain : ∀ word ∈ words, Plain word) (new : String) :
    words.map (replace · "modprobe" new) = words ∧ words.map (replace · "insmod" new) = words :=
  ⟨(List.map_congr_left fun word listed => replace_of_not_infix word new (by decide) (plain word listed).2.1).trans
      (List.map_id _),
    (List.map_congr_left fun word listed => replace_of_not_infix word new (by decide) (plain word listed).2.2).trans
      (List.map_id _)⟩

theorem Loader.replace_name (loader : Loader) :
    replace (replace loader.name "modprobe" "modprobe -rq") "insmod" "rmmod" = join " " loader.unloadWords := by
  cases loader <;> decide

theorem Loader.unloadWords_spaceless (loader : Loader) : ∀ word ∈ loader.unloadWords, ' ' ∉ word.data := by
  cases loader <;> decide

theorem KoEntry.replace_command (e : KoEntry) :
    replace (replace e.command "modprobe" "modprobe -rq") "insmod" "rmmod" =
      join " " (e.loader.unloadWords ++ e.module :: e.params) := by
  have kept := map_replace_plain e.plain
  rw [KoEntry.command, replace_join _ (by decide) (by decide), List.map_cons, (kept _).1,
    replace_join _ (by decide) (by decide), List.map_cons, (kept _).2, Loader.replace_name,
    join_join_cons (by cases e.loader <;> decide)]

theorem KoEntry.unloadCommand_command (e : KoEntry) :
    unloadCommand e.command = join " " ((e.loader.unloadWords ++ e.module :: e.params).eraseIdx 3) := by
  have spaceless : ∀ word ∈ e.loader.unloadWords ++ e.module :: e.params, ' ' ∉ word.data := by
    intro word listed
    rcases List.mem_append.mp listed with named | plain
    · exact e.loader.unloadWords_spaceless word named
    · exact (e.plain word plain).1
  have split : splitOn (join " " (e.loader.unloadWords ++ e.module :: e.params)) ' ' =
      e.loader.unloadWords ++ e.module :: e.params := splitOn_join ' ' _ spaceless (by simp)
  simp only [unloadCommand, e.replace_command, split]
  split_ifs with long
  · rfl
  · rw [List.eraseIdx_of_length_le (by omega)]

/-- The entries driver_uninstall turns into their unload commands: a modprobe entry with at most one
parameter, an insmod entry with none. -/
def KoEntry.Unloadable (e : KoEntry) : Prop :=
  e.params.length ≤ match e.loader with
    | .modprobe => 1
    | .insmod => 0

instance : DecidablePred KoEntry.Unloadable := fun _ => inferInstanceAs (Decidable (_ ≤ _))

theorem KoEntry.unloadCommand_of_unloadable (e : KoEntry) (unloadable : e.Unloadable) :
    unloadCommand e.command = e.unload := by
  rw [e.unloadCommand_command, KoEntry.unload]
  obtain ⟨loader, module, params, _⟩ := e
  cases loader <;> rcases params with _ | ⟨_, _ | ⟨_, _⟩⟩ <;>
    simp_all [KoEntry.Unloadable, Loader.unloadWords]

end Unload

theorem driverUninstall_reverses_driverInstall {force : Nat} (forced : force ≠ 0) (entries : List KoEntry)
    (unloadable : ∀ e ∈ entries, e.Unloadable) (h : Host) :
    ∃ setup, driverInstall force (entries.map KoEntry.command) h =
        (.ok 0, h.extend (setup ++ entries.map KoEntry.command)) ∧
      driverUninstall force (entries.map KoEntry.command) (h.extend (setup ++ entries.map KoEntry.command)) =
        (.ok 0, h.extend (setup ++ entries.map KoEntry.command ++ (entries.map KoEntry.unload).reverse)) := by
  obtain ⟨setup, installed⟩ := driverInstall_loads_in_order forced (entries.map KoEntry.command) h
  have unloads : (entries.map KoEntry.command).reverse.map unloadCommand = (entries.map KoEntry.unload).reverse := by
    rw [List.map_reverse, List.map_map]
    exact congrArg List.reverse (List.map_congr_left fun e listed => e.unloadCommand_of_unloadable (unloadable e listed))
  refine ⟨setup, installed, ?_⟩
  rw [driverUninstall_issues _ (.inl forced), unloads, Host.extend_extend]

def modprobeEntry (module : String) (plain : Plain module) : KoEntry :=
  ⟨.modprobe, module, [], by simpa using plain⟩

def kosEntries : List KoEntry :=
  [modprobeEntry "i2c_dev" (by decide), modprobeEntry "i2c_i801" (by decide),
    modprobeEntry "i2c_ismt" (by decide), modprobeEntry "optoe" (by decide), modprobeEntry "at24" (by decide),
    modprobeEntry "i2c-ocores" (by decide), modprobeEntry "accton_as9817_32_fpga" (by decide),
    modprobeEntry "accton_as9817_32_fan" (by decide), modprobeEntry "accton_as9817_32_psu" (by decide),
    modprobeEntry "accton_as9817_32_thermal" (by decide), modprobeEntry "accton_as9817_32_sys" (by decide),
    modprobeEntry "accton_as9817_32_leds" (by decide), modprobeEntry "accton_as9817_32_mux" (by decide)]

theorem kosEntries_command : kosEntries.map KoEntry.command = kos := by decide

theorem kos_unloaded_in_reverse :
    (1 ≠ 0 ∧ ∀ e ∈ kosEntries, e.Unloadable) ∧
      ∃ setup, driverInstall 1 (kosEntries.map KoEntry.command) Host.obliging =
          (.ok 0, Host.obliging.extend (setup ++ kosEntries.map KoEntry.command)) ∧
        driverUninstall 1 (kosEntries.map KoEntry.command)
            (Host.obliging.extend (setup ++ kosEntries.map KoEntry.command)) =
          (.ok 0, Host.obliging.extend (setup ++ kosEntries.map KoEntry.command ++
            (kosEntries.map KoEntry.unload).reverse)) :=
  have unloadable : ∀ e ∈ kosEntries, e.Unloadable := by decide
  ⟨⟨Nat.one_ne_zero, unloadable⟩, driverUninstall_reverses_driverInstall Nat.one_ne_zero kosEntries unloadable _⟩

def parameterisedKo : KoEntry := ⟨.insmod, "foo.ko", ["bar=1"], by decide⟩

theorem driverUninstall_keeps_insmod_parameter :
    driverUninstall 1 [parameterisedKo.command] Host.obliging =
        (.ok 0, Host.obliging.extend ["rmmod foo.ko bar=1"]) ∧
      parameterisedKo.unload = "rmmod foo.ko" := by
  have unloaded : unloadCommand parameterisedKo.command = "rmmod foo.ko bar=1" := by decide
  refine ⟨?_, by decide⟩
  rw [driverUninstall_issues _ (.inl Nat.one_ne_zero)]
  simp [unloaded]

end AcctonAs9817.Util
