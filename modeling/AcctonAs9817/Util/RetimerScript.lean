import AcctonAs9817.Util.Retimer

set_option autoImplicit false

namespace AcctonAs9817.Util

open Python

/-! The retimer bring-up at the level of its write sequences. A checked sequence ends the whole
configuration at its first failed write; a helper's sequence ends only the helper. -/
inductive Step
  | checked (cmds : List String)
  | helper (cmds : List String)

def runScript (status : List String → String → Nat) (log : List String) : List Step → Bool × List String
  | [] => (true, [])
  | .checked cmds :: rest =>
    let first := checkedRun status log cmds
    if first.1 then
      let next := runScript status (log ++ first.2) rest
      (next.1, first.2 ++ next.2)
    else first
  | .helper cmds :: rest =>
    let first := checkedRun status log cmds
    let next := runScript status (log ++ first.2) rest
    (next.1, first.2 ++ next.2)

def txfirCommands (offset : Nat) (pre main post : Int) : List String :=
  writeCommands tiMuxI2cBus tiMuxI2cAddr (df810TxfirSetValues offset pre main post)

def cdrBwCommands (offset : Nat) (param1 param2 : Int) : List String :=
  writeCommands tiMuxI2cBus tiMuxI2cAddr (df810CdrBwSetValues offset param1 param2)

def crossPointCommands : List String :=
  i2cset tiMuxI2cBus tiMuxI2cAddr "0xff" "0x01" :: (List.range 8).flatMap channelCommands

def frontTxfirCommands (speed : Int) : List (List String) :=
  if speed == s10G then [txfirCommands 1 0 15 (-3), txfirCommands 3 0 15 (-3)]
  else if speed == s25G then [txfirCommands 1 (-8) 22 0, txfirCommands 3 (-8) 22 0]
  else []

def channelHelpers (dest speed : Int) : List (List String) :=
  if dest == cpu then
    if speed == s10G then
      [txfirCommands 0 0 17 (-2), txfirCommands 2 0 17 (-2), txfirCommands 4 0 7 0,
        txfirCommands 6 0 7 0, cdrBwCommands 4 0x24 0xfc, cdrBwCommands 6 0x24 0xfc]
    else []
  else if dest == front then frontTxfirCommands speed ++ [crossPointCommands]
  else []

def muxEnable : String := i2cset tiMuxI2cBus "0x72" "0x00" "0x01"
def muxDisable : String := i2cset tiMuxI2cBus "0x72" "0x00" "0x00"

def configSfpScript (dest speed : Int) : List Step :=
  .checked [muxEnable] :: .checked (writeCommands tiMuxI2cBus tiMuxI2cAddr (configSfpValues speed)) ::
    ((channelHelpers dest speed).map .helper ++ [.checked [muxDisable]])

def RunsHelper (m : HostM (Option Bool)) (cmds : List String) : Prop :=
  ∀ h : Host, m h = (.ok (if (checkedRun h.status h.log cmds).1 then none else some false),
    h.extend (checkedRun h.status h.log cmds).2)

theorem df810Write_runsHelper (registerValues : List (String × String)) :
    RunsHelper (df810Write registerValues) (writeCommands tiMuxI2cBus tiMuxI2cAddr registerValues) := by
  intro h
  rw [df810Write, bind_apply_ok (setRegisters_runsChecked _ _ _ h)]
  split <;> rfl

theorem df810CrossPoint_runsHelper : RunsHelper df810CrossPoint crossPointCommands := by
  intro h
  by_cases opened : h.status h.log (i2cset tiMuxI2cBus tiMuxI2cAddr "0xff" "0x01") = 0
  · rw [df810CrossPoint, bind_apply_ok (setI2cRegister_apply _ _ _ _ h), crossPointCommands,
      checkedRun_cons_pass opened]
    simp only [opened, beq_self_eq_true, if_true]
    rw [bind_apply_ok (crossPointChannels_runsChecked _ _)]
    simp only [Host.extend_status, Host.extend_log, Host.extend_extend, List.singleton_append]
    split <;> rfl
  · simp [df810CrossPoint, bind_apply, opened, crossPointCommands, checkedRun_cons_fail opened]

def helperRuns (status : List String → String → Nat) (log : List String) :
    List (List String) → List String
  | [] => []
  | cmds :: rest =>
    (checkedRun status log cmds).2 ++ helperRuns status (log ++ (checkedRun status log cmds).2) rest

def RunsHelpers (m : HostM Unit) (helpers : List (List String)) : Prop :=
  ∀ h : Host, m h = (.ok (), h.extend (helperRuns h.status h.log helpers))

theorem pure_runsHelpers : RunsHelpers (pure ()) [] := by
  intro h; simp [helperRuns]

theorem RunsHelper.discardThen {m : HostM (Option Bool)} {k : HostM Unit} {cmds : List String}
    {helpers : List (List String)} (hm : RunsHelper m cmds) (hk : RunsHelpers k helpers) :
    RunsHelpers (do let _ ← m; k) (cmds :: helpers) := by
  intro h
  rw [bind_apply_ok (hm h), hk]
  simp [helperRuns]

theorem RunsHelper.discard {m : HostM (Option Bool)} {cmds : List String} (hm : RunsHelper m cmds) :
    RunsHelpers (do let _ ← m) [cmds] := by
  intro h
  rw [bind_apply_ok (hm h)]
  simp [helperRuns]

theorem helperRuns_append (status : List String → String → Nat) (log : List String)
    (first second : List (List String)) :
    helperRuns status log (first ++ second) =
      helperRuns status log first ++ helperRuns status (log ++ helperRuns status log first) second := by
  induction first generalizing log with
  | nil => simp [helperRuns]
  | cons cmds rest ih => simp [helperRuns, ih, List.append_assoc]

theorem RunsHelpers.append {m k : HostM Unit} {first second : List (List String)}
    (hm : RunsHelpers m first) (hk : RunsHelpers k second) :
    RunsHelpers (do m; k) (first ++ second) := by
  intro h
  rw [bind_apply_ok (hm h), hk]
  simp [helperRuns_append]

theorem df810TxfirSet_runsHelper (offset : Nat) (pre main post : Int) :
    RunsHelper (df810TxfirSet offset pre main post) (txfirCommands offset pre main post) :=
  df810Write_runsHelper _

theorem df810CdrBwSet_runsHelper (offset : Nat) (param1 param2 : Int) :
    RunsHelper (df810CdrBwSet offset param1 param2) (cdrBwCommands offset param1 param2) :=
  df810Write_runsHelper _

theorem frontTxfirSet_runsHelpers (speed : Int) :
    RunsHelpers (frontTxfirSet speed) (frontTxfirCommands speed) := by
  unfold frontTxfirSet frontTxfirCommands
  split_ifs
  · exact (df810TxfirSet_runsHelper 1 0 15 (-3)).discardThen (df810TxfirSet_runsHelper 3 0 15 (-3)).discard
  · exact (df810TxfirSet_runsHelper 1 (-8) 22 0).discardThen (df810TxfirSet_runsHelper 3 (-8) 22 0).discard
  · exact pure_runsHelpers

theorem configSfpChannels_runsHelpers (dest speed : Int) :
    RunsHelpers (configSfpChannels dest speed) (channelHelpers dest speed) := by
  unfold configSfpChannels channelHelpers
  split_ifs
  · exact (df810TxfirSet_runsHelper _ _ _ _).discardThen <| (df810TxfirSet_runsHelper _ _ _ _).discardThen <|
      (df810TxfirSet_runsHelper _ _ _ _).discardThen <| (df810TxfirSet_runsHelper _ _ _ _).discardThen <|
      (df810CdrBwSet_runsHelper _ _ _).discardThen (df810CdrBwSet_runsHelper _ _ _).discard
  · exact pure_runsHelpers
  · exact (frontTxfirSet_runsHelpers speed).append df810CrossPoint_runsHelper.discard
  · exact pure_runsHelpers

theorem runScript_helpers (status : List String → String → Nat) (log : List String)
    (helpers : List (List String)) (rest : List Step) :
    runScript status log (helpers.map .helper ++ rest) =
      ((runScript status (log ++ helperRuns status log helpers) rest).1,
        helperRuns status log helpers ++ (runScript status (log ++ helperRuns status log helpers) rest).2) := by
  induction helpers generalizing log with
  | nil => simp [helperRuns]
  | cons cmds others ih => simp [runScript, helperRuns, ih, List.append_assoc]

theorem configSfp_refines (dest speed : Int) (h : Host) :
    configSfp dest speed h =
      (.ok (runScript h.status h.log (configSfpScript dest speed)).1,
        h.extend (runScript h.status h.log (configSfpScript dest speed)).2) := by
  rw [configSfp, bind_apply_ok (setI2cRegister_apply _ _ _ _ h)]
  by_cases enabled : h.status h.log muxEnable = 0
  · simp only [muxEnable] at enabled
    simp only [enabled, beq_self_eq_true, if_true]
    rw [bind_apply_ok (setRegisters_runsChecked _ _ _ _)]
    by_cases written : (checkedRun h.status (h.log ++ [muxEnable])
      (writeCommands tiMuxI2cBus tiMuxI2cAddr (configSfpValues speed))).1 = true
    · simp only [muxEnable] at written
      simp only [written, if_true, Host.extend_status, Host.extend_log, Host.extend_extend]
      rw [bind_apply_ok (configSfpChannels_runsHelpers _ _ _), setI2cRegister_apply]
      simp only [configSfpScript, runScript, checkedRun_single, muxEnable, enabled, decide_True,
        if_true, written, checkedRun_of_ok written, runScript_helpers]
      simp only [muxDisable, Host.extend_status, Host.extend_log, Host.extend_extend, List.append_assoc,
        List.singleton_append]
      split <;> simp_all
    · simp only [muxEnable] at written
      simp [written, configSfpScript, runScript, enabled, muxEnable]
  · simp only [muxEnable] at enabled
    simp [enabled, configSfpScript, runScript, muxEnable]

def Step.cmds : Step → List String
  | .checked cmds => cmds
  | .helper cmds => cmds

theorem checkedRun_issues_leading (status : List String → String → Nat) (log cmds : List String) :
    (checkedRun status log cmds).2 <+: cmds := by
  induction cmds generalizing log with
  | nil => exact List.prefix_refl _
  | cons cmd rest ih =>
    by_cases pass : status log cmd = 0
    · rw [checkedRun_cons_pass pass]
      exact List.cons_prefix_cons.mpr ⟨rfl, ih _⟩
    · rw [checkedRun_cons_fail pass]
      exact List.cons_prefix_cons.mpr ⟨rfl, List.nil_prefix⟩

theorem runScript_sublist (status : List String → String → Nat) (log : List String) (steps : List Step) :
    List.Sublist (runScript status log steps).2 (steps.flatMap Step.cmds) := by
  induction steps generalizing log with
  | nil => exact List.Sublist.slnil
  | cons step rest ih =>
    have first := (checkedRun_issues_leading status log step.cmds).sublist
    cases step with
    | checked cmds =>
      simp only [runScript]
      split
      · exact first.append (ih _)
      · exact first.trans (List.sublist_append_left _ _)
    | helper cmds => exact first.append (ih _)

def IsI2cset (cmd : String) : Prop := ∃ bus device register value, cmd = i2cset bus device register value

theorem writeCommands_isI2cset (bus device : String) (values : List (String × String)) :
    ∀ cmd ∈ writeCommands bus device values, IsI2cset cmd := by
  intro cmd listed
  obtain ⟨⟨register, value⟩, _, rfl⟩ := List.mem_map.mp listed
  exact ⟨_, _, _, _, rfl⟩

theorem crossPointCommands_isI2cset : ∀ cmd ∈ crossPointCommands, IsI2cset cmd := by
  intro cmd listed
  rcases List.mem_cons.mp listed with rfl | channel
  · exact ⟨_, _, _, _, rfl⟩
  · obtain ⟨offset, _, selected⟩ := List.mem_flatMap.mp channel
    rcases List.mem_cons.mp selected with rfl | written
    · exact ⟨_, _, _, _, rfl⟩
    · exact writeCommands_isI2cset _ _ _ cmd written

theorem configSfpScript_isI2cset (dest speed : Int) :
    ∀ cmd ∈ (configSfpScript dest speed).flatMap Step.cmds, IsI2cset cmd := by
  have helpers : ∀ cmds ∈ channelHelpers dest speed,
      (∃ values, cmds = writeCommands tiMuxI2cBus tiMuxI2cAddr values) ∨ cmds = crossPointCommands := by
    simp only [channelHelpers, frontTxfirCommands, txfirCommands, cdrBwCommands]
    split_ifs <;> simp
  intro cmd listed
  simp only [configSfpScript, List.flatMap_cons, List.flatMap_append, List.mem_append, Step.cmds,
    List.flatMap_map, List.mem_flatMap, List.mem_singleton, List.flatMap_nil, List.append_nil] at listed
  rcases listed with rfl | written | ⟨cmds, called, inner⟩ | rfl
  · exact ⟨_, _, _, _, rfl⟩
  · exact writeCommands_isI2cset _ _ _ cmd written
  · rcases helpers cmds called with ⟨values, rfl⟩ | rfl
    · exact writeCommands_isI2cset _ _ _ cmd inner
    · exact crossPointCommands_isI2cset cmd inner
  · exact ⟨_, _, _, _, rfl⟩

theorem configSfp_isI2cset (dest speed : Int) (h : Host) :
    ∃ result issued, configSfp dest speed h = (.ok result, h.extend issued) ∧ ∀ cmd ∈ issued, IsI2cset cmd :=
  ⟨_, _, configSfp_refines dest speed h, fun cmd listed =>
    configSfpScript_isI2cset dest speed cmd ((runScript_sublist _ _ _).subset listed)⟩

def failingOnce (k : Nat) : Host where
  log := []
  status log _ := if log.length = k then 1 else 0
  isFile _ _ := false
  writable _ _ := true
  chmodError _ _ := none

section FailingOnce

variable {k : Nat}

@[simp] theorem failingOnce_log : (failingOnce k).log = [] := rfl

@[simp] theorem failingOnce_status (log : List String) (cmd : String) :
    (failingOnce k).status log cmd = if log.length = k then 1 else 0 := rfl

theorem checkedRun_failingOnce_passes (log cmds : List String)
    (missed : k < log.length ∨ log.length + cmds.length ≤ k) :
    checkedRun (failingOnce k).status log cmds = (true, cmds) := by
  induction cmds generalizing log with
  | nil => rfl
  | cons cmd rest ih =>
    have pass : (failingOnce k).status log cmd = 0 := by
      simp only [failingOnce_status, List.length_cons] at missed ⊢; split <;> omega
    have next : k < (log ++ [cmd]).length ∨ (log ++ [cmd]).length + rest.length ≤ k := by
      simp only [List.length_append, List.length_cons, List.length_singleton, List.length_nil] at missed ⊢
      omega
    rw [checkedRun_cons_pass pass, ih _ next]

theorem helperRuns_failingOnce_passes (log : List String) (helpers : List (List String))
    (past : k < log.length) : helperRuns (failingOnce k).status log helpers = helpers.flatten := by
  induction helpers generalizing log with
  | nil => rfl
  | cons cmds rest ih =>
    rw [helperRuns, checkedRun_failingOnce_passes _ _ (.inl past), ih _ (by simp; omega)]
    rfl

theorem runScript_failingOnce_passes (log : List String) (steps : List Step) (past : k < log.length) :
    runScript (failingOnce k).status log steps = (true, steps.flatMap Step.cmds) := by
  induction steps generalizing log with
  | nil => rfl
  | cons step rest ih =>
    have later := ih (log ++ step.cmds) (by simp; omega)
    cases step <;> simp only [Step.cmds] at later <;>
      simp [runScript, checkedRun_failingOnce_passes _ _ (.inl past), later, Step.cmds]

end FailingOnce

theorem answers_length (status : List String → String → Nat) (log issued : List String) :
    (answers status log issued).length = issued.length := by
  induction issued generalizing log with
  | nil => rfl
  | cons cmd rest ih => simp [answers, ih]

theorem configSfpValues_length (speed : Int) :
    (writeCommands tiMuxI2cBus tiMuxI2cAddr (configSfpValues speed)).length = 8 := by
  simp [writeCommands, configSfpValues]

theorem channelHelpers_nonempty (dest speed : Int) : ∀ cmds ∈ channelHelpers dest speed, cmds ≠ [] := by
  have txfir (offset : Nat) (pre main post : Int) : txfirCommands offset pre main post ≠ [] := by
    simp only [txfirCommands, writeCommands, ne_eq, List.map_eq_nil_iff, df810TxfirSetValues]
    split <;> split <;> simp
  have cdrBw (offset : Nat) (param1 param2 : Int) : cdrBwCommands offset param1 param2 ≠ [] := by
    simp [cdrBwCommands, writeCommands, df810CdrBwSetValues]
  have crossPoint : crossPointCommands ≠ [] := List.cons_ne_nil _ _
  simp only [channelHelpers, frontTxfirCommands]
  split_ifs <;> simp [txfir, cdrBw, crossPoint]

theorem configSfp_continues_after_helper_failure (dest speed : Int)
    (called : channelHelpers dest speed ≠ []) :
    ∃ issued, configSfp dest speed (failingOnce 9) = (.ok true, (failingOnce 9).extend issued) ∧
      (answers (failingOnce 9).status [] issued)[9]? = some 1 ∧ 10 < issued.length := by
  obtain ⟨first, others, split⟩ := List.exists_cons_of_ne_nil called
  obtain ⟨cmd, rest, rfl⟩ := List.exists_cons_of_ne_nil
    (channelHelpers_nonempty dest speed first (split ▸ List.mem_cons_self _ _))
  set values := writeCommands tiMuxI2cBus tiMuxI2cAddr (configSfpValues speed)
  have eight : values.length = 8 := configSfpValues_length speed
  have failed : (failingOnce 9).status ([muxEnable] ++ values) cmd ≠ 0 := by
    simp [eight]
  have enabled : checkedRun (failingOnce 9).status [] [muxEnable] = (true, [muxEnable]) :=
    checkedRun_failingOnce_passes _ _ (.inr (by simp))
  have written : checkedRun (failingOnce 9).status [muxEnable] values = (true, values) :=
    checkedRun_failingOnce_passes _ _ (.inr (by simp [eight]))
  have others_pass : helperRuns (failingOnce 9).status ([muxEnable] ++ values ++ [cmd]) others =
      others.flatten := helperRuns_failingOnce_passes _ _ (by simp [eight])
  have disabled : runScript (failingOnce 9).status ([muxEnable] ++ values ++ [cmd] ++ others.flatten)
      [.checked [muxDisable]] = (true, [muxDisable]) := by
    rw [runScript_failingOnce_passes _ _ (by simp [eight]; omega)]
    rfl
  refine ⟨([muxEnable] ++ values) ++ cmd :: (others.flatten ++ [muxDisable]), ?_, ?_, ?_⟩
  · rw [configSfp_refines, configSfpScript, split, failingOnce_log]
    simp only [runScript, enabled, written, if_true, List.map_cons, checkedRun_cons_fail failed,
      List.nil_append]
    simp only [List.singleton_append, List.cons_append, List.nil_append, List.append_assoc]
      at others_pass disabled
    simp [runScript_helpers, others_pass, disabled]
  · rw [answers_append, List.getElem?_append_right (by simp [answers_length, eight])]
    simp [answers_length, eight, answers]
  · simp [eight]; omega

theorem configSfp_front25g_continues_after_helper_failure :
    channelHelpers front s25G ≠ [] ∧
      ∃ issued, configSfp front s25G (failingOnce 9) = (.ok true, (failingOnce 9).extend issued) ∧
        (answers (failingOnce 9).status [] issued)[9]? = some 1 ∧ 10 < issued.length :=
  have called : channelHelpers front s25G ≠ [] := by simp [channelHelpers, front, cpu]
  ⟨called, configSfp_continues_after_helper_failure front s25G called⟩

end AcctonAs9817.Util
