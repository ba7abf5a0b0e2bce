import AcctonAs9817.Util.RetimerScript
import AcctonAs9817.Util.I2cTree

set_option autoImplicit false

namespace AcctonAs9817.Util

open Python

/-! config_sfp opens the DF810's path through the mux at 0x72 on TI_MUX_I2C_BUS and closes it at
the end; in between it writes only to the retimer at TI_MUX_I2C_ADDR. -/

def WritesRetimer (cmd : String) : Prop := ∃ register value, cmd = i2cset tiMuxI2cBus tiMuxI2cAddr register value

theorem split_i2cset {bus device : String} (busWord : Word bus) (deviceWord : Word device)
    (register value : String) :
    split (i2cset bus device register value) =
      "/usr/sbin/i2cset" :: "-f" :: "-y" :: bus :: device :: split (join " " [register, value]) := by
  rw [i2cset, join_cons_cons, join_cons_cons, join_cons_cons, join_cons_cons, join_cons_cons,
    split_head (show Word "/usr/sbin/i2cset" by decide), split_head (show Word "-f" by decide),
    split_head (show Word "-y" by decide), split_head busWord, split_head deviceWord]

theorem i2cset_device_injective {bus device device' register value register' value' : String} (busWord : Word bus)
    (deviceWord : Word device) (device'Word : Word device')
    (same : i2cset bus device register value = i2cset bus device' register' value') : device = device' := by
  have words := congrArg split same
  rw [split_i2cset busWord deviceWord, split_i2cset busWord device'Word] at words
  simp only [List.cons.injEq] at words
  exact words.2.2.2.2.1

theorem WritesRetimer.ne_muxDisable {cmd : String} (writes : WritesRetimer cmd) : cmd ≠ muxDisable := by
  obtain ⟨register, value, rfl⟩ := writes
  intro same
  exact absurd (i2cset_device_injective (by decide) (by decide) (by decide) same) (by decide)

theorem muxEnable_ne_muxDisable : muxEnable ≠ muxDisable := by decide

theorem writeCommands_writesRetimer (values : List (String × String)) :
    ∀ cmd ∈ writeCommands tiMuxI2cBus tiMuxI2cAddr values, WritesRetimer cmd := by
  intro cmd listed
  obtain ⟨⟨register, value⟩, _, rfl⟩ := List.mem_map.mp listed
  exact ⟨_, _, rfl⟩

theorem crossPointCommands_writesRetimer : ∀ cmd ∈ crossPointCommands, WritesRetimer cmd := by
  intro cmd listed
  rcases List.mem_cons.mp listed with rfl | channel
  · exact ⟨_, _, rfl⟩
  · obtain ⟨offset, _, selected⟩ := List.mem_flatMap.mp channel
    rcases List.mem_cons.mp selected with rfl | written
    · exact ⟨_, _, rfl⟩
    · exact writeCommands_writesRetimer _ cmd written

theorem channelHelpers_writeRetimer (dest speed : Int) :
    ∀ cmd ∈ (channelHelpers dest speed).flatten, WritesRetimer cmd := by
  have helpers : ∀ cmds ∈ channelHelpers dest speed,
      (∃ values, cmds = writeCommands tiMuxI2cBus tiMuxI2cAddr values) ∨ cmds = crossPointCommands := by
    simp only [channelHelpers, frontTxfirCommands, txfirCommands, cdrBwCommands]
    split_ifs <;> simp
  intro cmd listed
  obtain ⟨cmds, called, inner⟩ := List.mem_flatten.mp listed
  rcases helpers cmds called with ⟨values, rfl⟩ | rfl
  · exact writeCommands_writesRetimer values cmd inner
  · exact crossPointCommands_writesRetimer cmd inner

theorem helperRuns_sublist (status : List String → String → Nat) (log : List String) :
    ∀ helpers : List (List String), List.Sublist (helperRuns status log helpers) helpers.flatten
  | [] => List.Sublist.slnil
  | cmds :: rest =>
    (checkedRun_issues_leading status log cmds).sublist.append (helperRuns_sublist status _ rest)

theorem runScript_configSfpScript (status : List String → String → Nat) (log : List String) (dest speed : Int) :
    runScript status log (configSfpScript dest speed) =
      if status log muxEnable = 0 then
        if (checkedRun status (log ++ [muxEnable]) (writeCommands tiMuxI2cBus tiMuxI2cAddr (configSfpValues speed))).1
        then
          (decide (status (log ++ muxEnable :: (writeCommands tiMuxI2cBus tiMuxI2cAddr (configSfpValues speed) ++
              helperRuns status (log ++ muxEnable :: writeCommands tiMuxI2cBus tiMuxI2cAddr (configSfpValues speed))
                (channelHelpers dest speed))) muxDisable = 0),
            muxEnable :: (writeCommands tiMuxI2cBus tiMuxI2cAddr (configSfpValues speed) ++
              helperRuns status (log ++ muxEnable :: writeCommands tiMuxI2cBus tiMuxI2cAddr (configSfpValues speed))
                (channelHelpers dest speed) ++ [muxDisable]))
        else
          (false, muxEnable ::
            (checkedRun status (log ++ [muxEnable]) (writeCommands tiMuxI2cBus tiMuxI2cAddr (configSfpValues speed))).2)
      else (false, [muxEnable]) := by
  by_cases enabled : status log muxEnable = 0
  · by_cases written : (checkedRun status (log ++ [muxEnable])
        (writeCommands tiMuxI2cBus tiMuxI2cAddr (configSfpValues speed))).1 = true
    · simp only [configSfpScript, runScript, checkedRun_single, enabled, decide_True, if_true, written,
        checkedRun_of_ok written, runScript_helpers]
      split <;> simp_all
    · simp [configSfpScript, runScript, enabled, written]
  · simp [configSfpScript, runScript, enabled]

def MuxDisabled (h : Host) (issued : List String) : Prop :=
  ∃ before after, issued = before ++ muxDisable :: after ∧ h.status (h.log ++ before) muxDisable = 0

theorem muxDisable_not_mem {written : List String} (retimer : ∀ cmd ∈ written, WritesRetimer cmd) :
    muxDisable ∉ muxEnable :: written := by
  intro listed
  rcases List.mem_cons.mp listed with twin | inner
  · exact muxEnable_ne_muxDisable twin.symm
  · exact (retimer _ inner).ne_muxDisable rfl

theorem not_muxDisabled {h : Host} {written : List String} (retimer : ∀ cmd ∈ written, WritesRetimer cmd) :
    ¬ MuxDisabled h (muxEnable :: written) := by
  rintro ⟨before, after, same, -⟩
  exact muxDisable_not_mem retimer (same ▸ List.mem_append_right _ (List.mem_cons_self _ _))

theorem eq_of_append_cons_eq_append_singleton {a : String} {before after written : List String}
    (fresh : a ∉ written) (same : before ++ a :: after = written ++ [a]) : before = written ∧ after = [] := by
  rcases List.eq_nil_or_concat after with rfl | ⟨after', last, rfl⟩
  · exact ⟨(List.append_inj' same rfl).1, rfl⟩
  · rw [List.concat_eq_append, ← List.cons_append, ← List.append_assoc] at same
    obtain ⟨rfl, -⟩ := List.append_inj' same rfl
    exact absurd (by simp) fresh

theorem configSfp_true_iff_mux_disabled (dest speed : Int) (h : Host) :
    ∃ result issued, configSfp dest speed h = (.ok result, h.extend issued) ∧ issued.head? = some muxEnable ∧
      (result = true ↔ MuxDisabled h issued) := by
  refine ⟨_, _, configSfp_refines dest speed h, ?_, ?_⟩
  · rw [runScript_configSfpScript]
    split_ifs <;> rfl
  have configured := writeCommands_writesRetimer (configSfpValues speed)
  rw [runScript_configSfpScript]
  split_ifs with enabled written
  · -- The run reached the mux's disable: the result is its answer.
    set helped := helperRuns h.status (h.log ++ muxEnable :: writeCommands tiMuxI2cBus tiMuxI2cAddr
      (configSfpValues speed)) (channelHelpers dest speed)
    have fresh : muxDisable ∉ muxEnable :: (writeCommands tiMuxI2cBus tiMuxI2cAddr (configSfpValues speed) ++ helped) :=
      muxDisable_not_mem fun cmd listed => (List.mem_append.mp listed).elim (configured cmd)
        fun helper => channelHelpers_writeRetimer dest speed _ ((helperRuns_sublist _ _ _).subset helper)
    have shape : muxEnable :: (writeCommands tiMuxI2cBus tiMuxI2cAddr (configSfpValues speed) ++ helped ++
        [muxDisable]) = muxEnable :: (writeCommands tiMuxI2cBus tiMuxI2cAddr (configSfpValues speed) ++ helped) ++
        [muxDisable] := by simp
    rw [shape]
    constructor
    · intro answered
      exact ⟨_, [], rfl, of_decide_eq_true answered⟩
    · rintro ⟨before, after, same, answered⟩
      obtain ⟨rfl, rfl⟩ := eq_of_append_cons_eq_append_singleton fresh same.symm
      exact decide_eq_true answered
  · exact iff_of_false not_false (not_muxDisabled fun cmd listed =>
      configured cmd ((checkedRun_issues_leading _ _ _).subset listed))
  · exact iff_of_false not_false (not_muxDisabled (by simp))

end AcctonAs9817.Util
