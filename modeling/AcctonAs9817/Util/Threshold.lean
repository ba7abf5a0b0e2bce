import AcctonAs9817.Util.Host

set_option autoImplicit false

namespace AcctonAs9817.Util

open AcctonAs9817.Python

def initChassisCode : String :=
  "import sonic_platform.platform\n" ++
  "platform = sonic_platform.platform.Platform()\n" ++
  "chassis = platform.get_chassis()\n\n"

def lookingForThermalCode : String :=
  "thermal = None\n" ++
  "all_thermals = chassis.get_all_thermals()\n" ++
  "for psu in chassis.get_all_psus():\n" ++
  "    all_thermals += psu.get_all_thermals()\n" ++
  "for tmp in all_thermals:\n" ++
  "    if '{}' == tmp.get_name():\n" ++
  "        thermal = tmp\n" ++
  "        break\n" ++
  "if thermal == None:\n" ++
  "    print('{} not found!')\n" ++
  "    exit(1)\n\n"

def getAllThermalNameCode : String :=
  "thermal_list = []\n" ++
  "all_thermals = chassis.get_all_thermals()\n" ++
  "for psu in chassis.get_all_psus():\n" ++
  "    all_thermals += psu.get_all_thermals()\n" ++
  "for tmp in all_thermals:\n" ++
  "    thermal_list.append(tmp.get_name())\n" ++
  "print(str(thermal_list)[1:-1])\n"

def getHighThresholdCode : String :=
  "try:\n" ++
  "    print(thermal.get_high_threshold())\n" ++
  "    exit(0)\n" ++
  "except NotImplementedError:\n" ++
  "    print('Not implement the get_high_threshold method!')\n" ++
  "    exit(1)"

def getHighCritThresholdCode : String :=
  "try:\n" ++
  "    print(thermal.get_high_critical_threshold())\n" ++
  "    exit(0)\n" ++
  "except NotImplementedError:\n" ++
  "    print('Not implement the get_high_critical_threshold method!')\n" ++
  "    exit(1)"

def setHighThresholdCode : String :=
  "try:\n" ++
  "    if thermal.set_high_threshold({}) is False:\n" ++
  "        print('{}: set_high_threshold failure!')\n" ++
  "        exit(1)\n" ++
  "except NotImplementedError:\n" ++
  "    print('Not implement the set_high_threshold method!')\n" ++
  "print('Apply the new high threshold successfully.')\n" ++
  "\n"

def setHighCritThresholdCode : String :=
  "try:\n" ++
  "    if thermal.set_high_critical_threshold({}) is False:\n" ++
  "        print('{}: set_high_critical_threshold failure!')\n" ++
  "        exit(1)\n" ++
  "except NotImplementedError:\n" ++
  "    print('Not implement the set_high_critical_threshold method!')\n" ++
  "print('Apply the new high critical threshold successfully.')\n" ++
  "\n"

def invalidHighThreshold : String :=
  "Invalid Threshold!(High threshold can not be more than " ++
  "or equal to high critical threshold.)"

def invalidHighCritThreshold : String :=
  "Invalid Threshold!(High critical threshold can not " ++
  "be less than or equal to high threshold.)"

/-- The program get_high_threshold, get_high_crit_threshold and do_threshold send to pmon:
"{}{}{}".format(init_chassis_code, looking_for_thermal_code.format(name, name), code). -/
def allCode (name code : String) : Except PyExc String := do
  format "{}{}{}" [initChassisCode, ← format lookingForThermalCode [name, name], code]

/-- How the utility reads and prints Python floats: float(text), none where it raises ValueError,
and "{}".format(value). -/
structure FloatText (F : Type) where
  float : String → Option F
  str : F → String

def thresholdRangeLow {F : Type} [OfScientific F] : F := 30.0

def thresholdRangeHigh {F : Type} [OfScientific F] : F := 110.0

inductive ArgumentTypeError
  | notFloatingPointLiteral
  | notInRange
  deriving DecidableEq, Repr

def restrictedFloat {F : Type} [LT F] [DecidableRel (α := F) (· < ·)] [OfScientific F] (floats : FloatText F)
    (x : String) : Except ArgumentTypeError F :=
  match floats.float x with
  | none => .error .notFloatingPointLiteral
  | some x => if x < thresholdRangeLow ∨ x > thresholdRangeHigh then .error .notInRange else .ok x

structure ThresholdArgs (F : Type) where
  list : Bool
  thermal : Option String
  highThreshold : Option F
  highCritThreshold : Option F

inductive ThresholdRun
  | printed (text : String)
  | nothingToSet
  | sent (allCode output : String)
  deriving DecidableEq, Repr

/-- What do_threshold sees of the pmon container: the programs sent to it so far, and its answers (exit
status and output), which may depend on everything sent before. -/
structure Pmon where
  sent : List String
  answer : List String → String → Nat × String

def Pmon.send (p : Pmon) (code : String) : Pmon := { p with sent := p.sent ++ [code] }

@[simp] theorem Pmon.send_sent (p : Pmon) (code : String) : (p.send code).sent = p.sent ++ [code] := rfl
@[simp] theorem Pmon.send_answer (p : Pmon) (code : String) : (p.send code).answer = p.answer := rfl

abbrev PmonM := Run Pmon

def pmonExec (code : String) : PmonM (Nat × String) := fun p => (.ok (p.answer p.sent code), p.send code)

@[simp] theorem pmonExec_apply (code : String) (p : Pmon) :
    pmonExec code p = (.ok (p.answer p.sent code), p.send code) := rfl

section Pmon

variable {F : Type} (floats : FloatText F)

def avaliableThermals : PmonM String := do
  let allCode ← liftExcept (format "{}{}" [initChassisCode, getAllThermalNameCode])
  let (status, output) ← pmonExec allCode
  pure (if status != 0 then "" else output)

def readThreshold (status : Nat) (output : String) : Except PyExc (Option F) :=
  if status == 1 then pure none
  else match floats.float output with
    | some value => pure (some value)
    | none => throw .valueError

def getThreshold (code name : String) : PmonM (Option F) := do
  let (status, output) ← pmonExec (← liftExcept (allCode name code))
  liftExcept (readThreshold floats status output)

def getHighThreshold (name : String) : PmonM (Option F) := getThreshold floats getHighThresholdCode name

def getHighCritThreshold (name : String) : PmonM (Option F) := getThreshold floats getHighCritThresholdCode name

variable [LE F] [DecidableRel (α := F) (· ≤ ·)] (thermal : String) (args : ThresholdArgs F)

def highThresholdSection : PmonM String :=
  match args.highThreshold with
  | none => pure ""
  | some high =>
    if args.highCritThreshold.any (fun crit => decide (high ≥ crit)) then
      raise (.systemExit invalidHighThreshold)
    else do
      let highCrit ← getHighCritThreshold floats thermal
      if highCrit.any (fun crit => decide (high ≥ crit)) then
        raise (.systemExit invalidHighThreshold)
      else
        liftExcept (format setHighThresholdCode [floats.str high, thermal])

def highCritThresholdSection : PmonM String :=
  match args.highCritThreshold with
  | none => pure ""
  | some crit => do
    let high ← getHighThreshold floats thermal
    if high.any (fun high => decide (crit ≤ high)) then
      raise (.systemExit invalidHighCritThreshold)
    else
      liftExcept (format setHighCritThresholdCode [floats.str crit, thermal])

def doThreshold : PmonM ThresholdRun :=
  if args.list then do
    pure (.printed ("Thermals: " ++ (← avaliableThermals)))
  else match args.thermal with
  | none => pure (.printed "The following arguments are required: -t")
  | some thermal => do
    let setThresholdCode := "" ++ (← highThresholdSection floats thermal args) ++
      (← highCritThresholdSection floats thermal args)
    if setThresholdCode == "" then pure .nothingToSet
    else do
      let allCode ← liftExcept (allCode thermal setThresholdCode)
      let (_, output) ← pmonExec allCode
      pure (.sent allCode output)

section Sections

variable {thermal code : String} {args : ThresholdArgs F} {p p' : Pmon}

theorem highThresholdSection_ok (ok : highThresholdSection floats thermal args p = (.ok code, p')) :
    (∀ high ∈ args.highThreshold, (∀ crit ∈ args.highCritThreshold, ¬ crit ≤ high) ∧
      (getHighCritThreshold floats thermal p).2 = p' ∧
      (∀ crit, (getHighCritThreshold floats thermal p).1 = .ok (some crit) → ¬ crit ≤ high) ∧
      format setHighThresholdCode [floats.str high, thermal] = .ok code) ∧
    (args.highThreshold = none → code = "" ∧ p' = p) := by
  unfold highThresholdSection at ok
  generalize getHighCritThreshold floats thermal = query at ok ⊢
  cases given : args.highThreshold with
  | none =>
    simp only [given, pure_apply, Prod.mk.injEq, Except.ok.injEq] at ok
    exact ⟨fun _ mem => (nomatch mem), fun _ => ⟨ok.1.symm, ok.2.symm⟩⟩
  | some high =>
  refine ⟨fun high' mem => ?_, fun unset => (nomatch unset)⟩
  obtain rfl : high = high' := Option.some.inj (Option.mem_def.mp mem)
  simp only [given] at ok
  by_cases checked : args.highCritThreshold.any (fun crit => decide (high ≥ crit)) = true
  · simp only [if_pos checked, raise_apply] at ok
    cases ok
  simp only [if_neg checked, bind_apply] at ok
  cases fetched : query p with
  | mk result p₁ =>
  cases result with
  | error e => simp only [fetched] at ok; cases ok
  | ok highCrit =>
  by_cases current : highCrit.any (fun crit => decide (high ≥ crit)) = true
  · simp only [fetched, if_pos current, raise_apply] at ok
    cases ok
  simp only [fetched, if_neg current, liftExcept_apply] at ok
  obtain ⟨formatted, rfl⟩ := Prod.mk.inj ok
  refine ⟨fun crit mem' => ?_, rfl, fun crit reported => ?_, formatted⟩
  · simpa [Option.mem_def.mp mem'] using checked
  · obtain rfl : highCrit = some crit := Except.ok.inj reported
    simpa using current

theorem highCritThresholdSection_ok (ok : highCritThresholdSection floats thermal args p = (.ok code, p')) :
    (∀ crit ∈ args.highCritThreshold, (getHighThreshold floats thermal p).2 = p' ∧
      (∀ high, (getHighThreshold floats thermal p).1 = .ok (some high) → ¬ crit ≤ high) ∧
      format setHighCritThresholdCode [floats.str crit, thermal] = .ok code) ∧
    (args.highCritThreshold = none → code = "" ∧ p' = p) := by
  unfold highCritThresholdSection at ok
  generalize getHighThreshold floats thermal = query at ok ⊢
  cases given : args.highCritThreshold with
  | none =>
    simp only [given, pure_apply, Prod.mk.injEq, Except.ok.injEq] at ok
    exact ⟨fun _ mem => (nomatch mem), fun _ => ⟨ok.1.symm, ok.2.symm⟩⟩
  | some crit =>
  refine ⟨fun crit' mem => ?_, fun unset => (nomatch unset)⟩
  obtain rfl : crit = crit' := Option.some.inj (Option.mem_def.mp mem)
  simp only [given, bind_apply] at ok
  cases fetched : query p with
  | mk result p₁ =>
  cases result with
  | error e => simp only [fetched] at ok; cases ok
  | ok high =>
  by_cases current : high.any (fun high => decide (crit ≤ high)) = true
  · simp only [fetched, if_pos current, raise_apply] at ok
    cases ok
  simp only [fetched, if_neg current, liftExcept_apply] at ok
  obtain ⟨formatted, rfl⟩ := Prod.mk.inj ok
  refine ⟨rfl, fun high' reported => ?_, formatted⟩
  obtain rfl : high = some high' := Except.ok.inj reported
  simpa using current

end Sections

theorem doThreshold_sent {args : ThresholdArgs F} {p p' : Pmon} {program output : String}
    (sent : doThreshold floats args p = (.ok (.sent program output), p')) :
    ∃ thermal, args.thermal = some thermal ∧ ∃ high crit p₁ p₂,
      highThresholdSection floats thermal args p = (.ok high, p₁) ∧
      highCritThresholdSection floats thermal args p₁ = (.ok crit, p₂) ∧
      "" ++ high ++ crit ≠ "" ∧ allCode thermal ("" ++ high ++ crit) = .ok program ∧
      output = (p₂.answer p₂.sent program).2 ∧ p' = p₂.send program := by
  unfold doThreshold at sent
  generalize avaliableThermals = listing at sent
  generalize highThresholdSection floats = highSection at sent ⊢
  generalize highCritThresholdSection floats = critSection at sent ⊢
  generalize allCode = build at sent ⊢
  cases listed : args.list
  case true =>
    simp only [listed, if_true, bind_apply] at sent
    cases thermals : listing p with
    | mk result p₁ => cases result <;> simp only [thermals, pure_apply] at sent <;> cases sent
  case false =>
  simp only [listed, Bool.false_eq_true, if_false] at sent
  cases named : args.thermal
  case none => simp only [named, pure_apply] at sent; cases sent
  case some thermal =>
  refine ⟨thermal, rfl, ?_⟩
  simp only [named, bind_apply] at sent
  cases highRun : highSection thermal args p with
  | mk highResult p₁ =>
  cases highResult with
  | error e => simp only [highRun] at sent; cases sent
  | ok high =>
  cases critRun : critSection thermal args p₁ with
  | mk critResult p₂ =>
  cases critResult with
  | error e => simp only [highRun, critRun] at sent; cases sent
  | ok crit =>
  by_cases empty : ("" ++ high ++ crit == "") = true
  · simp only [highRun, critRun, if_pos empty, pure_apply] at sent
    cases sent
  cases built : build thermal ("" ++ high ++ crit) with
  | error e => simp only [highRun, critRun, if_neg empty, bind_apply, liftExcept_apply, built] at sent; cases sent
  | ok code =>
  simp only [highRun, critRun, if_neg empty, bind_apply, liftExcept_apply, built, pmonExec_apply, pure_apply] at sent
  cases sent
  exact ⟨high, crit, p₁, p₂, rfl, critRun, by simpa using empty, built, rfl, rfl⟩

end Pmon

inductive SetCommand (F : Type)
  | setHighThreshold (value : F)
  | setHighCriticalThreshold (value : F)
  deriving DecidableEq, Repr

/-- What one set call of the generated program meets on the thermal. -/
inductive SetOutcome
  -- returns True or None: the value is set and the program goes on
  | applied
  -- returns False: the program prints the failure and calls exit(1); any other exception ends
  -- the program the same way
  | refused
  -- raises NotImplementedError: the program prints it and goes on
  | notImplemented
  deriving DecidableEq, Repr

section Plan

variable {F : Type}

def thresholdPlan (args : ThresholdArgs F) : List (SetCommand F) :=
  args.highThreshold.toList.map .setHighThreshold ++
    args.highCritThreshold.toList.map .setHighCriticalThreshold

@[simp] theorem setHighThreshold_mem_thresholdPlan {args : ThresholdArgs F} {value : F} :
    .setHighThreshold value ∈ thresholdPlan args ↔ args.highThreshold = some value := by
  cases args with
  | mk _ _ high _ => cases high <;> simp [thresholdPlan, eq_comm]

@[simp] theorem setHighCriticalThreshold_mem_thresholdPlan {args : ThresholdArgs F} {value : F} :
    .setHighCriticalThreshold value ∈ thresholdPlan args ↔ args.highCritThreshold = some value := by
  cases args with
  | mk _ _ _ crit => cases crit <;> simp [thresholdPlan, eq_comm]

def SetCommand.apply : SetCommand F → Option F × Option F → Option F × Option F
  | .setHighThreshold value, (_, crit) => (some value, crit)
  | .setHighCriticalThreshold value, (high, _) => (high, some value)

def runPlan (outcome : Option F × Option F → SetCommand F → SetOutcome) :
    Option F × Option F → List (SetCommand F) → List (Option F × Option F)
  | _, [] => []
  | pair, cmd :: cmds =>
    match outcome pair cmd with
    | .applied => cmd.apply pair :: runPlan outcome (cmd.apply pair) cmds
    | .refused => []
    | .notImplemented => runPlan outcome pair cmds

def Built (start : Option F × Option F) (cmds : List (SetCommand F)) (pair : Option F × Option F) :
    Prop :=
  (pair.1 = start.1 ∨ ∃ value, .setHighThreshold value ∈ cmds ∧ pair.1 = some value) ∧
    (pair.2 = start.2 ∨ ∃ value, .setHighCriticalThreshold value ∈ cmds ∧ pair.2 = some value)

theorem Built.start (start : Option F × Option F) (cmds : List (SetCommand F)) : Built start cmds start :=
  ⟨.inl rfl, .inl rfl⟩

theorem Built.cons {start pair : Option F × Option F} {cmds : List (SetCommand F)} (cmd : SetCommand F)
    (built : Built start cmds pair) : Built start (cmd :: cmds) pair := by
  obtain ⟨fromHigh, fromCrit⟩ := built
  exact ⟨fromHigh.imp_right fun ⟨v, mem, eq⟩ => ⟨v, .tail _ mem, eq⟩,
    fromCrit.imp_right fun ⟨v, mem, eq⟩ => ⟨v, .tail _ mem, eq⟩⟩

theorem Built.of_apply {start pair : Option F × Option F} {cmd : SetCommand F} {cmds : List (SetCommand F)}
    (built : Built (cmd.apply start) cmds pair) : Built start (cmd :: cmds) pair := by
  obtain ⟨fromHigh, fromCrit⟩ := built.cons cmd
  obtain ⟨high, crit⟩ := start
  cases cmd with
  | setHighThreshold value =>
    exact ⟨fromHigh.elim (fun eq => .inr ⟨value, .head _, eq⟩) .inr, fromCrit⟩
  | setHighCriticalThreshold value =>
    exact ⟨fromHigh, fromCrit.elim (fun eq => .inr ⟨value, .head _, eq⟩) .inr⟩

theorem runPlan_mem (outcome : Option F × Option F → SetCommand F → SetOutcome) {pair : Option F × Option F} :
    ∀ {start : Option F × Option F} {cmds : List (SetCommand F)}, pair ∈ runPlan outcome start cmds →
      ∃ cmd ∈ cmds, ∃ pre, Built start cmds pre ∧ pair = cmd.apply pre
  | _, [], mem => by cases mem
  | start, cmd :: cmds, mem => by
    unfold runPlan at mem
    split at mem
    next =>
      rcases List.mem_cons.mp mem with rfl | later
      · exact ⟨cmd, .head _, start, Built.start start _, rfl⟩
      · obtain ⟨c, planned, pre, built, rfl⟩ := runPlan_mem outcome later
        exact ⟨c, .tail _ planned, pre, built.of_apply, rfl⟩
    next => cases mem
    next =>
      obtain ⟨c, planned, pre, built, rfl⟩ := runPlan_mem outcome mem
      exact ⟨c, .tail _ planned, pre, built.cons cmd, rfl⟩

/-- Both thresholds known with high below critical, or one of them unknown: the pairs do_threshold's
checks are there to keep. -/
def Ordered [LT F] : Option F × Option F → Prop
  | (some high, some crit) => high < crit
  | _ => True

instance [LT F] [DecidableRel (α := F) (· < ·)] : DecidablePred (Ordered (F := F))
  | (some high, some crit) => inferInstanceAs (Decidable (high < crit))
  | (none, _) => isTrue trivial
  | (some _, none) => isTrue trivial

theorem runPlan_thresholdPlan_ordered [LT F] {args : ThresholdArgs F} {high crit : Option F}
    (requested : ∀ h ∈ args.highThreshold, ∀ c ∈ args.highCritThreshold, h < c)
    (belowReported : ∀ h ∈ args.highThreshold, ∀ c ∈ crit, h < c)
    (aboveReported : ∀ c ∈ args.highCritThreshold, ∀ h ∈ high, h < c)
    (outcome : Option F × Option F → SetCommand F → SetOutcome) :
    ∀ pair ∈ runPlan outcome (high, crit) (thresholdPlan args), Ordered pair := by
  intro pair ran
  obtain ⟨cmd, planned, ⟨high₀, crit₀⟩, ⟨fromHigh, fromCrit⟩, rfl⟩ := runPlan_mem outcome ran
  cases cmd with
  | setHighThreshold h =>
    have given : h ∈ args.highThreshold := setHighThreshold_mem_thresholdPlan.mp planned
    rcases fromCrit with reported | ⟨c, requestedCrit, rfl⟩
    · cases crit₀ with
      | none => trivial
      | some c => exact belowReported h given c reported.symm
    · exact requested h given c (setHighCriticalThreshold_mem_thresholdPlan.mp requestedCrit)
  | setHighCriticalThreshold c =>
    have given : c ∈ args.highCritThreshold := setHighCriticalThreshold_mem_thresholdPlan.mp planned
    rcases fromHigh with reported | ⟨h, requestedHigh, rfl⟩
    · cases high₀ with
      | none => trivial
      | some h => exact aboveReported c given h reported.symm
    · exact requested h (setHighThreshold_mem_thresholdPlan.mp requestedHigh) c given

end Plan

section Inverted

variable {F : Type} (floats : FloatText F) [LE F] [DecidableRel (α := F) (· ≤ ·)]

end Inverted

def wholeDegrees : FloatText Nat where
  float text :=
    if text.data ≠ [] ∧ text.data.all Char.isDigit then
      some (text.data.foldl (fun n c => 10 * n + (c.toNat - '0'.toNat)) 0)
    else none
  str := toString

def coolerArgs : ThresholdArgs Nat := ⟨false, some "Temp sensor 1", some 85, some 100⟩

def coolerPmon : Pmon := ⟨[], fun _ _ => (0, "90")⟩

set_option maxRecDepth 4000 in
theorem coolerArgs_sent :
    ∃ program p', doThreshold wholeDegrees coolerArgs coolerPmon = (.ok (.sent program "90"), p') :=
  ⟨_, _, rfl⟩

end AcctonAs9817.Util
