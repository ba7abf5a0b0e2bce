import Mathlib.Data.Int.Bitwise
import AcctonAs9817.Util.Host

set_option autoImplicit false

namespace AcctonAs9817.Util

open Python

def cpu : Int := 0
def front : Int := 1
def s10G : Int := 2
def s25G : Int := 3
def tiMuxI2cBus : String := "42"
def tiMuxI2cAddr : String := "0x1b"

/-- format(v, "02x"): lower-case hex digits, zero-padded to two characters after any sign. -/
def padZeros (width : Nat) (digits : List Char) : List Char :=
  List.replicate (width - digits.length) '0' ++ digits

def format02x (v : Int) : String :=
  if v < 0 then ⟨'-' :: padZeros 1 (Nat.toDigits 16 v.natAbs)⟩
  else ⟨padZeros 2 (Nat.toDigits 16 v.toNat)⟩

def hexByte (v : Int) : String := "0x" ++ format02x v

def i2cset (bus device register value : String) : String :=
  join " " ["/usr/sbin/i2cset", "-f", "-y", bus, device, register, value]

def setI2cRegister (bus device register value : String) : HostM Bool := do
  let status ← logOsSystem (i2cset bus device register value)
  pure (status == 0)

def setRegisters (bus device : String) : List (String × String) → HostM Bool
  | [] => pure true
  | (register, value) :: rest => do
    if ← setI2cRegister bus device register value then setRegisters bus device rest else pure false

def df810TxfirSetValues (offset : Nat) (pre main post : Int) : List (String × String) :=
  let channelVal := hexByte (1 <<< offset : Nat)
  let mainSign : Int := if main > 0 then 0x80 else 0x40
  let (preSign, preVal) : Int × Int := if pre ≤ 0 then (0x40, -pre) else (0x00, pre)
  let (postSign, postVal) : Int × Int := if post ≤ 0 then (0x40, -post) else (0x00, post)
  [("0xff", "0x01"), ("0xfc", channelVal), ("0x3d", "0x80"), ("0x3d", "0x80"), ("0x3f", "0x40"),
    ("0x3e", "0x40"), ("0x3d", hexByte (Int.lor main mainSign)),
    ("0x3f", hexByte (Int.lor postVal postSign)), ("0x3e", hexByte (Int.lor preVal preSign))]

/-- The shared body of df810_txfir_set and df810_cdr_bw_set: write the list to the retimer.
Both fall off their end on success, so Python sees None there and False on a failure. -/
def df810Write (registerValues : List (String × String)) : HostM (Option Bool) := do
  if ← setRegisters tiMuxI2cBus tiMuxI2cAddr registerValues then pure none else pure (some false)

def df810TxfirSet (offset : Nat) (pre main post : Int) : HostM (Option Bool) :=
  df810Write (df810TxfirSetValues offset pre main post)

def df810CdrBwSetValues (offset : Nat) (param1 param2 : Int) : List (String × String) :=
  [("0xff", "0x01"), ("0xfc", hexByte (1 <<< offset : Nat)), ("0x1c", hexByte param1),
    ("0x9e", hexByte param2), ("0x9", "0x8"), ("0xa", "0x40")]

def df810CdrBwSet (offset : Nat) (param1 param2 : Int) : HostM (Option Bool) :=
  df810Write (df810CdrBwSetValues offset param1 param2)

def crossPointValues : List (String × String) :=
  [("0x95", "0x08"), ("0x96", "0x00"), ("0x96", "0x04"), ("0x96", "0x04"), ("0x96", "0x06"),
    ("0x96", "0x06"), ("0x0a", "0x0c"), ("0x0a", "0x00"), ("0x79", "0x11")]

def crossPointChannels : List Nat → HostM Bool
  | [] => pure true
  | offset :: rest => do
    if ← setI2cRegister tiMuxI2cBus tiMuxI2cAddr "0xfc" (hexByte (1 <<< offset : Nat)) then
      if ← setRegisters tiMuxI2cBus tiMuxI2cAddr crossPointValues then crossPointChannels rest
      else pure false
    else pure false

def df810CrossPoint : HostM (Option Bool) := do
  if ← setI2cRegister tiMuxI2cBus tiMuxI2cAddr "0xff" "0x01" then
    if ← crossPointChannels (List.range 8) then pure none else pure (some false)
  else pure (some false)

def configSfpValues (speed : Int) : List (String × String) :=
  [("0xfc", "0x01"), ("0xff", "0x03"), ("0x00", "0x04"), ("0x0a", "0x0c"),
    if speed == s10G then ("0x2f", "0x04") else ("0x2f", "0x54"),
    ("0x31", "0x40"), ("0x1e", "0xe3"), ("0x0a", "0x00")]

-- The helpers' results are dropped, as in the source.
def frontTxfirSet (speed : Int) : HostM Unit := do
  if speed == s10G then
    let _ ← df810TxfirSet 1 0 15 (-3)
    let _ ← df810TxfirSet 3 0 15 (-3)
  else if speed == s25G then
    let _ ← df810TxfirSet 1 (-8) 22 0
    let _ ← df810TxfirSet 3 (-8) 22 0

def configSfpChannels (dest speed : Int) : HostM Unit := do
  if dest == cpu then
    if speed == s10G then
      let _ ← df810TxfirSet 0 0 17 (-2)
      let _ ← df810TxfirSet 2 0 17 (-2)
      let _ ← df810TxfirSet 4 0 7 0
      let _ ← df810TxfirSet 6 0 7 0
      let _ ← df810CdrBwSet 4 0x24 0xfc
      let _ ← df810CdrBwSet 6 0x24 0xfc
  else if dest == front then
    frontTxfirSet speed
    let _ ← df810CrossPoint

def configSfp (dest speed : Int) : HostM Bool := do
  if ← setI2cRegister tiMuxI2cBus "0x72" "0x00" "0x01" then
    if ← setRegisters tiMuxI2cBus tiMuxI2cAddr (configSfpValues speed) then
      configSfpChannels dest speed
      setI2cRegister tiMuxI2cBus "0x72" "0x00" "0x00"
    else pure false
  else pure false

structure SfpArgs where
  cpu : Bool
  front10 : Bool
  front25 : Bool

def doSfp (args : SfpArgs) : HostM Unit := do
  if args.cpu then
    let _ ← configSfp cpu s10G
  else if args.front10 then
    let _ ← configSfp front s10G
  else if args.front25 then
    let _ ← configSfp front s25G

def checkedRun (status : List String → String → Nat) (log : List String) :
    List String → Bool × List String
  | [] => (true, [])
  | cmd :: rest =>
    if status log cmd = 0 then
      let next := checkedRun status (log ++ [cmd]) rest
      (next.1, cmd :: next.2)
    else (false, [cmd])

def writeCommands (bus device : String) (registerValues : List (String × String)) : List String :=
  registerValues.map fun (register, value) => i2cset bus device register value

@[simp] theorem setI2cRegister_apply (bus device register value : String) (h : Host) :
    setI2cRegister bus device register value h =
      (.ok (h.status h.log (i2cset bus device register value) == 0),
        h.extend [i2cset bus device register value]) := rfl

section Checked

variable {status : List String → String → Nat} {log : List String} {cmd : String} {rest : List String}

theorem checkedRun_cons_pass (pass : status log cmd = 0) :
    checkedRun status log (cmd :: rest) =
      ((checkedRun status (log ++ [cmd]) rest).1, cmd :: (checkedRun status (log ++ [cmd]) rest).2) := by
  simp [checkedRun, pass]

theorem checkedRun_cons_fail (fail : status log cmd ≠ 0) :
    checkedRun status log (cmd :: rest) = (false, [cmd]) := by
  simp [checkedRun, fail]

@[simp] theorem checkedRun_single :
    checkedRun status log [cmd] = (decide (status log cmd = 0), [cmd]) := by
  by_cases pass : status log cmd = 0 <;> simp [checkedRun, pass]

theorem checkedRun_of_ok {cmds : List String} (ok : (checkedRun status log cmds).1 = true) :
    (checkedRun status log cmds).2 = cmds := by
  induction cmds generalizing log with
  | nil => rfl
  | cons cmd rest ih =>
    by_cases pass : status log cmd = 0
    · rw [checkedRun_cons_pass pass] at ok ⊢
      rw [ih ok]
    · simp [checkedRun_cons_fail pass] at ok

theorem checkedRun_append (first second : List String) :
    checkedRun status log (first ++ second) =
      if (checkedRun status log first).1 then
        ((checkedRun status (log ++ first) second).1,
          first ++ (checkedRun status (log ++ first) second).2)
      else checkedRun status log first := by
  induction first generalizing log with
  | nil => simp [checkedRun]
  | cons cmd rest ih =>
    by_cases pass : status log cmd = 0
    · rw [List.cons_append, checkedRun_cons_pass pass, checkedRun_cons_pass pass, ih]
      simp only [List.append_assoc, List.singleton_append]
      split <;> rfl
    · simp [checkedRun_cons_fail pass]

end Checked

def RunsChecked (m : HostM Bool) (cmds : List String) : Prop :=
  ∀ h : Host, m h = (.ok (checkedRun h.status h.log cmds).1, h.extend (checkedRun h.status h.log cmds).2)

theorem pure_true_runsChecked : RunsChecked (pure true) [] := by
  intro h; simp [checkedRun]

theorem setI2cRegister_runsChecked (bus device register value : String) :
    RunsChecked (setI2cRegister bus device register value) [i2cset bus device register value] := by
  intro h
  by_cases pass : h.status h.log (i2cset bus device register value) = 0 <;> simp [checkedRun, pass]

theorem RunsChecked.andThen {m k : HostM Bool} {first second : List String}
    (hm : RunsChecked m first) (hk : RunsChecked k second) :
    RunsChecked (do if ← m then k else pure false) (first ++ second) := by
  intro h
  rw [bind_apply, hm h, checkedRun_append]
  by_cases ok : (checkedRun h.status h.log first).1 = true
  · simp only [ok, if_true, checkedRun_of_ok ok]
    rw [hk]
    simp
  · simp [ok]

theorem setRegisters_runsChecked (bus device : String) (registerValues : List (String × String)) :
    RunsChecked (setRegisters bus device registerValues) (writeCommands bus device registerValues) := by
  induction registerValues with
  | nil => exact pure_true_runsChecked
  | cons head rest ih =>
    exact (setI2cRegister_runsChecked bus device head.1 head.2).andThen ih

def channelSelect (offset : Nat) : String :=
  i2cset tiMuxI2cBus tiMuxI2cAddr "0xfc" (hexByte (1 <<< offset : Nat))

def channelCommands (offset : Nat) : List String :=
  channelSelect offset :: writeCommands tiMuxI2cBus tiMuxI2cAddr crossPointValues

theorem crossPointChannels_runsChecked (offsets : List Nat) :
    RunsChecked (crossPointChannels offsets) (offsets.flatMap channelCommands) := by
  induction offsets with
  | nil => exact pure_true_runsChecked
  | cons offset rest ih =>
    exact (setI2cRegister_runsChecked _ _ _ _).andThen ((setRegisters_runsChecked _ _ _).andThen ih)

end AcctonAs9817.Util
