import AcctonAs9817.SonicPlatform.SfpControl

set_option autoImplicit false

namespace AcctonAs9817.SonicPlatform

open Python

/-- The SfpBase constants the error descriptions read. SfpBase belongs to sonic_platform_base,
which is not part of this repository, so they are a parameter of the functions below. -/
structure SfpBaseCodes where
  statusOk : String
  statusUnplugged : String
  statusBitInserted : Nat
  errorBitBadEeprom : Nat
  errorBitHighTemp : Nat
  errorBitToDescriptionDict : List (Nat × String)

def sonicSfpBase : SfpBaseCodes where
  statusOk := "OK"
  statusUnplugged := "Unplugged"
  statusBitInserted := 0x00000001
  errorBitBadEeprom := 0x00000010
  errorBitHighTemp := 0x00000040
  errorBitToDescriptionDict :=
    [(0x00000002, "Blocking EEPROM from being read"), (0x00000004, "Power budget exceeded"),
      (0x00000008, "Bus stuck (I2C data or clock shorted)"), (0x00000010, "Bad or unsupported EEPROM"),
      (0x00000020, "Unsupported cable"), (0x00000040, "High temperature"),
      (0x00000080, "Bad cable (module/cable is shorted)")]

inductive Reading (F : Type)
  | float (x : F)
  | other

structure Diagnostics (F : Type) where
  checksumError : String
  temperature : Option (Reading F)
  thresholdInfo : Option (Option (Reading F))
  baseErrorDescription : Option (Option String)

variable {F : Type} [LT F] [DecidableRel (fun a b : F => a < b)]

def validateTemperature (d : Diagnostics F) : Except PyExc Bool :=
  match d.temperature, d.thresholdInfo with
  | none, _ => .ok false
  | some _, none => .ok false
  | some .other, some _ => .ok true
  | some (.float _), some none => .error .keyError
  | some (.float _), some (some .other) => .ok true
  | some (.float temperature), some (some (.float highAlarm)) => .ok (decide (temperature < highAlarm))

/-- One turn of `for key in SFP_ERROR_BIT_TO_DESCRIPTION_DICT` on (err_desc, cnt); the dict's keys
are distinct, so `SFP_ERROR_BIT_TO_DESCRIPTION_DICT[key]` is the entry's own description. -/
def describeStep (codes : SfpBaseCodes) (errStat : Nat) (errEeprom : String) (acc : String × Nat)
    (entry : Nat × String) : String × Nat :=
  if errStat &&& entry.1 != 0 then
    let acc := if acc.2 > 0 then (acc.1 ++ "|", acc.2 + 1) else acc
    if entry.1 == codes.errorBitBadEeprom then (acc.1 ++ errEeprom, acc.2) else (acc.1 ++ entry.2, acc.2)
  else acc

def describeErrors (codes : SfpBaseCodes) (errStat : Nat) (errEeprom : String) : String :=
  (codes.errorBitToDescriptionDict.foldl (describeStep codes errStat errEeprom) ("", 0)).1

def Sfp.sfpGetErrorDescription (codes : SfpBaseCodes) (s : Sfp) (p : Platform) (d : Diagnostics F) :
    Except PyExc String := do
  if !(← s.getPresence p) then return codes.statusUnplugged
  let errEeprom := d.checksumError
  let errStat := if errEeprom != "" then codes.statusBitInserted ||| codes.errorBitBadEeprom
    else codes.statusBitInserted
  let status ← validateTemperature d
  let errStat := if status != true then errStat ||| codes.errorBitHighTemp else errStat
  if errStat == codes.statusBitInserted then return codes.statusOk
  pure (describeErrors codes errStat errEeprom)

def Sfp.getErrorDescription (codes : SfpBaseCodes) (s : Sfp) (p : Platform) (d : Diagnostics F) :
    Except PyExc String := do
  if !(← s.getPresence p) then return codes.statusUnplugged
  match p.xcvrApi with
  | none =>
    match codes.errorBitToDescriptionDict.lookup codes.errorBitBadEeprom with
    | some desc => pure desc
    | none => throw .keyError
  | some _ =>
    let optoeState := d.baseErrorDescription.join
    let state ← s.sfpGetErrorDescription codes p d
    if state == codes.statusOk then
      pure (match optoeState with
        | none => codes.statusOk
        | some optoe => optoe)
    else
      pure (match optoeState with
        | none => state
        | some optoe => optoe ++ "|" ++ state)

def describePiece (codes : SfpBaseCodes) (errStat : Nat) (errEeprom : String) (entry : Nat × String) :
    String :=
  if errStat &&& entry.1 != 0 then (if entry.1 == codes.errorBitBadEeprom then errEeprom else entry.2)
  else ""

section Loop

variable (codes : SfpBaseCodes) (errStat : Nat) (errEeprom : String)

-- cnt starts at 0 and is only raised under `if cnt > 0`, so it stays 0 and no "|" is written.
theorem describeStep_zero (acc : String) (entry : Nat × String) :
    describeStep codes errStat errEeprom (acc, 0) entry =
      (acc ++ describePiece codes errStat errEeprom entry, 0) := by
  unfold describeStep describePiece
  split_ifs <;> simp_all

theorem foldl_describeStep (acc : String) (entries : List (Nat × String)) :
    entries.foldl (describeStep codes errStat errEeprom) (acc, 0) =
      ((entries.map (describePiece codes errStat errEeprom)).foldl (· ++ ·) acc, 0) := by
  induction entries generalizing acc with
  | nil => rfl
  | cons entry rest ih => simp [describeStep_zero, ih]

theorem describeErrors_eq :
    describeErrors codes errStat errEeprom =
      String.join (codes.errorBitToDescriptionDict.map (describePiece codes errStat errEeprom)) := by
  simp [describeErrors, foldl_describeStep, String.join]

end Loop

def sonicOwnDescription (errEeprom : String) (tempOk : Bool) : String :=
  if errEeprom = "" ∧ tempOk = true then "OK"
  else (if errEeprom = "" then "" else errEeprom) ++ (if tempOk then "" else "High temperature")

section Sonic

variable {s : Sfp} {p : Platform} {d : Diagnostics F} {tempOk : Bool}

theorem Sfp.sfpGetErrorDescription_sonic (present : s.getPresence p = .ok true)
    (valid : validateTemperature d = .ok tempOk) :
    s.sfpGetErrorDescription sonicSfpBase p d = .ok (sonicOwnDescription d.checksumError tempOk) := by
  unfold Sfp.sfpGetErrorDescription sonicOwnDescription
  simp only [present, valid, ok_bind, Bool.not_true, Bool.false_eq_true, if_false, describeErrors_eq]
  by_cases empty : d.checksumError = "" <;> cases tempOk <;>
    simp +decide [empty, sonicSfpBase, describePiece, String.join]

theorem Sfp.getErrorDescription_sonic (present : s.getPresence p = .ok true) (api : p.xcvrApi ≠ none)
    (valid : validateTemperature d = .ok tempOk) :
    s.getErrorDescription sonicSfpBase p d =
      .ok (if sonicOwnDescription d.checksumError tempOk = "OK" then d.baseErrorDescription.join.getD "OK"
        else match d.baseErrorDescription.join with
          | none => sonicOwnDescription d.checksumError tempOk
          | some optoe => optoe ++ "|" ++ sonicOwnDescription d.checksumError tempOk) := by
  obtain ⟨xcvr, hx⟩ := Option.ne_none_iff_exists'.mp api
  unfold Sfp.getErrorDescription
  simp only [present, hx, ok_bind, Bool.not_true, Bool.false_eq_true, if_false,
    Sfp.sfpGetErrorDescription_sonic present valid, beq_iff_eq]
  by_cases ok : sonicOwnDescription d.checksumError tempOk = "OK" <;>
    cases d.baseErrorDescription.join <;> simp [ok, sonicSfpBase]

end Sonic

def checksumBadAndHot : Diagnostics Int where
  checksumError := "Checksum error"
  temperature := some (.float 90)
  thresholdInfo := some (some (.float 75))
  baseErrorDescription := some none

theorem getErrorDescription_joins_without_separator :
    Sfp.getErrorDescription sonicSfpBase ⟨1, "Ethernet0", .qsfpDd⟩ qsfpDdInserted checksumBadAndHot =
      .ok "Checksum errorHigh temperature" := rfl

theorem getErrorDescription_sonic_checksumBadAndHot :
    validateTemperature checksumBadAndHot = .ok false ∧
      Sfp.getErrorDescription sonicSfpBase ⟨1, "Ethernet0", .qsfpDd⟩ qsfpDdInserted checksumBadAndHot =
        .ok (if sonicOwnDescription checksumBadAndHot.checksumError false = "OK" then
            checksumBadAndHot.baseErrorDescription.join.getD "OK"
          else match checksumBadAndHot.baseErrorDescription.join with
            | none => sonicOwnDescription checksumBadAndHot.checksumError false
            | some optoe => optoe ++ "|" ++ sonicOwnDescription checksumBadAndHot.checksumError false) :=
  have valid : validateTemperature checksumBadAndHot = .ok false := rfl
  ⟨valid, Sfp.getErrorDescription_sonic rfl (by simp [qsfpDdInserted]) valid⟩

end AcctonAs9817.SonicPlatform
