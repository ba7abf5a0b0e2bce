import AcctonAs9817.SonicPlatform.Sfp

set_option autoImplicit false

namespace AcctonAs9817.SonicPlatform

open Python

def Sfp.getEepromPath (s : Sfp) : Except PyExc String :=
  match portToEepromMapping.lookup s.portNum with
  | some path => .ok path
  | none => .error .keyError

def Sfp.readEeprom (s : Sfp) (p : Platform) (offset numBytes : Nat) : Except PyExc (Option (List UInt8)) :=
  (p.eeprom · offset numBytes) <$> s.getEepromPath

def Sfp.getPresence (s : Sfp) (p : Platform) : Except PyExc Bool := readFlag p (presentPath s.portNum)

def Sfp.getResetStatus (s : Sfp) (p : Platform) : Except PyExc Bool := readFlag p (resetPath s.portNum)

def lpmodeByApi (t : SfpType) : Bool := t ∈ [SfpType.qsfpDd, SfpType.osfp]

/-- The lpmode read through `api = self.get_xcvr_api(); return api.get_lpmode()`, an AttributeError
when api is None. -/
def Sfp.getLpmode (s : Sfp) (p : Platform) : Except PyExc Bool :=
  if s.portNum > 32 then .ok false
  else if lpmodeByApi s.sfpType then
    match p.xcvrApi with
    | some api => .ok api.getLpmode
    | none => .error .attributeError
  else readFlag p (getLpmodePath s.portNum)

def Sfp.reset (s : Sfp) (p : Platform) : Except PyExc Bool := do
  if !(← s.getPresence p) then return false
  if s.portNum > 32 then return false
  let ret := p.writeTxtFile (resetPath s.portNum) 1
  if ret != true then return ret
  pure (p.writeTxtFile (resetPath s.portNum) 0)

def Sfp.setLpmode (s : Sfp) (p : Platform) (lpmode : Bool) : Except PyExc Bool := do
  if !(← s.getPresence p) then return false
  if s.portNum > 32 then return false
  if lpmodeByApi s.sfpType then
    match p.xcvrApi with
    | some api => pure (api.setLpmode lpmode)
    | none => throw .attributeError
  else pure (p.writeTxtFile (setLpmodePath s.portNum) (if lpmode then 1 else 0))

def Sfp.txDisable (s : Sfp) (p : Platform) (txDisable : Bool) : Except PyExc Bool := do
  if !(← s.getPresence p) then return false
  if s.portNum < 33 then
    match p.xcvrApi with
    | some api => pure (api.txDisable txDisable)
    | none => pure false
  else pure (p.writeTxtFile (txdisablePath s.portNum) (if txDisable then 1 else 0))

def classify (code : UInt8) : Option SfpType :=
  if code ∈ sfpTypeCodeList then some .sfp
  else if code ∈ qsfpTypeCodeList then some .qsfp
  else if code ∈ qsfpDdTypeCodeList then some .qsfpDd
  else if code ∈ osfpTypeCodeList then some .osfp
  else none

def Sfp.updateSfpType (s : Sfp) (p : Platform) : Except PyExc (String × Sfp) := do
  if !(← s.getPresence p) then return (eepromDataNotReady, s)
  match ← s.readEeprom p 0 1 with
  | some (code :: _) =>
    match classify code with
    | some t => pure (updateDone, { s with sfpType := t })
    | none => pure (unknownSfpTypeId, s)
  | _ => pure (eepromDataNotReady, s)

def Sfp.init (sfpIndex : Nat) (intfName : String) (p : Platform) : Except PyExc Sfp :=
  Prod.snd <$> ({ portNum := sfpIndex + 1, name := intfName, sfpType := .qsfp } : Sfp).updateSfpType p

inductive Call
  | getPresence
  | getResetStatus
  | getLpmode
  | setLpmode (lpmode : Bool)
  | reset
  | txDisable (txDisable : Bool)
  | updateSfpType

inductive Reply
  | flag (b : Bool)
  | status (s : String)

def Sfp.call (s : Sfp) (p : Platform) : Call → Except PyExc (Reply × Sfp)
  | .getPresence => (fun b => (.flag b, s)) <$> s.getPresence p
  | .getResetStatus => (fun b => (.flag b, s)) <$> s.getResetStatus p
  | .getLpmode => (fun b => (.flag b, s)) <$> s.getLpmode p
  | .setLpmode lpmode => (fun b => (.flag b, s)) <$> s.setLpmode p lpmode
  | .reset => (fun b => (.flag b, s)) <$> s.reset p
  | .txDisable txDisable => (fun b => (.flag b, s)) <$> s.txDisable p txDisable
  | .updateSfpType => (fun r => (.status r.1, r.2)) <$> s.updateSfpType p

inductive Sfp.Reachable : Sfp → Prop
  | init {sfpIndex : Nat} {intfName : String} {p : Platform} {s : Sfp} (index : sfpIndex < 34)
      (built : Sfp.init sfpIndex intfName p = .ok s) : Sfp.Reachable s
  | call {s s' : Sfp} {p : Platform} {c : Call} {r : Reply} (reached : Sfp.Reachable s)
      (answered : s.call p c = .ok (r, s')) : Sfp.Reachable s'

/-- The one case in which a call raises: lpmode through a transceiver API that is not there. -/
def LpmodeWithoutApi (s : Sfp) (p : Platform) : Call → Prop
  | .getLpmode => s.portNum ≤ 32 ∧ lpmodeByApi s.sfpType ∧ p.xcvrApi = none
  | .setLpmode _ => s.getPresence p = .ok true ∧ s.portNum ≤ 32 ∧ lpmodeByApi s.sfpType ∧ p.xcvrApi = none
  | _ => False

section Returns

variable {s s' : Sfp} {p : Platform}

theorem Sfp.updateSfpType_sfp {msg : String} (updated : s.updateSfpType p = .ok (msg, s')) :
    ∃ t, s' = { s with sfpType := t } := by
  unfold Sfp.updateSfpType at updated
  cases present : s.getPresence p with
  | error e => simp [present] at updated
  | ok b =>
    cases b
    · simp [present] at updated; exact ⟨s.sfpType, by simp [← updated.2]⟩
    · cases read : s.readEeprom p 0 1 with
      | error e => simp [present, read] at updated
      | ok bytes =>
        simp only [present, read, ok_bind, Bool.not_true, Bool.false_eq_true, if_false, pure_eq_ok]
          at updated
        split at updated
        · split at updated <;> simp at updated <;> exact ⟨_, updated.2.symm⟩
        · simp at updated
          exact ⟨s.sfpType, updated.2.symm⟩

theorem Sfp.call_sfp {c : Call} {r : Reply} (answered : s.call p c = .ok (r, s')) :
    ∃ t, s' = { s with sfpType := t } := by
  cases c <;> obtain ⟨a, got, same⟩ := map_eq_ok answered
  case updateSfpType =>
    obtain ⟨msg, updated⟩ := a
    cases same
    exact Sfp.updateSfpType_sfp got
  all_goals exact ⟨s.sfpType, (congrArg Prod.snd same).symm⟩

def PortInRange (s : Sfp) : Prop := portStart ≤ s.portNum ∧ s.portNum ≤ portEnd

theorem Sfp.init_sfp {sfpIndex : Nat} {intfName : String} (built : Sfp.init sfpIndex intfName p = .ok s) :
    ∃ t, s = ⟨sfpIndex + 1, intfName, t⟩ := by
  obtain ⟨⟨msg, updated⟩, got, rfl⟩ := map_eq_ok built
  exact Sfp.updateSfpType_sfp got

theorem Sfp.Reachable.portInRange (reached : s.Reachable) : PortInRange s := by
  induction reached with
  | init index built =>
    obtain ⟨t, rfl⟩ := Sfp.init_sfp built
    simp only [PortInRange, portStart, portEnd]; omega
  | call _ answered inRange =>
    obtain ⟨t, rfl⟩ := Sfp.call_sfp answered
    exact inRange

theorem portToEepromMapping_covers : ∀ n, 1 ≤ n → n ≤ 34 → (portToEepromMapping.lookup n).isSome = true := by
  decide

theorem Sfp.getEepromPath_ok (inRange : PortInRange s) : ∃ path, s.getEepromPath = .ok path := by
  have covered := portToEepromMapping_covers s.portNum inRange.1 inRange.2
  unfold Sfp.getEepromPath
  cases found : portToEepromMapping.lookup s.portNum with
  | none => simp [found] at covered
  | some path => exact ⟨path, rfl⟩

variable (bits : NodesHoldBits p)
include bits

theorem Sfp.getPresence_ok (s : Sfp) : ∃ b, s.getPresence p = .ok b := readFlag_ok p bits _

theorem Sfp.getResetStatus_ok (s : Sfp) : ∃ b, s.getResetStatus p = .ok b := readFlag_ok p bits _

theorem Sfp.getLpmode_returns (s : Sfp) (safe : ¬ LpmodeWithoutApi s p .getLpmode) :
    ∃ b, s.getLpmode p = .ok b := by
  unfold Sfp.getLpmode
  split_ifs with far byApi
  · exact ⟨_, rfl⟩
  · cases api : p.xcvrApi with
    | some _ => exact ⟨_, rfl⟩
    | none => exact absurd ⟨by omega, byApi, api⟩ safe
  · exact readFlag_ok p bits _

theorem Sfp.setLpmode_returns (s : Sfp) (lpmode : Bool) (safe : ¬ LpmodeWithoutApi s p (.setLpmode lpmode)) :
    ∃ b, s.setLpmode p lpmode = .ok b := by
  obtain ⟨present, hp⟩ := Sfp.getPresence_ok bits s
  unfold Sfp.setLpmode
  simp only [hp, ok_bind]
  split_ifs with absent far byApi
  · exact ⟨_, rfl⟩
  · exact ⟨_, rfl⟩
  · cases api : p.xcvrApi with
    | some _ => exact ⟨_, rfl⟩
    | none => exact absurd ⟨by simpa using hp.trans (congrArg _ (by simpa using absent)), by omega,
        byApi, api⟩ safe
  all_goals exact ⟨_, rfl⟩

theorem Sfp.reset_returns (s : Sfp) : ∃ b, s.reset p = .ok b := by
  obtain ⟨present, hp⟩ := Sfp.getPresence_ok bits s
  unfold Sfp.reset
  simp only [hp, ok_bind]
  split_ifs <;> exact ⟨_, rfl⟩

theorem Sfp.txDisable_returns (s : Sfp) (txDisable : Bool) : ∃ b, s.txDisable p txDisable = .ok b := by
  obtain ⟨present, hp⟩ := Sfp.getPresence_ok bits s
  unfold Sfp.txDisable
  simp only [hp, ok_bind]
  split_ifs
  · exact ⟨_, rfl⟩
  · cases p.xcvrApi <;> exact ⟨_, rfl⟩
  all_goals exact ⟨_, rfl⟩

theorem Sfp.updateSfpType_returns (s : Sfp) (inRange : PortInRange s) :
    ∃ r, s.updateSfpType p = .ok r := by
  obtain ⟨present, hp⟩ := Sfp.getPresence_ok bits s
  obtain ⟨path, hpath⟩ := Sfp.getEepromPath_ok inRange
  unfold Sfp.updateSfpType Sfp.readEeprom
  simp only [hp, hpath, ok_bind, ok_map]
  split_ifs
  · exact ⟨_, rfl⟩
  · split
    · split <;> exact ⟨_, rfl⟩
    · exact ⟨_, rfl⟩

end Returns

theorem Sfp.call_raises {s : Sfp} {p : Platform} {c : Call} (without : LpmodeWithoutApi s p c) :
    s.call p c = .error .attributeError := by
  cases c with
  | getLpmode =>
    obtain ⟨near, byApi, api⟩ := without
    simp [Sfp.call, Sfp.getLpmode, api, byApi, show ¬ s.portNum > 32 by omega]
  | setLpmode lpmode =>
    obtain ⟨present, near, byApi, api⟩ := without
    simp [Sfp.call, Sfp.setLpmode, present, api, byApi, show ¬ s.portNum > 32 by omega]
  | getPresence | getResetStatus | reset | txDisable _ | updateSfpType => exact without.elim

theorem Sfp.Reachable.call_returns {s : Sfp} {p : Platform} (reached : s.Reachable)
    (bits : NodesHoldBits p) (c : Call) :
    (¬ LpmodeWithoutApi s p c ∧ ∃ r s', s.call p c = .ok (r, s')) ∨
      (LpmodeWithoutApi s p c ∧ s.call p c = .error .attributeError) := by
  by_cases without : LpmodeWithoutApi s p c
  · exact .inr ⟨without, Sfp.call_raises without⟩
  refine .inl ⟨without, ?_⟩
  cases c with
  | getPresence => obtain ⟨b, hb⟩ := Sfp.getPresence_ok bits s; exact ⟨.flag b, s, by simp [Sfp.call, hb]⟩
  | getResetStatus =>
    obtain ⟨b, hb⟩ := Sfp.getResetStatus_ok bits s; exact ⟨.flag b, s, by simp [Sfp.call, hb]⟩
  | getLpmode =>
    obtain ⟨b, hb⟩ := Sfp.getLpmode_returns bits s without; exact ⟨.flag b, s, by simp [Sfp.call, hb]⟩
  | setLpmode lpmode =>
    obtain ⟨b, hb⟩ := Sfp.setLpmode_returns bits s lpmode without; exact ⟨.flag b, s, by simp [Sfp.call, hb]⟩
  | reset => obtain ⟨b, hb⟩ := Sfp.reset_returns bits s; exact ⟨.flag b, s, by simp [Sfp.call, hb]⟩
  | txDisable txDisable =>
    obtain ⟨b, hb⟩ := Sfp.txDisable_returns bits s txDisable; exact ⟨.flag b, s, by simp [Sfp.call, hb]⟩
  | updateSfpType =>
    obtain ⟨r, hr⟩ := Sfp.updateSfpType_returns bits s reached.portInRange
    exact ⟨.status r.1, r.2, by simp [Sfp.call, hr]⟩

def qsfpDdInserted : Platform where
  readTxtFile path := if path = presentPath 1 then some "1" else none
  writeTxtFile _ _ := true
  eeprom _ _ _ := some [0x18]
  xcvrApi := some ⟨false, fun _ => true, fun _ => true⟩

def qsfpDdUnreadable : Platform where
  readTxtFile path := if path = presentPath 1 then some "1" else none
  writeTxtFile _ _ := true
  eeprom _ _ _ := none
  xcvrApi := none

theorem lpmode_raises_after_qsfpDd_seen :
    Sfp.init 0 "Ethernet0" qsfpDdInserted = .ok ⟨1, "Ethernet0", .qsfpDd⟩ ∧
      Sfp.getLpmode ⟨1, "Ethernet0", .qsfpDd⟩ qsfpDdUnreadable = .error .attributeError ∧
      Sfp.setLpmode ⟨1, "Ethernet0", .qsfpDd⟩ qsfpDdUnreadable true = .error .attributeError ∧
      Sfp.txDisable ⟨1, "Ethernet0", .qsfpDd⟩ qsfpDdUnreadable true = .ok false :=
  ⟨rfl, rfl, rfl, rfl⟩

theorem qsfpDd_getLpmode_raises_only_without_api :
    Sfp.Reachable ⟨1, "Ethernet0", .qsfpDd⟩ ∧ NodesHoldBits qsfpDdUnreadable ∧
      ((¬ LpmodeWithoutApi ⟨1, "Ethernet0", .qsfpDd⟩ qsfpDdUnreadable .getLpmode ∧
          ∃ r s', Sfp.call ⟨1, "Ethernet0", .qsfpDd⟩ qsfpDdUnreadable .getLpmode = .ok (r, s')) ∨
        (LpmodeWithoutApi ⟨1, "Ethernet0", .qsfpDd⟩ qsfpDdUnreadable .getLpmode ∧
          Sfp.call ⟨1, "Ethernet0", .qsfpDd⟩ qsfpDdUnreadable .getLpmode = .error .attributeError)) :=
  have reached : Sfp.Reachable ⟨1, "Ethernet0", .qsfpDd⟩ :=
    @Sfp.Reachable.init 0 "Ethernet0" qsfpDdInserted _ (by decide) rfl
  have bits : NodesHoldBits qsfpDdUnreadable := fun path => by
    by_cases port : path = presentPath 1 <;> simp [qsfpDdUnreadable, port]
  ⟨reached, bits, reached.call_returns bits .getLpmode⟩

end AcctonAs9817.SonicPlatform
