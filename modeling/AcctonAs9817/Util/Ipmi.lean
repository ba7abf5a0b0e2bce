import AcctonAs9817.Util.Driver

set_option autoImplicit false

namespace AcctonAs9817.Util

open Python

/-! The three `while attempts:` loops of the IPMI bring-up, read as bounded retries. A pass is what
one trip through the loop body does on the host after `log`: whether it returned, and what it issued. -/
def Pass : Type := List String → Bool × List String

/-- At most `left` passes from `log`: how many failed, whether one returned, and all they issued. -/
def attemptLoop (pass : Pass) : Nat → List String → Nat × Bool × List String
  | 0, _ => (0, false, [])
  | left + 1, log =>
    if (pass log).1 then (0, true, (pass log).2)
    else
      let rest := attemptLoop pass left (log ++ (pass log).2)
      (rest.1 + 1, rest.2.1, (pass log).2 ++ rest.2.2)

def Pass.fixed (succeeds : List String → Bool) (onSuccess onFailure : List String) : Pass :=
  fun log => if succeeds log then (true, onSuccess) else (false, onFailure)

section AttemptLoop

variable {pass : Pass} {left k : Nat} {log issued : List String} {ok : Bool}

theorem attemptLoop_succ_of_pass (passed : (pass log).1 = true) :
    attemptLoop pass (left + 1) log = (0, true, (pass log).2) := by
  simp [attemptLoop, passed]

theorem attemptLoop_succ_of_miss (missed : (pass log).1 = false)
    (rest : attemptLoop pass left (log ++ (pass log).2) = (k, ok, issued)) :
    attemptLoop pass (left + 1) log = (k + 1, ok, (pass log).2 ++ issued) := by
  simp [attemptLoop, missed, rest]

theorem attemptLoop_eta (pass : Pass) (left : Nat) (log : List String) :
    ∃ k ok issued, attemptLoop pass left log = (k, ok, issued) := ⟨_, _, _, rfl⟩

theorem attemptLoop_exhausted (run : attemptLoop pass left log = (k, false, issued)) : k = left := by
  induction left generalizing log k issued with
  | zero => cases run; rfl
  | succ left ih =>
    cases passed : (pass log).1
    · obtain ⟨k', ok', issued', rest⟩ := attemptLoop_eta pass left (log ++ (pass log).2)
      rw [attemptLoop_succ_of_miss passed rest] at run
      cases run
      rw [ih rest]
    · rw [attemptLoop_succ_of_pass passed] at run
      cases run

theorem attemptLoop_returned (run : attemptLoop pass left log = (k, true, issued)) : k < left := by
  induction left generalizing log k issued with
  | zero => cases run
  | succ left ih =>
    cases passed : (pass log).1
    · obtain ⟨k', ok', issued', rest⟩ := attemptLoop_eta pass left (log ++ (pass log).2)
      rw [attemptLoop_succ_of_miss passed rest] at run
      cases run
      exact Nat.succ_lt_succ (ih rest)
    · rw [attemptLoop_succ_of_pass passed] at run
      cases run
      exact Nat.succ_pos _

theorem attemptLoop_length_le {bound : Nat} (each : ∀ log, (pass log).2.length ≤ bound)
    (run : attemptLoop pass left log = (k, ok, issued)) : issued.length ≤ left * bound := by
  induction left generalizing log k ok issued with
  | zero => cases run; simp
  | succ left ih =>
    have first := each log
    cases passed : (pass log).1
    · obtain ⟨k', ok', issued', rest⟩ := attemptLoop_eta pass left (log ++ (pass log).2)
      rw [attemptLoop_succ_of_miss passed rest] at run
      cases run
      have later := ih rest
      simp only [List.length_append, Nat.succ_mul]
      omega
    · rw [attemptLoop_succ_of_pass passed] at run
      cases run
      calc (pass log).2.length ≤ bound := first
        _ ≤ (left + 1) * bound := Nat.le_mul_of_pos_left bound (Nat.succ_pos _)

theorem attemptLoop_last (positive : 0 < left) (run : attemptLoop pass left log = (k, ok, issued)) :
    ∃ before, issued = before ++ (pass (log ++ before)).2 ∧ (pass (log ++ before)).1 = ok := by
  induction left generalizing log k ok issued with
  | zero => cases positive
  | succ left ih =>
    cases passed : (pass log).1
    · obtain ⟨k', ok', issued', rest⟩ := attemptLoop_eta pass left (log ++ (pass log).2)
      rw [attemptLoop_succ_of_miss passed rest] at run
      cases run
      cases left with
      | zero =>
        cases rest
        exact ⟨[], by simp, by simpa using passed⟩
      | succ left =>
        obtain ⟨before, issued, outcome⟩ := ih (Nat.succ_pos _) rest
        exact ⟨(pass log).2 ++ before, by rw [issued, List.append_assoc, List.append_assoc],
          by rw [← List.append_assoc]; exact outcome⟩
    · rw [attemptLoop_succ_of_pass passed] at run
      cases run
      exact ⟨[], by simp, by simpa using passed⟩

theorem attemptLoop_forall {P : String → Prop} (each : ∀ log, ∀ cmd ∈ (pass log).2, P cmd) :
    ∀ cmd ∈ (attemptLoop pass left log).2.2, P cmd := by
  induction left generalizing log with
  | zero => simp [attemptLoop]
  | succ left ih =>
    cases passed : (pass log).1
    · obtain ⟨k', ok', issued', rest⟩ := attemptLoop_eta pass left (log ++ (pass log).2)
      rw [attemptLoop_succ_of_miss passed rest]
      intro cmd listed
      rcases List.mem_append.mp listed with first | later
      · exact each log cmd first
      · have := @ih (log ++ (pass log).2)
        rw [rest] at this
        exact this cmd later
    · rw [attemptLoop_succ_of_pass passed]
      exact each log

end AttemptLoop

section Fixed

variable {succeeds : List String → Bool} {onSuccess onFailure : List String}

def Pass.failures (onFailure : List String) (k : Nat) : List String := (List.replicate k onFailure).flatten

@[simp] theorem Pass.failures_zero : Pass.failures onFailure 0 = [] := rfl

theorem Pass.failures_succ (k : Nat) :
    Pass.failures onFailure (k + 1) = onFailure ++ Pass.failures onFailure k := rfl

theorem attemptLoop_fixed {left k : Nat} {log issued : List String} {ok : Bool}
    (run : attemptLoop (.fixed succeeds onSuccess onFailure) left log = (k, ok, issued)) :
    issued = Pass.failures onFailure k ++ (if ok then onSuccess else []) ∧
      (∀ j < k, succeeds (log ++ Pass.failures onFailure j) = false) ∧
      (ok = true → succeeds (log ++ Pass.failures onFailure k) = true) := by
  induction left generalizing log k ok issued with
  | zero => cases run; simp
  | succ left ih =>
    cases found : succeeds log
    · have missed : (Pass.fixed succeeds onSuccess onFailure log).1 = false := by simp [Pass.fixed, found]
      obtain ⟨k', ok', issued', rest⟩ := attemptLoop_eta (.fixed succeeds onSuccess onFailure) left
        (log ++ (Pass.fixed succeeds onSuccess onFailure log).2)
      rw [attemptLoop_succ_of_miss missed rest] at run
      cases run
      obtain ⟨issued, misses, returned⟩ := ih rest
      simp only [Pass.fixed, found, Bool.false_eq_true, if_false] at issued misses returned ⊢
      refine ⟨by rw [issued, Pass.failures_succ, List.append_assoc], fun j below => ?_, fun ok => ?_⟩
      · cases j with
        | zero => simpa using found
        | succ j => simpa [Pass.failures_succ] using misses j (by omega)
      · simpa [Pass.failures_succ] using returned ok
    · have passed : (Pass.fixed succeeds onSuccess onFailure log).1 = true := by simp [Pass.fixed, found]
      rw [attemptLoop_succ_of_pass passed] at run
      cases run
      simp [Pass.fixed, found]

end Fixed

def ipmiUnloads (ko : List String) : List String := ko.reverse.map (replace · "modprobe" "modprobe -rq")

def ipmiNodeFound (ko : List String) (h : Host) (log : List String) : Bool :=
  h.isFile (log ++ ko) "/dev/ipmi0" || h.isFile (log ++ ko) "/dev/ipmidev/0"

def devIntfPass (ko : List String) (h : Host) : Pass := .fixed (ipmiNodeFound ko h) ko (ko ++ ipmiUnloads ko)

def oemCmd : String := "ipmitool raw 0x34 0x95"

def oemCmdPass (h : Host) : Pass := .fixed (fun log => h.status log oemCmd == 0) [oemCmd] [oemCmd]

@[simp] theorem devIntfPass_extend (ko : List String) (h : Host) (new : List String) :
    devIntfPass ko (h.extend new) = devIntfPass ko h := rfl

@[simp] theorem oemCmdPass_extend (h : Host) (new : List String) : oemCmdPass (h.extend new) = oemCmdPass h := rfl

theorem loop_eq_attemptLoop {β : Type} (loop : Nat → HostM β) (pass : Host → Pass) (result : Nat → Nat → Bool → β)
    (same : ∀ h new, pass (h.extend new) = pass h)
    (exhausted : ∀ h, loop 0 h = (.ok (result 0 0 false), h))
    (returned : ∀ left h, (pass h h.log).1 = true →
      loop (left + 1) h = (.ok (result (left + 1) 0 true), h.extend (pass h h.log).2))
    (retried : ∀ left h, (pass h h.log).1 = false → loop (left + 1) h = loop left (h.extend (pass h h.log).2))
    (shift : ∀ left k ok, result (left + 1) (k + 1) ok = result left k ok) (left : Nat) (h : Host) :
    loop left h = (.ok (result left (attemptLoop (pass h) left h.log).1 (attemptLoop (pass h) left h.log).2.1),
      h.extend (attemptLoop (pass h) left h.log).2.2) := by
  induction left generalizing h with
  | zero => simp [exhausted, attemptLoop]
  | succ left ih =>
    cases passed : (pass h h.log).1
    · obtain ⟨k, ok, issued, rest⟩ := attemptLoop_eta (pass h) left (h.log ++ (pass h h.log).2)
      rw [retried left h passed, ih, same, Host.extend_log, rest, attemptLoop_succ_of_miss passed rest, shift,
        Host.extend_extend]
    · rw [returned left h passed, attemptLoop_succ_of_pass passed]

-- `return (0, (ATTEMPTS - attempts) * interval)` from the pass that returned, or `(1, ATTEMPTS * interval)`.
def loopResult (total interval left k : Nat) (ok : Bool) : Nat × Nat :=
  if ok then (0, (total - (left - k)) * interval) else (1, total * interval)

theorem loopResult_shift (total interval left k : Nat) (ok : Bool) :
    loopResult total interval (left + 1) (k + 1) ok = loopResult total interval left k ok := by
  simp [loopResult]

theorem initIpmiDevIntfLoop_eq (ko : List String) (total interval left : Nat) (h : Host) :
    initIpmiDevIntfLoop ko total interval left h =
      (.ok (loopResult total interval left (attemptLoop (devIntfPass ko h) left h.log).1
        (attemptLoop (devIntfPass ko h) left h.log).2.1), h.extend (attemptLoop (devIntfPass ko h) left h.log).2.2) := by
  refine loop_eq_attemptLoop _ (devIntfPass ko) _ (devIntfPass_extend ko) (fun _ => rfl) (fun left h passed => ?_)
    (fun left h missed => ?_) (loopResult_shift total interval) left h
  · simp only [devIntfPass, Pass.fixed] at passed ⊢
    split at passed
    · simp_all [initIpmiDevIntfLoop, bind_apply, getstatusoutputEach_apply, ipmiNodeFound, loopResult]
    · cases passed
  · simp only [devIntfPass, Pass.fixed] at missed ⊢
    split at missed
    · cases missed
    · simp_all [initIpmiDevIntfLoop, bind_apply, getstatusoutputEach_apply, ipmiNodeFound, ipmiUnloads]

theorem initIpmiOemCmdLoop_eq (left : Nat) (h : Host) :
    initIpmiOemCmdLoop left h = (.ok (loopResult attempts interval left (attemptLoop (oemCmdPass h) left h.log).1
        (attemptLoop (oemCmdPass h) left h.log).2.1), h.extend (attemptLoop (oemCmdPass h) left h.log).2.2) := by
  refine loop_eq_attemptLoop _ oemCmdPass _ oemCmdPass_extend (fun _ => rfl) (fun left h passed => ?_)
    (fun left h missed => ?_) (loopResult_shift attempts interval) left h
  · simp only [oemCmdPass, Pass.fixed] at passed ⊢
    split at passed
    · simp_all [initIpmiOemCmdLoop, bind_apply, loopResult, oemCmd]
    · cases passed
  · simp only [oemCmdPass, Pass.fixed] at missed ⊢
    split at missed
    · cases missed
    · simp_all [initIpmiOemCmdLoop, bind_apply, oemCmd]

theorem initIpmiDevIntf_spec (ko : List String) (total interval : Nat) (h : Host) :
    ∃ k ≤ total, ∃ ok : Bool,
      initIpmiDevIntfLoop ko total interval total h = (.ok (if ok then (0, k * interval) else (1, total * interval)),
        h.extend (Pass.failures (ko ++ ipmiUnloads ko) k ++ if ok then ko else [])) ∧
      (∀ j < k, ipmiNodeFound ko h (h.log ++ Pass.failures (ko ++ ipmiUnloads ko) j) = false) ∧
      (if ok then k < total ∧ ipmiNodeFound ko h (h.log ++ Pass.failures (ko ++ ipmiUnloads ko) k) = true
        else k = total) := by
  obtain ⟨k, ok, issued, run⟩ := attemptLoop_eta (devIntfPass ko h) total h.log
  obtain ⟨rfl, misses, found⟩ := attemptLoop_fixed run
  have bounded : k ≤ total := by
    cases ok
    · exact (attemptLoop_exhausted run).le
    · exact (attemptLoop_returned run).le
  refine ⟨k, bounded, ok, ?_, misses, ?_⟩
  · rw [initIpmiDevIntfLoop_eq, run]
    cases ok <;> simp [loopResult, Nat.sub_sub_self bounded]
  · cases ok
    · exact attemptLoop_exhausted run
    · exact ⟨attemptLoop_returned run, found rfl⟩

def ipmiPass (h : Host) : Pass := fun log =>
  let dev := attemptLoop (devIntfPass ipmiKo h) attempts log
  if dev.2.1 then
    let oem := attemptLoop (oemCmdPass h) attempts (log ++ dev.2.2)
    (oem.2.1, dev.2.2 ++ oem.2.2)
  else (false, dev.2.2)

section IpmiPass

variable {h : Host} {log issd : List String} {kd : Nat}

theorem ipmiPass_down (dev : attemptLoop (devIntfPass ipmiKo h) attempts log = (kd, false, issd)) :
    ipmiPass h log = (false, issd) := by
  simp [ipmiPass, dev]

theorem ipmiPass_up (dev : attemptLoop (devIntfPass ipmiKo h) attempts log = (kd, true, issd)) {ko : Nat} {oko : Bool}
    {isso : List String} (oem : attemptLoop (oemCmdPass h) attempts (log ++ issd) = (ko, oko, isso)) :
    ipmiPass h log = (oko, issd ++ isso) := by
  simp only [ipmiPass, dev, oem, if_true]

end IpmiPass

theorem initIpmiLoop_eq (left : Nat) (h : Host) :
    initIpmiLoop left h = (.ok (if (attemptLoop (ipmiPass h) left h.log).2.1 then 0 else 1),
      h.extend (attemptLoop (ipmiPass h) left h.log).2.2) := by
  refine loop_eq_attemptLoop _ ipmiPass (fun _ _ ok => if ok then 0 else 1) (fun _ _ => rfl) (fun _ => rfl)
    (fun left h passed => ?_) (fun left h missed => ?_) (fun _ _ _ => rfl) left h
  all_goals
    obtain ⟨kd, okd, issd, dev⟩ := attemptLoop_eta (devIntfPass ipmiKo h) attempts h.log
    obtain ⟨ko, oko, isso, oem⟩ := attemptLoop_eta (oemCmdPass h) attempts (h.log ++ issd)
    cases okd
  · rw [ipmiPass_down dev] at passed
    cases passed
  · rw [ipmiPass_up dev oem] at passed ⊢
    cases passed
    simp [initIpmiLoop, bind_apply, initIpmiDevIntf, initIpmiDevIntfLoop_eq, dev, loopResult, initIpmiOemCmd,
      initIpmiOemCmdLoop_eq, oem]
  · rw [ipmiPass_down dev]
    simp [initIpmiLoop, bind_apply, initIpmiDevIntf, initIpmiDevIntfLoop_eq, dev, loopResult]
  · rw [ipmiPass_up dev oem] at missed ⊢
    cases missed
    simp [initIpmiLoop, bind_apply, initIpmiDevIntf, initIpmiDevIntfLoop_eq, dev, loopResult, initIpmiOemCmd,
      initIpmiOemCmdLoop_eq, oem]

def EndsWithPassedProbe (h : Host) (issued : List String) : Prop :=
  ∃ before, issued = before ++ [oemCmd] ∧ h.status (h.log ++ before) oemCmd = 0

theorem endsWithPassedProbe_iff {h : Host} (before : List String) (last : String) :
    EndsWithPassedProbe h (before ++ [last]) ↔ last = oemCmd ∧ h.status (h.log ++ before) oemCmd = 0 := by
  constructor
  · rintro ⟨before', same, answered⟩
    obtain ⟨rfl, last⟩ := List.append_inj' same rfl
    exact ⟨List.singleton_inj.mp last, answered⟩
  · rintro ⟨rfl, answered⟩
    exact ⟨before, rfl, answered⟩

theorem devIntfPass_length_le (h : Host) (log : List String) : (devIntfPass ipmiKo h log).2.length ≤ 8 := by
  unfold devIntfPass Pass.fixed
  split <;> decide

theorem oemCmdPass_issues (h : Host) (log : List String) : (oemCmdPass h log).2 = [oemCmd] := by
  unfold oemCmdPass Pass.fixed
  split <;> rfl

def ipmiCommands : List String := ipmiKo ++ ipmiUnloads ipmiKo ++ [oemCmd]

theorem ipmiPass_issues (h : Host) (log : List String) : ∀ cmd ∈ (ipmiPass h log).2, cmd ∈ ipmiCommands := by
  have dev : ∀ cmd ∈ (attemptLoop (devIntfPass ipmiKo h) attempts log).2.2, cmd ∈ ipmiCommands :=
    attemptLoop_forall fun log cmd listed => by
      revert listed; unfold devIntfPass Pass.fixed ipmiCommands; split <;> simp only [List.mem_append] <;> tauto
  have oem : ∀ log', ∀ cmd ∈ (attemptLoop (oemCmdPass h) attempts log').2.2, cmd ∈ ipmiCommands :=
    fun _ => attemptLoop_forall fun log cmd listed => by
      rw [oemCmdPass_issues, List.mem_singleton] at listed
      simp [ipmiCommands, listed]
  simp only [ipmiPass]
  split
  · intro cmd listed
    rcases List.mem_append.mp listed with first | later
    · exact dev cmd first
    · exact oem _ cmd later
  · exact dev

theorem ipmiPass_length_le (h : Host) (log : List String) : (ipmiPass h log).2.length ≤ 45 := by
  obtain ⟨kd, okd, issd, dev⟩ := attemptLoop_eta (devIntfPass ipmiKo h) attempts log
  obtain ⟨ko, oko, isso, oem⟩ := attemptLoop_eta (oemCmdPass h) attempts (log ++ issd)
  have devBound : issd.length ≤ attempts * 8 := attemptLoop_length_le (devIntfPass_length_le h) dev
  have oemBound : isso.length ≤ attempts * 1 :=
    attemptLoop_length_le (fun log => (congrArg List.length (oemCmdPass_issues h log)).le) oem
  simp only [attempts] at devBound oemBound
  cases okd
  · rw [ipmiPass_down dev]; exact devBound.trans (by decide)
  · rw [ipmiPass_up dev oem]; exact (List.length_append _ _).trans_le (by omega)

theorem initIpmi_issues (h : Host) :
    ∃ status issued, initIpmi h = (.ok status, h.extend issued) ∧ ∀ cmd ∈ issued, cmd ∈ ipmiCommands := by
  have issues := @attemptLoop_forall (ipmiPass h) attempts h.log _ (ipmiPass_issues h)
  exact ⟨_, _, by rw [initIpmi, initIpmiLoop_eq], issues⟩

theorem initIpmi_succeeds_iff_probe_passed (h : Host) :
    ∃ status issued, initIpmi h = (.ok status, h.extend issued) ∧ (status = 0 ∨ status = 1) ∧
      issued.length ≤ 225 ∧ (∀ cmd ∈ issued, cmd ∈ ipmiCommands) ∧ (status = 0 ↔ EndsWithPassedProbe h issued) := by
  obtain ⟨k, ok, issued, run⟩ := attemptLoop_eta (ipmiPass h) attempts h.log
  refine ⟨if ok then 0 else 1, issued, by rw [initIpmi, initIpmiLoop_eq, run], by split <;> simp, ?_, ?_, ?_⟩
  · exact attemptLoop_length_le (ipmiPass_length_le h) run
  · have issues := @attemptLoop_forall (ipmiPass h) attempts h.log _ (ipmiPass_issues h)
    rwa [run] at issues
  obtain ⟨before, rfl, outcome⟩ := attemptLoop_last (by decide) run
  obtain ⟨kd, okd, issd, dev⟩ := attemptLoop_eta (devIntfPass ipmiKo h) attempts (h.log ++ before)
  cases okd
  · -- The device interface never came up: the last pass ended with its unloads.
    rw [ipmiPass_down dev] at outcome ⊢
    subst outcome
    obtain ⟨b, rfl, missed⟩ := attemptLoop_last (by decide) dev
    have unloads : (devIntfPass ipmiKo h (h.log ++ before ++ b)).2 = ipmiKo ++ ipmiUnloads ipmiKo := by
      revert missed; unfold devIntfPass Pass.fixed; split <;> simp
    have ended : ipmiKo ++ ipmiUnloads ipmiKo = (ipmiKo ++ ipmiUnloads ipmiKo).dropLast ++ ["modprobe -rq ipmi_msghandler"] := by
      decide
    rw [unloads, ended, ← List.append_assoc, ← List.append_assoc, endsWithPassedProbe_iff]
    simp [oemCmd]
  · obtain ⟨ko, oko, isso, oem⟩ := attemptLoop_eta (oemCmdPass h) attempts (h.log ++ before ++ issd)
    rw [ipmiPass_up dev oem] at outcome ⊢
    subst outcome
    obtain ⟨b, rfl, last⟩ := attemptLoop_last (by decide) oem
    rw [oemCmdPass_issues, ← List.append_assoc, ← List.append_assoc, endsWithPassedProbe_iff, ← last]
    simp only [oemCmdPass, Pass.fixed, List.append_assoc, true_and]
    split <;> simp_all

end AcctonAs9817.Util
