import AcctonAs9817.Util.ThermalProgram

set_option autoImplicit false

namespace AcctonAs9817.Util

open AcctonAs9817.Python

section Queries

variable {F : Type} (floats : FloatText F)

theorem getThreshold_run (code name : String) (p : Pmon) :
    getThreshold floats code name p =
      (readThreshold floats (p.answer p.sent (initChassisCode ++ lookupCode name ++ code)).1
          (p.answer p.sent (initChassisCode ++ lookupCode name ++ code)).2,
        p.send (initChassisCode ++ lookupCode name ++ code)) := by
  simp only [getThreshold, allCode_eq]
  rfl

def thresholdQueries (name : String) (args : ThresholdArgs F) : List String :=
  args.highThreshold.toList.map (fun _ => initChassisCode ++ lookupCode name ++ getHighCritThresholdCode) ++
    args.highCritThreshold.toList.map (fun _ => initChassisCode ++ lookupCode name ++ getHighThresholdCode)

variable [LE F] [DecidableRel (α := F) (· ≤ ·)] {name code : String} {args : ThresholdArgs F} {p p' : Pmon}

theorem highThresholdSection_sent (ok : highThresholdSection floats name args p = (.ok code, p')) :
    p'.sent = p.sent ++
      args.highThreshold.toList.map (fun _ => initChassisCode ++ lookupCode name ++ getHighCritThresholdCode) := by
  obtain ⟨added, unset⟩ := highThresholdSection_ok floats ok
  cases given : args.highThreshold with
  | none => simp [(unset given).2]
  | some high => simp [← (added high given).2.1, getHighCritThreshold, getThreshold_run]

theorem highCritThresholdSection_sent (ok : highCritThresholdSection floats name args p = (.ok code, p')) :
    p'.sent = p.sent ++
      args.highCritThreshold.toList.map (fun _ => initChassisCode ++ lookupCode name ++ getHighThresholdCode) := by
  obtain ⟨added, unset⟩ := highCritThresholdSection_ok floats ok
  cases given : args.highCritThreshold with
  | none => simp [(unset given).2]
  | some crit => simp [← (added crit given).1, getHighThreshold, getThreshold_run]

end Queries

section Order

variable {F : Type} [LinearOrder F]

end Order

/-- Code standing between two empty literals in the name: on every thermal it compares, the lookup sets
the critical threshold to 30 and exits with status 1 unless it already reads 30. -/
def injectedCode : String :=
  " or tmp.get_high_critical_threshold() == 30 or tmp.set_high_critical_threshold(30) and exit(1) or "

def injectedCritName : String := "'" ++ injectedCode ++ "'"

def injectedArgs : ThresholdArgs Nat := ⟨false, some injectedCritName, some 85, none⟩

/-- pmon after the query's lookup set the critical threshold to 30 and exited with status 1; the set
program then runs with status 0. -/
def injectedPmon : Pmon := ⟨[], fun sent _ => if sent = [] then (1, "") else (0, "")⟩

def injectedSetPieces : List Piece :=
  [.code (initChassisCode ++ lookupLines).data, .literal '\'' [], .code injectedCode.data, .literal '\'' [],
    .code lookupPrint.data, .literal '\'' [], .code injectedCode.data, .literal '\'' " not found!".data,
    .code lookupExit.data,
    .code (setHead "set_high_threshold" ++ "85" ++ ") is False:\n" ++ "        print(").data,
    .literal '\'' [], .code injectedCode.data, .literal '\'' ": set_high_threshold failure!".data,
    .code (")\n" ++ "        exit(1)\n" ++ "except NotImplementedError:\n" ++ "    print(").data,
    .literal '\'' "Not implement the set_high_threshold method!".data,
    .code (")\n" ++ "print(").data,
    .literal '\'' "Apply the new high threshold successfully.".data,
    .code (")\n" ++ "\n").data]

theorem injectedSetPieces_readable : Readable injectedSetPieces := by
  obtain ⟨codeIf, codePrint, codeExit⟩ := lookup_codeText
  have injected : ∀ c ∈ injectedCode.data, CodeChar c := by decide
  exact .code_cons codeIf (.literal_cons (.inl rfl) (by decide) (.code_cons injected
    (.literal_cons (.inl rfl) (by decide) (.code_cons codePrint (.literal_cons (.inl rfl) (by decide)
    (.code_cons injected (.literal_cons (.inl rfl) (by decide) (.code_cons codeExit (.code_cons (by decide)
    (.literal_cons (.inl rfl) (by decide) (.code_cons injected (.literal_cons (.inl rfl) (by decide)
    (.code_cons (by decide) (.literal_cons (.inl rfl) (by decide) (.code_cons (by decide)
    (.literal_cons (.inl rfl) (by decide) (.code_cons (by decide) trivial)))))))))))))))))

end AcctonAs9817.Util
