import AcctonAs9817.Python.Lex
import AcctonAs9817.Util.I2cTree
import AcctonAs9817.Util.Threshold

set_option autoImplicit false

namespace AcctonAs9817.Util

open AcctonAs9817.Python

/-- looking_for_thermal_code cut around the two literals its fields stand in. -/
def lookupLines : String :=
  "thermal = None\n" ++
  "all_thermals = chassis.get_all_thermals()\n" ++
  "for psu in chassis.get_all_psus():\n" ++
  "    all_thermals += psu.get_all_thermals()\n" ++
  "for tmp in all_thermals:\n" ++
  "    if "

def lookupPrint : String :=
  " == tmp.get_name():\n" ++
  "        thermal = tmp\n" ++
  "        break\n" ++
  "if thermal == None:\n" ++
  "    print("

def lookupExit : String :=
  ")\n" ++
  "    exit(1)\n\n"

def setHead (method : String) : String := "try:\n    if thermal." ++ method ++ "("

def setMiddle : String := ") is False:\n        print('"

def setTail (method what : String) : String :=
  ": " ++ method ++ " failure!')\n" ++
  "        exit(1)\n" ++
  "except NotImplementedError:\n" ++
  "    print('Not implement the " ++ method ++ " method!')\n" ++
  "print('Apply the new " ++ what ++ " successfully.')\n" ++
  "\n"

theorem lookingForThermalCode_fields :
    lookingForThermalCode =
      (lookupLines ++ "'") ++ "{}" ++ ("'" ++ lookupPrint ++ "'") ++ "{}" ++ (" not found!'" ++ lookupExit) := by
  simp only [lookingForThermalCode, lookupLines, lookupPrint, lookupExit, String.append_assoc]
  rfl

theorem setHighThresholdCode_fields :
    setHighThresholdCode =
      setHead "set_high_threshold" ++ "{}" ++ setMiddle ++ "{}" ++ setTail "set_high_threshold" "high threshold" := by
  rfl

set_option maxRecDepth 2000 in
theorem setHighCritThresholdCode_fields :
    setHighCritThresholdCode =
      setHead "set_high_critical_threshold" ++ "{}" ++ setMiddle ++ "{}" ++
        setTail "set_high_critical_threshold" "high critical threshold" := by
  rfl

def lookupCode (name : String) : String :=
  lookupLines ++ "'" ++ name ++ "'" ++ lookupPrint ++ "'" ++ name ++ " not found!'" ++ lookupExit

theorem allCode_eq (name code : String) :
    allCode name code = .ok (initChassisCode ++ lookupCode name ++ code) := by
  rw [allCode, lookingForThermalCode_fields, format_two_fields (by decide) (by decide) (by decide)]
  refine congrArg (fun lookup => format "{}{}{}" [initChassisCode, lookup, code]) ?_ |>.trans
    (format_three_fields _ _ _)
  simp only [lookupCode, String.append_assoc]

def lookupPieces (name : List Char) : List Piece :=
  [.code (initChassisCode ++ lookupLines).data, .literal '\'' name, .code lookupPrint.data,
    .literal '\'' (name ++ " not found!".data), .code lookupExit.data]

theorem lookup_render (name : String) :
    (initChassisCode ++ lookupCode name).data = (lookupPieces name.data).flatMap Piece.render := by
  simp only [lookupPieces, lookupCode, String.data_append, List.flatMap_cons, List.flatMap_nil,
    Piece.render_code, Piece.render_literal, List.append_assoc, List.append_nil]
  rfl

theorem lookup_codeText : CodeText (initChassisCode ++ lookupLines) ∧ CodeText lookupPrint ∧ CodeText lookupExit := by
  simp only [initChassisCode, lookupLines, lookupPrint, lookupExit, codeText_append]
  decide

theorem lookupPieces_readable {name : List Char} (plain : ∀ c ∈ name, LiteralChar '\'' c) :
    Readable (lookupPieces name) := by
  have plainWithText : ∀ c ∈ name ++ " not found!".data, LiteralChar '\'' c :=
    List.forall_mem_append.mpr ⟨plain, by decide⟩
  obtain ⟨codeIf, codePrint, codeExit⟩ := lookup_codeText
  exact .code_cons codeIf (.literal_cons (.inl rfl) plain (.code_cons codePrint
    (.literal_cons (.inl rfl) plainWithText (.code_cons codeExit trivial))))

def getPieces (method : String) : List Piece :=
  [.code ("try:\n" ++
      "    print(thermal." ++ method ++ "())\n" ++
      "    exit(0)\n" ++
      "except NotImplementedError:\n" ++
      "    print(").data,
    .literal '\'' ("Not implement the " ++ method ++ " method!").data,
    .code (")\n" ++
      "    exit(1)").data]

theorem getHighThresholdCode_render :
    getHighThresholdCode.data = (getPieces "get_high_threshold").flatMap Piece.render := rfl

theorem getHighCritThresholdCode_render :
    getHighCritThresholdCode.data = (getPieces "get_high_critical_threshold").flatMap Piece.render := rfl

theorem getPieces_readable {method : String} (code : CodeText method) (plain : LiteralText '\'' method) :
    Readable (getPieces method) := by
  have head : CodeText ("try:\n" ++
      "    print(thermal." ++ method ++ "())\n" ++
      "    exit(0)\n" ++
      "except NotImplementedError:\n" ++
      "    print(") := by
    simp only [codeText_append, code, and_true, true_and]; decide
  have message : LiteralText '\'' ("Not implement the " ++ method ++ " method!") := by
    simp only [literalText_append, plain, and_true, true_and]; decide
  exact .code_cons head (.literal_cons (.inl rfl) message (.code_cons (by decide) trivial))

def setPieces (method what value : String) (thermal : List Char) : List Piece :=
  [.code (setHead method ++ value ++ ") is False:\n" ++
      "        print(").data,
    .literal '\'' (thermal ++ (": " ++ method ++ " failure!").data),
    .code (")\n" ++
      "        exit(1)\n" ++
      "except NotImplementedError:\n" ++
      "    print(").data,
    .literal '\'' ("Not implement the " ++ method ++ " method!").data,
    .code (")\n" ++
      "print(").data,
    .literal '\'' ("Apply the new " ++ what ++ " successfully.").data,
    .code (")\n" ++
      "\n").data]

theorem set_render (method what value thermal : String) :
    (setHead method ++ value ++ setMiddle ++ thermal ++ setTail method what).data =
      (setPieces method what value thermal.data).flatMap Piece.render := by
  simp only [setPieces, setHead, setMiddle, setTail, String.data_append, List.flatMap_cons,
    List.flatMap_nil, Piece.render_code, Piece.render_literal, List.append_assoc, List.append_nil]
  rfl

theorem setPieces_readable {method what value : String} {thermal : List Char} (methodCode : CodeText method)
    (methodPlain : LiteralText '\'' method) (whatPlain : LiteralText '\'' what) (valueCode : CodeText value)
    (plain : ∀ c ∈ thermal, LiteralChar '\'' c) : Readable (setPieces method what value thermal) := by
  have head : CodeText (setHead method ++ value ++ ") is False:\n" ++ "        print(") := by
    simp only [setHead, codeText_append, methodCode, valueCode, and_true, true_and]; decide
  have failure : ∀ c ∈ thermal ++ (": " ++ method ++ " failure!").data, LiteralChar '\'' c :=
    List.forall_mem_append.mpr ⟨plain, by
      show LiteralText '\'' _
      simp only [literalText_append, methodPlain, and_true, true_and]; decide⟩
  have notImplemented : LiteralText '\'' ("Not implement the " ++ method ++ " method!") := by
    simp only [literalText_append, methodPlain, and_true, true_and]; decide
  have applied : LiteralText '\'' ("Apply the new " ++ what ++ " successfully.") := by
    simp only [literalText_append, whatPlain, and_true, true_and]; decide
  exact .code_cons head (.literal_cons (.inl rfl) failure (.code_cons (by decide)
    (.literal_cons (.inl rfl) notImplemented (.code_cons (by decide)
    (.literal_cons (.inl rfl) applied (.code_cons (by decide) trivial))))))

section Plan

variable {F : Type}

def SetCommand.pieces (str : F → String) (thermal : List Char) : SetCommand F → List Piece
  | .setHighThreshold value => setPieces "set_high_threshold" "high threshold" (str value) thermal
  | .setHighCriticalThreshold value =>
    setPieces "set_high_critical_threshold" "high critical threshold" (str value) thermal

theorem SetCommand.pieces_readable (str : F → String) (numeric : ∀ value, CodeText (str value))
    {thermal : List Char} (plain : ∀ c ∈ thermal, LiteralChar '\'' c) (cmd : SetCommand F) :
    Readable (cmd.pieces str thermal) := by
  cases cmd <;> exact setPieces_readable (by decide) (by decide) (by decide) (numeric _) plain

end Plan

theorem format_setHighThresholdCode (value thermal : String) :
    format setHighThresholdCode [value, thermal] =
      .ok ⟨(setPieces "set_high_threshold" "high threshold" value thermal.data).flatMap Piece.render⟩ := by
  rw [setHighThresholdCode_fields, format_two_fields (by decide) (by decide) (by decide), ← set_render]

theorem format_setHighCritThresholdCode (value thermal : String) :
    format setHighCritThresholdCode [value, thermal] =
      .ok ⟨(setPieces "set_high_critical_threshold" "high critical threshold" value thermal.data).flatMap
        Piece.render⟩ := by
  rw [setHighCritThresholdCode_fields, format_two_fields (by decide) (by decide) (by decide), ← set_render]

section Sent

variable {F : Type} (floats : FloatText F) [LE F] [DecidableRel (α := F) (· ≤ ·)]
  {thermal code : String} {args : ThresholdArgs F} {p p' : Pmon}

theorem highThresholdSection_render (ok : highThresholdSection floats thermal args p = (.ok code, p')) :
    code.data = ((args.highThreshold.toList.map SetCommand.setHighThreshold).flatMap
      (SetCommand.pieces floats.str thermal.data)).flatMap Piece.render := by
  obtain ⟨added, unset⟩ := highThresholdSection_ok floats ok
  cases given : args.highThreshold with
  | none => simp [(unset given).1]
  | some high =>
    have formatted := (added high given).2.2.2
    rw [format_setHighThresholdCode] at formatted
    simp [← Except.ok.inj formatted, SetCommand.pieces]

theorem highCritThresholdSection_render (ok : highCritThresholdSection floats thermal args p = (.ok code, p')) :
    code.data = ((args.highCritThreshold.toList.map SetCommand.setHighCriticalThreshold).flatMap
      (SetCommand.pieces floats.str thermal.data)).flatMap Piece.render := by
  obtain ⟨added, unset⟩ := highCritThresholdSection_ok floats ok
  cases given : args.highCritThreshold with
  | none => simp [(unset given).1]
  | some crit =>
    have formatted := (added crit given).2.2
    rw [format_setHighCritThresholdCode] at formatted
    simp [← Except.ok.inj formatted, SetCommand.pieces]

theorem doThreshold_sent_render {program output : String}
    (sent : doThreshold floats args p = (.ok (.sent program output), p')) :
    ∃ thermal, args.thermal = some thermal ∧ program.data =
      (lookupPieces thermal.data ++ (thresholdPlan args).flatMap (SetCommand.pieces floats.str thermal.data)).flatMap
        Piece.render := by
  obtain ⟨thermal, named, high, crit, _, _, highOk, critOk, -, built, -⟩ := doThreshold_sent floats sent
  refine ⟨thermal, named, ?_⟩
  rw [allCode_eq, Except.ok.injEq] at built
  rw [← built, String.data_append, lookup_render, String.data_append, String.data_append,
    highThresholdSection_render floats highOk, highCritThresholdSection_render floats critOk]
  simp [thresholdPlan, List.flatMap_append]

end Sent

theorem program_render {name code : String} {pieces : List Piece} (rendered : code.data = pieces.flatMap Piece.render) :
    initChassisCode ++ lookupCode name ++ code = ⟨(lookupPieces name.data ++ pieces).flatMap Piece.render⟩ :=
  String.ext (by rw [String.data_append, lookup_render, rendered, List.flatMap_append])

section Quoted

variable {F : Type} [LE F] [DecidableRel (α := F) (· ≤ ·)]

theorem doThreshold_program_tokens {name : String} (plain : LiteralText '\'' name) {floats : FloatText F}
    (numeric : ∀ value, CodeText (floats.str value)) {args : ThresholdArgs F} (named : args.thermal = some name)
    {p p' : Pmon} {program output : String} (sent : doThreshold floats args p = (.ok (.sent program output), p')) :
    tokenize program = some ((lookupPieces name.data ++
      (thresholdPlan args).flatMap (SetCommand.pieces floats.str name.data)).flatMap Piece.tokens) := by
  obtain ⟨thermal, named', rendered⟩ := doThreshold_sent_render floats sent
  obtain rfl : thermal = name := Option.some.inj (named'.symm.trans named)
  rw [show program = ⟨program.data⟩ from rfl, rendered]
  exact tokenize_render ((lookupPieces_readable plain).append (Readable.flatMap fun cmd _ =>
    cmd.pieces_readable floats.str numeric plain))

theorem thresholdPrograms_quote_thermal_name {name : String} (plain : LiteralText '\'' name) :
    (∃ program, allCode name getHighThresholdCode = .ok program ∧
      tokenize program = some ((lookupPieces name.data ++ getPieces "get_high_threshold").flatMap Piece.tokens)) ∧
    (∃ program, allCode name getHighCritThresholdCode = .ok program ∧
      tokenize program =
        some ((lookupPieces name.data ++ getPieces "get_high_critical_threshold").flatMap Piece.tokens)) ∧
    ∀ (floats : FloatText F) (args : ThresholdArgs F) (p p' : Pmon) (program output : String),
      (∀ value, CodeText (floats.str value)) → args.thermal = some name →
      doThreshold floats args p = (.ok (.sent program output), p') →
      tokenize program = some ((lookupPieces name.data ++
        (thresholdPlan args).flatMap (SetCommand.pieces floats.str name.data)).flatMap Piece.tokens) := by
  have lookup := lookupPieces_readable plain
  refine ⟨⟨_, allCode_eq _ _, ?_⟩, ⟨_, allCode_eq _ _, ?_⟩,
    fun floats args p p' program output numeric named sent => doThreshold_program_tokens plain numeric named sent⟩
  · rw [program_render getHighThresholdCode_render]
    exact tokenize_render (lookup.append (getPieces_readable (by decide) (by decide)))
  · rw [program_render getHighCritThresholdCode_render]
    exact tokenize_render (lookup.append (getPieces_readable (by decide) (by decide)))

end Quoted

theorem wholeDegrees_codeText (value : Nat) : CodeText (wholeDegrees.str value) := fun c listed =>
  (by decide : ∀ c ∈ "0123456789abcdef*".data, CodeChar c) c (toString_chars value c listed)

theorem coolerArgs_program_quotes_name :
    ∃ program p', doThreshold wholeDegrees coolerArgs coolerPmon = (.ok (.sent program "90"), p') ∧
      tokenize program = some ((lookupPieces "Temp sensor 1".data ++
        (thresholdPlan coolerArgs).flatMap (SetCommand.pieces wholeDegrees.str "Temp sensor 1".data)).flatMap
          Piece.tokens) :=
  let ⟨program, p', sent⟩ := coolerArgs_sent
  ⟨program, p', sent, (thresholdPrograms_quote_thermal_name (by decide)).2.2 wholeDegrees coolerArgs coolerPmon p'
    program "90" wholeDegrees_codeText rfl sent⟩

/-- A name that closes the literal it is put in: the lookup becomes `if '' or 1 or '' == ...`,
true of every thermal. -/
def injectedName : String := "' or 1 or '"

def injectedLookupPieces : List Piece :=
  [.code (initChassisCode ++ lookupLines).data, .literal '\'' [], .code " or 1 or ".data, .literal '\'' [], .code lookupPrint.data,
    .literal '\'' [], .code " or 1 or ".data, .literal '\'' " not found!".data, .code lookupExit.data]

theorem getHighThreshold_program_runs_injected_code :
    ∃ program, allCode injectedName getHighThresholdCode = .ok program ∧
      tokenize program = some ((injectedLookupPieces ++ getPieces "get_high_threshold").flatMap Piece.tokens) ∧
      tokenize program ≠
        some ((lookupPieces injectedName.data ++ getPieces "get_high_threshold").flatMap Piece.tokens) := by
  have rendered : initChassisCode ++ lookupCode injectedName ++ getHighThresholdCode =
      ⟨(injectedLookupPieces ++ getPieces "get_high_threshold").flatMap Piece.render⟩ := by
    refine String.ext ?_
    rw [String.data_append, getHighThresholdCode_render, List.flatMap_append]
    simp only [injectedLookupPieces, injectedName, lookupCode, String.data_append, List.flatMap_cons,
      List.flatMap_nil, Piece.render_code, Piece.render_literal, List.append_assoc, List.append_nil]
    rfl
  obtain ⟨codeIf, codePrint, codeExit⟩ := lookup_codeText
  have readable : Readable injectedLookupPieces :=
    .code_cons codeIf (.literal_cons (.inl rfl) (by decide) (.code_cons (by decide)
      (.literal_cons (.inl rfl) (by decide) (.code_cons codePrint (.literal_cons (.inl rfl) (by decide)
      (.code_cons (by decide) (.literal_cons (.inl rfl) (by decide) (.code_cons codeExit trivial))))))))
  have tokens := tokenize_render (readable.append (@getPieces_readable "get_high_threshold" (by decide) (by decide)))
  rw [← rendered] at tokens
  refine ⟨_, allCode_eq _ _, tokens, fun same => ?_⟩
  have differ := Option.some.inj (tokens.symm.trans same)
  simp [injectedLookupPieces, lookupPieces, Piece.tokens, injectedName] at differ

end AcctonAs9817.Util
