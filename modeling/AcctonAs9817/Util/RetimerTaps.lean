import AcctonAs9817.Util.RetimerScript
import AcctonAs9817.Util.I2cTree

set_option autoImplicit false

namespace AcctonAs9817.Util

open Python

/-! What the DF810 receives from the retimer helpers: i2cset reads its register and value arguments as
`0x`-prefixed hexadecimal numbers, and a value is stored only when it is a byte. -/

def hexDigitValue (c : Char) : Option Nat :=
  if '0' ≤ c ∧ c ≤ '9' then some (c.toNat - '0'.toNat)
  else if 'a' ≤ c ∧ c ≤ 'f' then some (c.toNat - 'a'.toNat + 10)
  else none

def hexStep (acc : Nat) (c : Char) : Option Nat := (16 * acc + ·) <$> hexDigitValue c

def hexValue (digits : List Char) : Option Nat := digits.foldlM hexStep 0

def parseHex (s : String) : Option Nat :=
  match s.data with
  | '0' :: 'x' :: d :: ds => hexValue (d :: ds)
  | _ => none

def isByte (s : String) : Bool := (parseHex s).any (· < 256)

theorem hexDigitValue_digitChar {d : Nat} (small : d < 16) : hexDigitValue (Nat.digitChar d) = some d := by
  have each : ∀ d < 16, hexDigitValue (Nat.digitChar d) = some d := by decide
  exact each d small

@[simp] theorem hexStep_digitChar (acc n : Nat) : hexStep acc (Nat.digitChar (n % 16)) = some (16 * acc + n % 16) := by
  simp [hexStep, hexDigitValue_digitChar (Nat.mod_lt n (by decide))]

theorem foldlM_hexStep_toDigitsCore : ∀ (fuel n : Nat), n < fuel → ∀ ds : List Char,
    (Nat.toDigitsCore 16 fuel n ds).foldlM hexStep 0 = ds.foldlM hexStep n
  | 0, _, empty, _ => absurd empty (Nat.not_lt_zero _)
  | fuel + 1, n, enough, ds => by
    simp only [Nat.toDigitsCore]
    split
    next top =>
      rw [List.foldlM_cons, hexStep_digitChar, Nat.mod_eq_of_lt (show n < 16 by omega), Nat.mul_zero, Nat.zero_add]
      rfl
    next more =>
      rw [foldlM_hexStep_toDigitsCore fuel (n / 16) (by omega), List.foldlM_cons, hexStep_digitChar,
        Nat.div_add_mod]
      rfl

theorem hexValue_padZeros (width : Nat) (ds : List Char) : hexValue (padZeros width ds) = hexValue ds := by
  have zero : hexStep 0 '0' = some 0 := rfl
  simp only [hexValue, padZeros]
  induction width - ds.length with
  | zero => rfl
  | succ k ih => rw [List.replicate_succ, List.cons_append, List.foldlM_cons, zero]; exact ih

theorem parseHex_hexByte (v : Nat) : parseHex (hexByte v) = some v := by
  have nonempty : padZeros 2 (Nat.toDigits 16 v) ≠ [] := fun empty => by
    have length := congrArg List.length empty
    simp only [padZeros, List.length_append, List.length_replicate, List.length_nil] at length
    omega
  obtain ⟨d, ds, digits⟩ := List.exists_cons_of_ne_nil nonempty
  have written : (hexByte v).data = '0' :: 'x' :: d :: ds := by
    simp [hexByte, format02x, Int.not_lt.mpr (Int.ofNat_nonneg v), digits]
  rw [parseHex, written]
  show hexValue (d :: ds) = some v
  rw [← digits, hexValue_padZeros, hexValue, Nat.toDigits,
    foldlM_hexStep_toDigitsCore (v + 1) v (Nat.lt_succ_self v)]
  rfl

theorem isByte_hexByte {v : Nat} (small : v < 256) : isByte (hexByte v) := by
  simp [isByte, parseHex_hexByte, small]

theorem isByte_hexByte_int {v : Int} (range : 0 ≤ v ∧ v < 256) : isByte (hexByte v) := by
  obtain ⟨n, rfl⟩ := Int.eq_ofNat_of_zero_le range.1
  exact isByte_hexByte (by omega)

theorem parseHex_hexByte_neg {v : Int} (negative : v < 0) : parseHex (hexByte v) = none := by
  have minus : hexDigitValue '-' = none := by decide
  simp [parseHex, hexByte, format02x, negative, hexValue, hexStep, List.foldlM, minus]

def lastWrite (register : String) (writes : List (String × String)) : Option String :=
  writes.foldl (fun last w => if w.1 = register then some w.2 else last) none

/-- What a cursor register's byte means: bit 6 is the sign, set for a tap at or below zero, and the low
six bits are the magnitude. Bit 7, which df810_txfir_set sets for a positive main cursor, adds nothing. -/
def tapOfByte (b : Nat) : Int := if b / 64 % 2 = 1 then -((b % 64 : Nat) : Int) else ((b % 64 : Nat) : Int)

def readTaps (writes : List (String × String)) : Option (Nat × Int × Int × Int) := do
  let channel ← (lastWrite "0xfc" writes).bind parseHex
  let pre ← (lastWrite "0x3e" writes).bind parseHex
  let main ← (lastWrite "0x3d" writes).bind parseHex
  let post ← (lastWrite "0x3f" writes).bind parseHex
  pure (channel, tapOfByte pre, tapOfByte main, tapOfByte post)

theorem df810TxfirSetValues_eq (offset : Nat) (pre main post : Int) :
    df810TxfirSetValues offset pre main post =
      [("0xff", "0x01"), ("0xfc", hexByte (1 <<< offset : Nat)), ("0x3d", "0x80"), ("0x3d", "0x80"),
        ("0x3f", "0x40"), ("0x3e", "0x40"), ("0x3d", hexByte (Int.lor main (if main > 0 then 0x80 else 0x40))),
        ("0x3f", hexByte (if post ≤ 0 then Int.lor (-post) 0x40 else Int.lor post 0x00)),
        ("0x3e", hexByte (if pre ≤ 0 then Int.lor (-pre) 0x40 else Int.lor pre 0x00))] := by
  by_cases preSign : pre ≤ 0 <;> by_cases postSign : post ≤ 0 <;> simp [df810TxfirSetValues, preSign, postSign]

theorem lor_sixtyFour : ∀ n < 64, n ||| 64 = n + 64 := by decide

theorem lor_oneTwentyEight : ∀ n < 64, n ||| 128 = n + 128 := by decide

theorem signedCursor_byte {t : Int} (range : -64 < t ∧ t < 64) :
    ∃ b : Nat, b < 256 ∧ tapOfByte b = t ∧ (if t ≤ 0 then Int.lor (-t) 0x40 else Int.lor t 0x00) = b := by
  obtain ⟨n, rfl | rfl⟩ := Int.eq_nat_or_neg t
  · rcases Nat.eq_zero_or_pos n with rfl | positive
    · exact ⟨64, by decide, by decide, rfl⟩
    · refine ⟨n, by omega, ?_, ?_⟩
      · simp only [tapOfByte]
        split <;> omega
      · have small : n < 64 := by omega
        simp only [show ¬ (n : Int) ≤ 0 by omega, if_false]
        exact congrArg Int.ofNat (Nat.or_zero n)
  · have small : n < 64 := by omega
    refine ⟨n + 64, by omega, ?_, ?_⟩
    · simp only [tapOfByte]
      split <;> omega
    · simp only [show -(n : Int) ≤ 0 by omega, if_true, neg_neg]
      exact congrArg Int.ofNat (lor_sixtyFour n small)

theorem mainCursor_byte {t : Int} (range : 0 ≤ t ∧ t < 64) :
    ∃ b : Nat, b < 256 ∧ tapOfByte b = t ∧ Int.lor t (if t > 0 then 0x80 else 0x40) = b := by
  obtain ⟨n, rfl⟩ := Int.eq_ofNat_of_zero_le range.1
  rcases Nat.eq_zero_or_pos n with rfl | positive
  · exact ⟨64, by decide, by decide, rfl⟩
  · have small : n < 64 := by omega
    refine ⟨n + 128, by omega, ?_, ?_⟩
    · simp only [tapOfByte]
      split <;> omega
    · simp only [show (n : Int) > 0 by omega, if_true]
      exact congrArg Int.ofNat (lor_oneTwentyEight n small)

theorem channel_byte {offset : Nat} (channel : offset < 8) : 1 <<< offset < 256 := by
  rw [Nat.one_shiftLeft]
  calc 2 ^ offset < 2 ^ 8 := Nat.pow_lt_pow_right (by decide) channel
    _ = 256 := rfl

theorem tapOfByte_bounds (b : Nat) : -64 < tapOfByte b ∧ tapOfByte b < 64 := by
  unfold tapOfByte
  split <;> omega

theorem readTaps_bounds {writes : List (String × String)} {channel : Nat} {pre main post : Int}
    (read : readTaps writes = some (channel, pre, main, post)) :
    (-64 < pre ∧ pre < 64) ∧ (-64 < main ∧ main < 64) ∧ (-64 < post ∧ post < 64) := by
  simp only [readTaps, Option.bind_eq_bind, Option.bind_eq_some, Option.pure_def, Option.some.injEq,
    Prod.mk.injEq] at read
  obtain ⟨_, _, preByte, _, mainByte, _, postByte, _, -, rfl, rfl, rfl⟩ := read
  exact ⟨tapOfByte_bounds preByte, tapOfByte_bounds mainByte, tapOfByte_bounds postByte⟩

theorem readTaps_df810TxfirSetValues (offset : Nat) {pre main post : Int} (preRange : -64 < pre ∧ pre < 64)
    (mainRange : 0 ≤ main ∧ main < 64) (postRange : -64 < post ∧ post < 64) :
    readTaps (df810TxfirSetValues offset pre main post) = some (1 <<< offset, pre, main, post) := by
  obtain ⟨preByte, -, preRead, preWritten⟩ := signedCursor_byte preRange
  obtain ⟨mainByte, -, mainRead, mainWritten⟩ := mainCursor_byte mainRange
  obtain ⟨postByte, -, postRead, postWritten⟩ := signedCursor_byte postRange
  simp [readTaps, lastWrite, df810TxfirSetValues_eq, preWritten, mainWritten, postWritten, parseHex_hexByte,
    preRead, mainRead, postRead]

theorem mainCursor_unread {main : Int} (negative : main < 0) (offset : Nat) (pre post : Int) :
    (lastWrite "0x3d" (df810TxfirSetValues offset pre main post)).bind parseHex = none := by
  have stillNegative : Int.lor main 0x40 < 0 := by
    cases main with
    | ofNat n => exact absurd negative (Int.not_lt.mpr (Int.ofNat_nonneg n))
    | negSucc n => exact Int.negSucc_lt_zero _
  have unsigned : ¬ main > 0 := by omega
  simp [lastWrite, df810TxfirSetValues_eq, unsigned, parseHex_hexByte_neg stillNegative]

theorem readTaps_main_nonneg {offset : Nat} {pre main post : Int}
    (read : (readTaps (df810TxfirSetValues offset pre main post)).isSome) : 0 ≤ main := by
  refine Int.not_lt.mp fun negative => ?_
  simp [readTaps, mainCursor_unread negative] at read

theorem readTaps_df810TxfirSetValues_iff (offset : Nat) (pre main post : Int) :
    readTaps (df810TxfirSetValues offset pre main post) = some (1 <<< offset, pre, main, post) ↔
      (-64 < pre ∧ pre < 64) ∧ (0 ≤ main ∧ main < 64) ∧ (-64 < post ∧ post < 64) := by
  refine ⟨fun read => ?_, fun ⟨preRange, mainRange, postRange⟩ =>
    readTaps_df810TxfirSetValues offset preRange mainRange postRange⟩
  obtain ⟨preRange, mainRange, postRange⟩ := readTaps_bounds read
  exact ⟨preRange, ⟨readTaps_main_nonneg (by rw [read]; rfl), mainRange.2⟩, postRange⟩

theorem df810TxfirSetValues_negative_main {main : Int} (negative : main < 0) (offset : Nat) (pre post : Int) :
    (lastWrite "0x3d" (df810TxfirSetValues offset pre main post)).bind parseHex = none ∧
      readTaps (df810TxfirSetValues offset pre main post) = none :=
  ⟨mainCursor_unread negative offset pre post, by simp [readTaps, mainCursor_unread negative]⟩

theorem df810TxfirSetValues_main_minusThree :
    (-3 : Int) < 0 ∧ ((lastWrite "0x3d" (df810TxfirSetValues 1 0 (-3) 0)).bind parseHex = none ∧
      readTaps (df810TxfirSetValues 1 0 (-3) 0) = none) :=
  ⟨by decide, df810TxfirSetValues_negative_main (by decide) 1 0 0⟩

theorem df810TxfirSetValues_bytes {offset : Nat} (channel : offset < 8) {pre main post : Int}
    (preRange : -64 < pre ∧ pre < 64) (mainRange : 0 ≤ main ∧ main < 64) (postRange : -64 < post ∧ post < 64) :
    ∀ w ∈ df810TxfirSetValues offset pre main post, isByte w.1 ∧ isByte w.2 := by
  obtain ⟨_, preSmall, -, preWritten⟩ := signedCursor_byte preRange
  obtain ⟨_, mainSmall, -, mainWritten⟩ := mainCursor_byte mainRange
  obtain ⟨_, postSmall, -, postWritten⟩ := signedCursor_byte postRange
  simp only [df810TxfirSetValues_eq, preWritten, mainWritten, postWritten, List.forall_mem_cons,
    List.not_mem_nil, false_implies, implies_true, and_true, isByte_hexByte preSmall, isByte_hexByte mainSmall,
    isByte_hexByte postSmall, isByte_hexByte (channel_byte channel)]
  decide

theorem df810CdrBwSetValues_bytes {offset : Nat} (channel : offset < 8) {param1 param2 : Int}
    (range1 : 0 ≤ param1 ∧ param1 < 256) (range2 : 0 ≤ param2 ∧ param2 < 256) :
    ∀ w ∈ df810CdrBwSetValues offset param1 param2, isByte w.1 ∧ isByte w.2 := by
  simp only [df810CdrBwSetValues, List.forall_mem_cons, List.not_mem_nil, false_implies, implies_true, and_true,
    isByte_hexByte (channel_byte channel), isByte_hexByte_int range1, isByte_hexByte_int range2]
  decide

def WritesBytes (cmd : String) : Prop :=
  ∃ device register value, cmd = i2cset tiMuxI2cBus device register value ∧ isByte register ∧ isByte value

theorem writeCommands_writesBytes {device : String} {values : List (String × String)}
    (bytes : ∀ w ∈ values, isByte w.1 ∧ isByte w.2) : ∀ cmd ∈ writeCommands tiMuxI2cBus device values, WritesBytes cmd := by
  intro cmd listed
  obtain ⟨⟨register, value⟩, written, rfl⟩ := List.mem_map.mp listed
  exact ⟨device, register, value, rfl, bytes _ written⟩

theorem crossPointCommands_writesBytes : ∀ cmd ∈ crossPointCommands, WritesBytes cmd := by
  have values : ∀ w ∈ crossPointValues, isByte w.1 ∧ isByte w.2 := by decide
  intro cmd listed
  rcases List.mem_cons.mp listed with rfl | channel
  · exact ⟨_, _, _, rfl, by decide, by decide⟩
  · obtain ⟨offset, ranged, selected⟩ := List.mem_flatMap.mp channel
    rcases List.mem_cons.mp selected with rfl | written
    · exact ⟨_, _, _, rfl, by decide, isByte_hexByte (channel_byte (List.mem_range.mp ranged))⟩
    · exact writeCommands_writesBytes values cmd written

theorem channelHelpers_writeBytes (dest speed : Int) : ∀ cmds ∈ channelHelpers dest speed, ∀ cmd ∈ cmds, WritesBytes cmd := by
  have txfir : ∀ {offset : Nat} {pre main post : Int}, offset < 8 → -64 < pre ∧ pre < 64 → 0 ≤ main ∧ main < 64 →
      -64 < post ∧ post < 64 → ∀ cmd ∈ txfirCommands offset pre main post, WritesBytes cmd :=
    fun channel preRange mainRange postRange =>
      writeCommands_writesBytes (df810TxfirSetValues_bytes channel preRange mainRange postRange)
  have cdr : ∀ offset < 8, ∀ cmd ∈ cdrBwCommands offset 0x24 0xfc, WritesBytes cmd :=
    fun _ channel => writeCommands_writesBytes (df810CdrBwSetValues_bytes channel (by omega) (by omega))
  simp only [channelHelpers, frontTxfirCommands]
  split_ifs <;> simp only [List.forall_mem_cons, List.not_mem_nil, false_implies, implies_true, and_true,
    List.mem_append, or_imp, forall_and, List.mem_singleton, forall_eq, true_and]
  all_goals first
    | exact ⟨txfir (by decide) (by omega) (by omega) (by omega), txfir (by decide) (by omega) (by omega) (by omega),
        txfir (by decide) (by omega) (by omega) (by omega), txfir (by decide) (by omega) (by omega) (by omega),
        cdr 4 (by decide), cdr 6 (by decide)⟩
    | exact ⟨⟨txfir (by decide) (by omega) (by omega) (by omega), txfir (by decide) (by omega) (by omega) (by omega)⟩,
        crossPointCommands_writesBytes⟩
    | exact crossPointCommands_writesBytes

theorem configSfp_writes_bytes (dest speed : Int) (h : Host) :
    ∃ result issued, configSfp dest speed h = (.ok result, h.extend issued) ∧ ∀ cmd ∈ issued, WritesBytes cmd := by
  have configured : ∀ w ∈ configSfpValues speed, isByte w.1 ∧ isByte w.2 := by
    unfold configSfpValues
    split <;> decide
  refine ⟨_, _, configSfp_refines dest speed h, fun cmd listed => ?_⟩
  have scripted := (runScript_sublist _ _ _).subset listed
  simp only [configSfpScript, List.flatMap_cons, List.flatMap_append, List.mem_append, Step.cmds,
    List.flatMap_map, List.mem_flatMap, List.mem_singleton, List.flatMap_nil, List.append_nil] at scripted
  rcases scripted with rfl | written | ⟨cmds, called, inner⟩ | rfl
  · exact ⟨_, _, _, rfl, by decide, by decide⟩
  · exact writeCommands_writesBytes configured cmd written
  · exact channelHelpers_writeBytes dest speed cmds called cmd inner
  · exact ⟨_, _, _, rfl, by decide, by decide⟩

end AcctonAs9817.Util
