import AcctonAs9817.Python.Str

set_option autoImplicit false

namespace AcctonAs9817.SonicPlatform

open Python

def fpgaPciePath : String := "/sys/devices/platform/as9817_32_fpga/"
def portStart : Nat := 1
def portEnd : Nat := 34

def sfpTypeCodeList : List UInt8 := [0x03, 0x0b]
def qsfpTypeCodeList : List UInt8 := [0x0c, 0x0d, 0x11, 0xe1]
def qsfpDdTypeCodeList : List UInt8 := [0x18, 0x1E]
def osfpTypeCodeList : List UInt8 := [0x19]

inductive SfpType
  | sfp
  | qsfp
  | osfp
  | qsfpDd
  deriving DecidableEq, Repr

def updateDone : String := "Done"
def eepromDataNotReady : String := "eeprom not ready"
def unknownSfpTypeId : String := "unknow sfp ID"

def portToI2cMapping : List (Nat × Nat) :=
  [(1, 2), (2, 3), (3, 4), (4, 5),
    (5, 6), (6, 7), (7, 8), (8, 9),
    (9, 10), (10, 11), (11, 12), (12, 13),
    (13, 14), (14, 15), (15, 16), (16, 17),
    (17, 18), (18, 19), (19, 20), (20, 21),
    (21, 22), (22, 23), (23, 24), (24, 25),
    (25, 26), (26, 27), (27, 28), (28, 29),
    (29, 30), (30, 31), (31, 32), (32, 33),
    (33, 34), (34, 35)]

def eepromPath (bus : Nat) : String := "/sys/bus/i2c/devices/" ++ toString bus ++ "-0050/eeprom"

def portToEepromMapping : List (Nat × String) :=
  (List.range (portEnd + 1 - portStart)).filterMap fun i =>
    (portToI2cMapping.lookup (portStart + i)).map fun bus => (portStart + i, eepromPath bus)

structure XcvrApi where
  getLpmode : Bool
  setLpmode : Bool → Bool
  txDisable : Bool → Bool

/-- The answers of the Sfp's collaborators during one call: APIHelper's sysfs text files, the
module EEPROM as read_eeprom sees it, and get_xcvr_api. -/
structure Platform where
  readTxtFile : String → Option String
  writeTxtFile : String → Nat → Bool
  eeprom : String → Nat → Nat → Option (List UInt8)
  xcvrApi : Option XcvrApi

structure Sfp where
  portNum : Nat
  name : String
  sfpType : SfpType

/-- The first code point of each run of ten decimal digits, zero to nine, that `int()` reads (the
Unicode 14.0 table of CPython 3.11). -/
def decimalZeros : List Nat :=
  [0x30, 0x660, 0x6f0, 0x7c0, 0x966, 0x9e6, 0xa66, 0xae6, 0xb66, 0xbe6, 0xc66, 0xce6, 0xd66, 0xde6, 0xe50,
    0xed0, 0xf20, 0x1040, 0x1090, 0x17e0, 0x1810, 0x1946, 0x19d0, 0x1a80, 0x1a90, 0x1b50, 0x1bb0, 0x1c40,
    0x1c50, 0xa620, 0xa8d0, 0xa900, 0xa9d0, 0xa9f0, 0xaa50, 0xabf0, 0xff10, 0x104a0, 0x10d30, 0x11066,
    0x110f0, 0x11136, 0x111d0, 0x112f0, 0x11450, 0x114d0, 0x11650, 0x116c0, 0x11730, 0x118e0, 0x11950,
    0x11c50, 0x11d50, 0x11da0, 0x16a60, 0x16ac0, 0x16b50, 0x1d7ce, 0x1d7d8, 0x1d7e2, 0x1d7ec, 0x1d7f6,
    0x1e140, 0x1e2f0, 0x1e950, 0x1fbf0]

def decimalValue (c : Char) : Option Nat :=
  (decimalZeros.find? fun first => first ≤ c.toNat ∧ c.toNat < first + 10).map (c.toNat - ·)

def digitsFrom (acc : Nat) : List Char → Option Nat
  | [] => some acc
  | '_' :: c :: rest => (decimalValue c).bind fun d => digitsFrom (10 * acc + d) rest
  | c :: rest => (decimalValue c).bind fun d => digitsFrom (10 * acc + d) rest

/-- int(val, 10) on what read_txt_file returns: optional blanks, an optional sign and decimal digits. -/
def digitsValue : List Char → Option Nat
  | [] => none
  | c :: rest => (decimalValue c).bind fun d => digitsFrom d rest

def stripSpace (chars : List Char) : List Char :=
  ((chars.dropWhile isSpace).reverse.dropWhile isSpace).reverse

def pyInt10 (val : String) : Except PyExc Int :=
  match stripSpace val.data with
  | '-' :: digits => match digitsValue digits with
    | some n => .ok (-n)
    | none => .error .valueError
  | '+' :: digits => match digitsValue digits with
    | some n => .ok n
    | none => .error .valueError
  | digits => match digitsValue digits with
    | some n => .ok n
    | none => .error .valueError

def presentPath (portNum : Nat) : String := fpgaPciePath ++ "/module_present_" ++ toString portNum
def resetPath (portNum : Nat) : String := fpgaPciePath ++ "module_reset_" ++ toString portNum
/-- get_lpmode reads the node through '/module_lp_mode_', set_lpmode writes it through 'module_lp_mode_'. -/
def getLpmodePath (portNum : Nat) : String := fpgaPciePath ++ "/module_lp_mode_" ++ toString portNum
def setLpmodePath (portNum : Nat) : String := fpgaPciePath ++ "module_lp_mode_" ++ toString portNum
def txdisablePath (portNum : Nat) : String := fpgaPciePath ++ "module_tx_disable_" ++ toString portNum

def readFlag (p : Platform) (path : String) : Except PyExc Bool :=
  match p.readTxtFile path with
  | some val => (· == 1) <$> pyInt10 val
  | none => .ok false

def NodesHoldBits (p : Platform) : Prop :=
  ∀ path, p.readTxtFile path = none ∨ p.readTxtFile path = some "0" ∨ p.readTxtFile path = some "1"

theorem readFlag_ok (p : Platform) (bits : NodesHoldBits p) (path : String) :
    ∃ b, readFlag p path = .ok b := by
  rcases bits path with missing | zero | one
  · exact ⟨false, by simp [readFlag, missing]⟩
  · exact ⟨false, by simp [readFlag, zero]; rfl⟩
  · exact ⟨true, by simp [readFlag, one]; rfl⟩

end AcctonAs9817.SonicPlatform
