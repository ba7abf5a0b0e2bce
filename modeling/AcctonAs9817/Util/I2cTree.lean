import Mathlib.Data.List.Nodup
import Mathlib.Data.Nat.Digits
import AcctonAs9817.Python.Str

set_option autoImplicit false

namespace AcctonAs9817.Util

open Python

/-- What a command asks of the i2c core through `/sys/bus/i2c/devices/i2c-<bus>/new_device`
(`<driver> <addr>` written to it) and `delete_device` (`<addr>` written to it). -/
inductive I2cRequest
  | newDevice (driver addr bus : String)
  | deleteDevice (addr bus : String)
  deriving DecidableEq, Repr

def afterLeading : List Char → List Char → Option (List Char)
  | [], s => some s
  | _ :: _, [] => none
  | c :: cs, d :: ds => if c = d then afterLeading cs ds else none

def i2cBusPath : String := "/sys/bus/i2c/devices/i2c-"

def busOf (node path : String) : Option String :=
  (afterLeading i2cBusPath.data path.data).bind fun rest =>
    (afterLeading ('/' :: node.data).reverse rest.reverse).map fun bus => ⟨bus.reverse⟩

def echoRequest : List String → Option I2cRequest
  | [driver, addr, redirect, path] =>
    if redirect = ">" then (busOf "new_device" path).map (.newDevice driver addr) else none
  | [addr, redirect, path] =>
    if redirect = ">" then (busOf "delete_device" path).map (.deleteDevice addr) else none
  | _ => none

def sysfsRequest (cmd : String) : Option I2cRequest :=
  match split cmd with
  | first :: words => if first = "echo" then echoRequest words else none
  | [] => none

def i2cDevicePath (bus node : String) : String := i2cBusPath ++ bus ++ "/" ++ node

def newDeviceCommand (driver addr bus : String) : String :=
  join " " ["echo", driver, addr, ">", i2cDevicePath bus "new_device"]

def deleteDeviceCommand (addr bus : String) : String :=
  join " " ["echo", addr, ">", i2cDevicePath bus "delete_device"]

def Word (w : String) : Prop := w ≠ "" ∧ ∀ c ∈ w.data, isSpace c = false

instance : DecidablePred Word := fun _ => inferInstanceAs (Decidable (_ ∧ _))

section Parse

theorem afterLeading_append : ∀ pre s : List Char, afterLeading pre (pre ++ s) = some s
  | [], _ => rfl
  | c :: cs, s => by simp [afterLeading, afterLeading_append cs s]

theorem busOf_path (node bus : String) : busOf node (i2cDevicePath bus node) = some bus := by
  have reversed : (bus.data ++ '/' :: node.data).reverse = ('/' :: node.data).reverse ++ bus.data.reverse := by
    simp
  simp only [busOf, i2cDevicePath, String.data_append, List.append_assoc, afterLeading_append,
    Option.some_bind, show ("/" : String).data = ['/'] from rfl, List.singleton_append, reversed,
    Option.map_some', List.reverse_reverse]

theorem digitChar_mem (k : Nat) : Nat.digitChar k ∈ "0123456789abcdef*".data := by
  match k with
  | 0 | 1 | 2 | 3 | 4 | 5 | 6 | 7 | 8 | 9 | 10 | 11 | 12 | 13 | 14 | 15 => decide
  | k + 16 =>
    have star : Nat.digitChar (k + 16) = '*' := by simp [Nat.digitChar]
    rw [star]
    decide

theorem toDigitsCore_digits (base : Nat) :
    ∀ fuel n ds, ∀ c ∈ Nat.toDigitsCore base fuel n ds, c ∈ ds ∨ ∃ k, c = Nat.digitChar k
  | 0, _, _, _, listed => .inl listed
  | fuel + 1, n, ds, c, listed => by
    simp only [Nat.toDigitsCore] at listed
    split_ifs at listed
    · rcases List.mem_cons.mp listed with rfl | old
      · exact .inr ⟨_, rfl⟩
      · exact .inl old
    · rcases toDigitsCore_digits base fuel _ _ c listed with new | digit
      · rcases List.mem_cons.mp new with rfl | old
        · exact .inr ⟨_, rfl⟩
        · exact .inl old
      · exact .inr digit

theorem toDigitsCore_ne_nil (base : Nat) : ∀ fuel n ds, ds ≠ [] → Nat.toDigitsCore base fuel n ds ≠ []
  | 0, _, _, nonempty => nonempty
  | fuel + 1, n, ds, _ => by
    simp only [Nat.toDigitsCore]
    split_ifs
    · exact List.cons_ne_nil _ _
    · exact toDigitsCore_ne_nil base fuel _ _ (List.cons_ne_nil _ _)

theorem toString_chars (n : Nat) : ∀ c ∈ (toString n).data, c ∈ "0123456789abcdef*".data := by
  intro c listed
  rcases toDigitsCore_digits 10 _ _ _ c listed with absurd | ⟨k, rfl⟩
  · cases absurd
  · exact digitChar_mem k

theorem Word.digits (n : Nat) : Word (toString n) := by
  have chars : (toString n).data = Nat.toDigits 10 n := rfl
  refine ⟨fun empty => ?_, fun c listed => ?_⟩
  · have : Nat.toDigits 10 n ≠ [] := by
      simp only [Nat.toDigits, Nat.toDigitsCore]
      split_ifs
      · exact List.cons_ne_nil _ _
      · exact toDigitsCore_ne_nil 10 _ _ _ (List.cons_ne_nil _ _)
    exact this (chars ▸ congrArg String.data empty)
  · exact (by decide : ∀ c ∈ "0123456789abcdef*".data, isSpace c = false) c (toString_chars n c listed)

theorem Word.append_digits {w : String} (word : Word w) (n : Nat) : Word (w ++ toString n) :=
  ⟨fun empty => word.1 (String.ext (List.append_eq_nil.mp (congrArg String.data empty)).1),
    fun c listed => (List.mem_append.mp listed).elim (word.2 c) ((Word.digits n).2 c)⟩

theorem Word.path {bus : String} (word : Word bus) (node : String) (named : Word node) :
    Word (i2cDevicePath bus node) := by
  refine ⟨fun empty => ?_, fun c listed => ?_⟩
  · have long := congrArg String.length empty
    have fixed : i2cBusPath.length = 25 := rfl
    have empty : "".length = 0 := rfl
    simp only [i2cDevicePath, String.length_append, fixed, empty] at long
    omega
  · simp only [i2cDevicePath, String.data_append, List.mem_append] at listed
    rcases listed with ((fixed | inner) | slash) | last
    · revert c; decide
    · exact word.2 c inner
    · revert c; decide
    · exact named.2 c last

theorem split_words {words : List String} (each : ∀ w ∈ words, Word w) (nonempty : words ≠ []) :
    split (join " " words) = words :=
  split_join words (fun w listed => (each w listed).2) (fun w listed => (each w listed).1) nonempty

theorem sysfsRequest_newDeviceCommand {driver addr bus : String} (driverWord : Word driver)
    (addrWord : Word addr) (busWord : Word bus) :
    sysfsRequest (newDeviceCommand driver addr bus) = some (.newDevice driver addr bus) := by
  have words : split (newDeviceCommand driver addr bus) =
      ["echo", driver, addr, ">", i2cDevicePath bus "new_device"] := by
    refine split_words ?_ (List.cons_ne_nil _ _)
    simp only [List.mem_cons, List.mem_singleton, List.not_mem_nil, or_false]
    rintro w (rfl | rfl | rfl | rfl | rfl)
    all_goals first | decide | assumption | exact busWord.path _ (by decide)
  simp [sysfsRequest, words, echoRequest, busOf_path]

theorem sysfsRequest_deleteDeviceCommand {addr bus : String} (addrWord : Word addr) (busWord : Word bus) :
    sysfsRequest (deleteDeviceCommand addr bus) = some (.deleteDevice addr bus) := by
  have words : split (deleteDeviceCommand addr bus) = ["echo", addr, ">", i2cDevicePath bus "delete_device"] := by
    refine split_words ?_ (List.cons_ne_nil _ _)
    simp only [List.mem_cons, List.mem_singleton, List.not_mem_nil, or_false]
    rintro w (rfl | rfl | rfl | rfl)
    all_goals first | decide | assumption | exact busWord.path _ (by decide)
  simp [sysfsRequest, words, echoRequest, busOf_path]

theorem split_head {w : String} (word : Word w) (r : String) : split (w ++ " " ++ r) = w :: split r := by
  have kept : w.data.isEmpty = false := by
    cases w with
    | mk data => cases data with
      | nil => exact absurd rfl word.1
      | cons => rfl
  simp only [split, String.data_append, show (" " : String).data = [' '] from rfl, List.append_assoc,
    List.singleton_append, List.splitOnP_first isSpace w.data (fun c mem => by simp [word.2 c mem]) ' ' rfl,
    List.filter_cons, kept, Bool.not_false, if_true, List.map_cons]

theorem join_cons_cons (w next : String) (rest : List String) :
    join " " (w :: next :: rest) = w ++ " " ++ join " " (next :: rest) := by
  apply String.ext
  simp [join, intercalate_cons_cons]

theorem sysfsRequest_of_head {w : String} (word : Word w) (other : w ≠ "echo") (r : String) :
    sysfsRequest (w ++ " " ++ r) = none := by
  simp [sysfsRequest, split_head word, other]

end Parse

/-- The devices the i2c core holds, each as (bus, address), oldest first. The core refuses a second
device at an address in use and the deletion of a device it does not hold. -/
def applyRequest (devices : List (String × String)) : I2cRequest → Option (List (String × String))
  | .newDevice _ addr bus => if (bus, addr) ∈ devices then none else some (devices ++ [(bus, addr)])
  | .deleteDevice addr bus => if (bus, addr) ∈ devices then some (devices.erase (bus, addr)) else none

def replay (devices : List (String × String)) : List I2cRequest → Except I2cRequest (List (String × String))
  | [] => .ok devices
  | request :: rest =>
    match applyRequest devices request with
    | some next => replay next rest
    | none => .error request

def I2cRequest.device : I2cRequest → String × String
  | .newDevice _ addr bus => (bus, addr)
  | .deleteDevice addr bus => (bus, addr)

def deleteOf (device : String × String) : I2cRequest := .deleteDevice device.2 device.1

section Replay

theorem replay_append (devices : List (String × String)) (first second : List I2cRequest) :
    replay devices (first ++ second) =
      match replay devices first with
      | .ok next => replay next second
      | .error request => .error request := by
  induction first generalizing devices with
  | nil => rfl
  | cons request rest ih =>
    simp only [List.cons_append, replay]
    split
    · exact ih _
    · rfl

theorem replay_creations (creations : List I2cRequest)
    (creating : ∀ r ∈ creations, ∃ driver addr bus, r = .newDevice driver addr bus) :
    ∀ devices, (devices ++ creations.map I2cRequest.device).Nodup →
      replay devices creations = .ok (devices ++ creations.map I2cRequest.device) := by
  induction creations with
  | nil => simp [replay]
  | cons request rest ih =>
    intro devices distinct
    obtain ⟨driver, addr, bus, rfl⟩ := creating _ (List.mem_cons_self _ _)
    have fresh : (bus, addr) ∉ devices := by
      intro held
      simp only [List.map_cons, I2cRequest.device] at distinct
      exact (List.nodup_append.mp distinct).2.2 held (List.mem_cons_self _ _)
    have next := ih (fun r listed => creating r (List.mem_cons_of_mem _ listed)) (devices ++ [(bus, addr)])
      (by simpa [I2cRequest.device] using distinct)
    simp only [replay, applyRequest, fresh, if_false, next, List.map_cons, I2cRequest.device,
      List.append_assoc, List.singleton_append]

theorem replay_deletions_held (deleted : List (String × String)) :
    ∀ devices, devices.Nodup → deleted.Nodup → (∀ d ∈ deleted, d ∈ devices) →
      ∃ left, replay devices (deleted.map deleteOf) = .ok left ∧ left.Nodup ∧
        ∀ d, d ∈ left ↔ d ∈ devices ∧ d ∉ deleted := by
  induction deleted with
  | nil => exact fun devices distinct _ _ => ⟨devices, rfl, distinct, by simp⟩
  | cons d rest ih =>
    intro devices distinct fresh held
    obtain ⟨notLater, restFresh⟩ := List.nodup_cons.mp fresh
    have present : d ∈ devices := held d (List.mem_cons_self _ _)
    obtain ⟨left, run, leftDistinct, leftMem⟩ := ih (devices.erase d) (distinct.erase d) restFresh
      fun d' later => distinct.mem_erase_iff.mpr ⟨fun same => notLater (same ▸ later), held d' (.tail _ later)⟩
    refine ⟨left, ?_, leftDistinct, fun d' => ?_⟩
    · obtain ⟨bus, addr⟩ := d
      simp only [List.map_cons, replay, deleteOf, applyRequest, present, if_true, run]
    · rw [leftMem, distinct.mem_erase_iff, List.mem_cons]
      tauto

end Replay

end AcctonAs9817.Util
