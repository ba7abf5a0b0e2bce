import Mathlib.Data.List.Basic
import Mathlib.Data.List.Infix

set_option autoImplicit false

namespace AcctonAs9817.Python

inductive PyExc
  | attributeError
  | keyError
  | indexError
  | valueError
  | unboundLocalError
  | fileNotFoundError
  | permissionError
  | osError
  -- `print(printed); exit(1)`: the SystemExit that ends the utility
  | systemExit (printed : String)
  deriving DecidableEq, Repr

section Raising

variable {α β : Type}

@[simp] theorem ok_bind (a : α) (f : α → Except PyExc β) : (Except.ok a >>= f) = f a := rfl
@[simp] theorem error_bind (e : PyExc) (f : α → Except PyExc β) : (Except.error e >>= f) = .error e := rfl
@[simp] theorem ok_map (a : α) (f : α → β) : (f <$> (Except.ok a : Except PyExc α)) = .ok (f a) := rfl
@[simp] theorem error_map (e : PyExc) (f : α → β) : (f <$> (Except.error e : Except PyExc α)) = .error e := rfl
@[simp] theorem pure_eq_ok (a : α) : (pure a : Except PyExc α) = .ok a := rfl
@[simp] theorem throw_eq_error (e : PyExc) : (throw e : Except PyExc α) = .error e := rfl

theorem map_eq_ok {f : α → β} {x : Except PyExc α} {b : β} (mapped : f <$> x = .ok b) :
    ∃ a, x = .ok a ∧ f a = b := by
  cases x with
  | error e => cases mapped
  | ok a => exact ⟨a, rfl, Except.ok.inj mapped⟩

end Raising

/-- The code points `str.isspace` accepts; `str.split()` cuts at runs of them. -/
def spaceCodes : List Nat :=
  [0x09, 0x0a, 0x0b, 0x0c, 0x0d, 0x1c, 0x1d, 0x1e, 0x1f, 0x20, 0x85, 0xa0, 0x1680,
    0x2000, 0x2001, 0x2002, 0x2003, 0x2004, 0x2005, 0x2006, 0x2007, 0x2008, 0x2009, 0x200a,
    0x2028, 0x2029, 0x202f, 0x205f, 0x3000]

def isSpace (c : Char) : Bool := spaceCodes.contains c.toNat

def split (s : String) : List String :=
  ((s.data.splitOnP isSpace).filter (fun word => !word.isEmpty)).map String.mk

def splitOn (s : String) (sep : Char) : List String := (s.data.splitOn sep).map String.mk

def join (sep : String) (parts : List String) : String :=
  ⟨sep.data.intercalate (parts.map String.data)⟩

def replaceAux (old new : List Char) : Nat → List Char → List Char
  | 0, s => s
  | _ + 1, [] => []
  | n + 1, c :: cs =>
    if old.isPrefixOf (c :: cs) then new ++ replaceAux old new n ((c :: cs).drop old.length)
    else c :: replaceAux old new n cs

def replaceChars (old new s : List Char) : List Char := replaceAux old new s.length s

def replace (s old new : String) : String := ⟨replaceChars old.data new.data s.data⟩

/-- Python's `template.format(*args)` for templates whose replacement fields are all `{}`: a field with no
argument left raises IndexError, a lone brace ValueError. -/
def formatChars : List Char → List String → Except PyExc (List Char)
  | [], _ => .ok []
  | '{' :: '{' :: rest, args => ('{' :: ·) <$> formatChars rest args
  | '}' :: '}' :: rest, args => ('}' :: ·) <$> formatChars rest args
  | '{' :: '}' :: rest, arg :: args => (arg.data ++ ·) <$> formatChars rest args
  | '{' :: '}' :: _, [] => .error .indexError
  | '{' :: _, _ => .error .valueError
  | '}' :: _, _ => .error .valueError
  | c :: rest, args => (c :: ·) <$> formatChars rest args

def format (template : String) (args : List String) : Except PyExc String :=
  String.mk <$> formatChars template.data args

section Format

variable (args : List String)

theorem formatChars_cons {c : Char} (notOpen : c ≠ '{') (notClose : c ≠ '}') (rest : List Char) :
    formatChars (c :: rest) args = (c :: ·) <$> formatChars rest args :=
  formatChars.eq_8 args c rest (fun _ h _ => notOpen h) (fun _ h _ => notClose h) notOpen notClose
    (fun _ _ _ h _ _ => notOpen h) (fun _ h _ _ => notOpen h)

theorem formatChars_plain_append {text : List Char} (plain : '{' ∉ text ∧ '}' ∉ text) (rest : List Char) :
    formatChars (text ++ rest) args = (text ++ ·) <$> formatChars rest args := by
  induction text with
  | nil => simp
  | cons c text ih =>
    simp only [List.mem_cons, not_or] at plain
    obtain ⟨⟨notOpen, plainOpen⟩, notClose, plainClose⟩ := plain
    rw [List.cons_append, formatChars_cons args (Ne.symm notOpen) (Ne.symm notClose), ih ⟨plainOpen, plainClose⟩, Functor.map_map]
    rfl

theorem formatChars_field (arg : String) (rest : List Char) :
    formatChars ('{' :: '}' :: rest) (arg :: args) = (arg.data ++ ·) <$> formatChars rest args := rfl

theorem format_two_fields {head middle tail : String} (plainHead : '{' ∉ head.data ∧ '}' ∉ head.data)
    (plainMiddle : '{' ∉ middle.data ∧ '}' ∉ middle.data) (plainTail : '{' ∉ tail.data ∧ '}' ∉ tail.data)
    (first second : String) :
    format (head ++ "{}" ++ middle ++ "{}" ++ tail) [first, second] =
      .ok (head ++ first ++ middle ++ second ++ tail) := by
  have fields : (head ++ "{}" ++ middle ++ "{}" ++ tail).data =
      head.data ++ '{' :: '}' :: (middle.data ++ '{' :: '}' :: (tail.data ++ [])) := by
    simp only [String.data_append, List.append_assoc, List.append_nil]
    rfl
  rw [format, fields, formatChars_plain_append _ plainHead, formatChars_field,
    formatChars_plain_append _ plainMiddle, formatChars_field, formatChars_plain_append _ plainTail]
  exact congrArg Except.ok (String.ext (by simp))

theorem format_three_fields (first second third : String) :
    format "{}{}{}" [first, second, third] = .ok (first ++ second ++ third) :=
  congrArg Except.ok (String.ext (by simp))

end Format

@[simp] theorem intercalate_singleton {α : Type} (sep : α) (part : List α) :
    [sep].intercalate [part] = part := by
  simp [List.intercalate]

theorem intercalate_cons_cons {α : Type} (sep : α) (part next : List α) (rest : List (List α)) :
    [sep].intercalate (part :: next :: rest) = part ++ sep :: [sep].intercalate (next :: rest) := rfl

theorem intercalate_append_head {α : Type} (sep : α) (first second : List α) (rest : List (List α)) :
    [sep].intercalate ((first ++ second) :: rest) = first ++ [sep].intercalate (second :: rest) := by
  cases rest <;> simp [intercalate_cons_cons]

theorem intercalate_intercalate_cons {α : Type} (sep : α) (rest : List (List α)) :
    ∀ parts : List (List α), parts ≠ [] →
      [sep].intercalate ([sep].intercalate parts :: rest) = [sep].intercalate (parts ++ rest)
  | [], nonempty => absurd rfl nonempty
  | [part], _ => by simp
  | part :: next :: more, _ => by
    have sepFirst (x : List α) : [sep].intercalate ((sep :: x) :: rest) = sep :: [sep].intercalate (x :: rest) :=
      intercalate_append_head sep [sep] x rest
    rw [intercalate_cons_cons, intercalate_append_head, sepFirst,
      intercalate_intercalate_cons sep rest (next :: more) (List.cons_ne_nil _ _)]
    rfl

section Replace

variable {old new : List Char}

theorem replaceAux_eq (nonempty : old ≠ []) (n : Nat) :
    ∀ s : List Char, s.length ≤ n → replaceAux old new n s = replaceChars old new s := by
  induction n using Nat.strong_induction_on with
  | _ n ih =>
    intro s bound
    match n, s with
    | 0, [] | _ + 1, [] => rfl
    | n + 1, c :: cs =>
      have shorter : ((c :: cs).drop old.length).length ≤ cs.length := by
        have := List.length_pos.mpr nonempty
        simp only [List.length_drop, List.length_cons]; omega
      simp only [List.length_cons] at bound
      simp only [replaceChars, List.length_cons, replaceAux]
      rw [ih n (by omega) _ (by omega), ih n (by omega) _ (by omega),
        ih cs.length (by omega) _ shorter, ih cs.length (by omega) _ le_rfl]

@[simp] theorem replaceChars_nil : replaceChars old new [] = [] := rfl

theorem replaceChars_cons (nonempty : old ≠ []) (c : Char) (cs : List Char) :
    replaceChars old new (c :: cs) =
      if old.isPrefixOf (c :: cs) then new ++ replaceChars old new ((c :: cs).drop old.length)
      else c :: replaceChars old new cs := by
  have shorter : ((c :: cs).drop old.length).length ≤ cs.length := by
    have := List.length_pos.mpr nonempty
    simp only [List.length_drop, List.length_cons]; omega
  simp only [replaceChars, List.length_cons, replaceAux, replaceAux_eq nonempty _ _ shorter]

theorem replaceChars_cons_of_miss (nonempty : old ≠ []) {c : Char} {cs : List Char}
    (miss : ¬ old <+: c :: cs) : replaceChars old new (c :: cs) = c :: replaceChars old new cs := by
  rw [replaceChars_cons nonempty, if_neg (mt List.isPrefixOf_iff_prefix.mp miss)]

theorem replaceChars_match (nonempty : old ≠ []) (rest : List Char) :
    replaceChars old new (old ++ rest) = new ++ replaceChars old new rest := by
  obtain ⟨c, cs, rfl⟩ := List.exists_cons_of_ne_nil nonempty
  have hit : (c :: cs).isPrefixOf (c :: (cs ++ rest)) = true :=
    List.isPrefixOf_iff_prefix.mpr (List.prefix_append (c :: cs) rest)
  rw [List.cons_append, replaceChars_cons nonempty, if_pos hit, ← List.cons_append, List.drop_left]

theorem replaceChars_of_not_infix (nonempty : old ≠ []) :
    ∀ s : List Char, ¬ old <:+: s → replaceChars old new s = s
  | [], _ => rfl
  | c :: cs, absent => by
    rw [replaceChars_cons_of_miss nonempty (fun hit => absent hit.isInfix),
      replaceChars_of_not_infix nonempty cs (fun hit => absent (List.infix_cons hit))]

theorem prefix_of_prefix_sep {sep : Char} (outside : sep ∉ old) (a b : List Char)
    (hit : old <+: a ++ sep :: b) : old <+: a := by
  by_cases fits : old.length ≤ a.length
  · exact List.prefix_of_prefix_length_le hit (List.prefix_append _ _) fits
  · have longer : a ++ [sep] <+: old :=
      List.prefix_of_prefix_length_le (by simp) hit (by simp; omega)
    exact absurd (longer.mem (by simp)) outside

theorem replaceChars_append_sep (nonempty : old ≠ []) {sep : Char} (outside : sep ∉ old)
    (b : List Char) : ∀ a : List Char,
      replaceChars old new (a ++ sep :: b) = replaceChars old new a ++ sep :: replaceChars old new b
  | [] => by
    obtain ⟨o, os, rfl⟩ := List.exists_cons_of_ne_nil nonempty
    have differ : o ≠ sep := fun same => outside (same ▸ List.mem_cons_self _ _)
    rw [List.nil_append, replaceChars_cons_of_miss nonempty (by simp [differ])]
    rfl
  | x :: a => by
    by_cases hit : old <+: x :: (a ++ sep :: b)
    · obtain ⟨t, split⟩ := prefix_of_prefix_sep outside (x :: a) b hit
      have tail := replaceChars_append_sep nonempty outside b t
      rw [← split, List.append_assoc, replaceChars_match nonempty, replaceChars_match nonempty, tail,
        List.append_assoc]
    · have miss : ¬ old <+: x :: a := fun short => hit (short.trans (List.prefix_append _ _))
      have tail := replaceChars_append_sep nonempty outside b a
      rw [List.cons_append, replaceChars_cons_of_miss nonempty hit,
        replaceChars_cons_of_miss nonempty miss, tail]
      rfl
termination_by a => a.length
decreasing_by
  all_goals simp_wf
  · have := List.length_pos.mpr nonempty
    have := congrArg List.length split
    simp only [List.length_append, List.length_cons] at *; omega

theorem replaceChars_intercalate (nonempty : old ≠ []) {sep : Char} (outside : sep ∉ old) :
    ∀ parts : List (List Char),
      replaceChars old new ([sep].intercalate parts) = [sep].intercalate (parts.map (replaceChars old new))
  | [] => rfl
  | [_] => by simp
  | part :: next :: rest => by
    rw [intercalate_cons_cons, replaceChars_append_sep nonempty outside,
      replaceChars_intercalate nonempty outside (next :: rest)]
    rfl

end Replace

theorem splitOnP_intercalate {p : Char → Bool} {sep : Char} (cut : p sep = true) :
    ∀ parts : List (List Char), (∀ part ∈ parts, ∀ c ∈ part, p c = false) → parts ≠ [] →
      ([sep].intercalate parts).splitOnP p = parts
  | [], _, nonempty => absurd rfl nonempty
  | [part], clean, _ => by
    rw [intercalate_singleton]
    exact List.splitOnP_eq_single _ _ (fun c mem => by simp [clean part (by simp) c mem])
  | part :: next :: rest, clean, _ => by
    rw [intercalate_cons_cons, List.splitOnP_first p part
      (fun c mem => by simp [clean part (by simp) c mem]) sep cut,
      splitOnP_intercalate cut (next :: rest) (fun q mem => clean q (List.mem_cons_of_mem _ mem))
        (List.cons_ne_nil _ _)]

theorem map_mk_data (parts : List String) : (parts.map String.data).map String.mk = parts := by
  simp [List.map_map, Function.comp_def]

theorem splitOn_join (sep : Char) (parts : List String) (clean : ∀ part ∈ parts, sep ∉ part.data)
    (nonempty : parts ≠ []) : splitOn (join ⟨[sep]⟩ parts) sep = parts := by
  have clean' : ∀ part ∈ parts.map String.data, sep ∉ part := by simpa using clean
  simp only [splitOn, join]
  rw [List.splitOn_intercalate _ _ clean' (by simpa using nonempty), map_mk_data]

theorem join_join_cons {parts : List String} (nonempty : parts ≠ []) (rest : List String) :
    join " " (join " " parts :: rest) = join " " (parts ++ rest) := by
  simp only [join, List.map_cons, List.map_append, show (" " : String).data = [' '] from rfl]
  rw [intercalate_intercalate_cons _ _ _ (by simpa using nonempty)]

theorem split_join (parts : List String) (clean : ∀ part ∈ parts, ∀ c ∈ part.data, isSpace c = false)
    (words : ∀ part ∈ parts, part ≠ "") (nonempty : parts ≠ []) :
    split (join " " parts) = parts := by
  have clean' : ∀ part ∈ parts.map String.data, ∀ c ∈ part, isSpace c = false := by simpa using clean
  have cut : isSpace ' ' = true := by decide
  have kept : (parts.map String.data).filter (fun word => !word.isEmpty) = parts.map String.data := by
    refine List.filter_eq_self.mpr fun part listed => ?_
    obtain ⟨s, original, rfl⟩ := List.mem_map.mp listed
    have := words s original
    cases s with
    | mk data => cases data <;> simp_all
  have space : (" " : String).data = [' '] := rfl
  simp only [split, join, space]
  rw [splitOnP_intercalate cut _ clean' (by simpa using nonempty), kept, map_mk_data]

theorem replace_join {old : String} (new : String) (nonempty : old ≠ "") (outside : ' ' ∉ old.data)
    (parts : List String) :
    replace (join " " parts) old new = join " " (parts.map (replace · old new)) := by
  have nonempty' : old.data ≠ [] := fun empty => nonempty (by cases old; simp_all)
  simp only [replace, join, show (" " : String).data = [' '] from rfl,
    replaceChars_intercalate nonempty' outside, List.map_map]
  rfl

theorem replace_of_not_infix {old : String} (s new : String) (nonempty : old ≠ "")
    (absent : ¬ old.data <:+: s.data) : replace s old new = s := by
  have nonempty' : old.data ≠ [] := fun empty => nonempty (by cases old; simp_all)
  simp only [replace, replaceChars_of_not_infix nonempty' _ absent]

end AcctonAs9817.Python
