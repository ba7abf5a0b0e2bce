import AcctonAs9817.Python.Str

set_option autoImplicit false

namespace AcctonAs9817.Python

/-- The tokens of a Python program that matter here: a character of code outside literals and
comments, a string literal with its quote and decoded value, a comment. -/
inductive Token
  | code (c : Char)
  | str (quote : Char) (value : List Char)
  | comment (text : List Char)
  deriving DecidableEq, Repr

inductive LexState
  | code
  | str (quote : Char) (value : List Char)
  | escape (quote : Char) (value : List Char)
  | closedEmpty (quote : Char)
  | comment (text : List Char)
  deriving DecidableEq, Repr

/-- The escapes the tokenizer decodes. It refuses the others Python knows (octal, \x, \N, \u,
\a, \b, \f, \v, a line continuation) and those Python keeps with their backslash. -/
def escapeValue : Char → Option Char
  | '\\' => some '\\'
  | '\'' => some '\''
  | '"' => some '"'
  | 'n' => some '\n'
  | 't' => some '\t'
  | 'r' => some '\r'
  | _ => none

/-- String prefixes (r, b, f, u) are not recognised: in the programs modelled here every quote
that opens a literal stands after a blank or a bracket. -/
def codeStep (c : Char) : LexState × List Token :=
  if c = '\'' ∨ c = '"' then (.str c [], [])
  else if c = '#' then (.comment [], [])
  else (.code, [.code c])

/-- A NUL cannot reach `python3 -c` (subprocess refuses it in an argument); an end of line ends
a one-quote literal unterminated; a triple-quoted literal is not read. -/
def lexStep (st : LexState) (c : Char) : Option (LexState × List Token) :=
  if c = '\x00' then none else
  match st with
  | .code => some (codeStep c)
  | .str quote value =>
    if c = quote then
      if value = [] then some (.closedEmpty quote, []) else some (.code, [.str quote value])
    else if c = '\\' then some (.escape quote value, [])
    else if c = '\n' ∨ c = '\r' then none
    else some (.str quote (value ++ [c]), [])
  | .escape quote value => (fun d => (.str quote (value ++ [d]), [])) <$> escapeValue c
  | .closedEmpty quote =>
    if c = quote then none
    else some ((codeStep c).1, .str quote [] :: (codeStep c).2)
  | .comment text =>
    if c = '\n' then some (.code, [.comment text, .code c]) else some (.comment (text ++ [c]), [])

def withOutput (out : List Token) : Option (LexState × List Token) → Option (LexState × List Token) :=
  Option.map fun (st, rest) => (st, out ++ rest)

def lexRun : LexState → List Char → Option (LexState × List Token)
  | st, [] => some (st, [])
  | st, c :: cs =>
    match lexStep st c with
    | none => none
    | some (st', out) => withOutput out (lexRun st' cs)

def lexEnd : LexState → Option (List Token)
  | .code => some []
  | .closedEmpty quote => some [.str quote []]
  | .comment text => some [.comment text]
  | .str _ _ | .escape _ _ => none

def tokenize (text : String) : Option (List Token) := do
  let (st, out) ← lexRun .code text.data
  (out ++ ·) <$> lexEnd st

def CodeChar (c : Char) : Prop := c ≠ '\'' ∧ c ≠ '"' ∧ c ≠ '#' ∧ c ≠ '\x00'

instance : DecidablePred CodeChar := fun _ => inferInstanceAs (Decidable (_ ∧ _))

def LiteralChar (quote : Char) (c : Char) : Prop :=
  c ≠ quote ∧ c ≠ '\\' ∧ c ≠ '\n' ∧ c ≠ '\r' ∧ c ≠ '\x00'

instance (quote : Char) : DecidablePred (LiteralChar quote) := fun _ => inferInstanceAs (Decidable (_ ∧ _))

def CodeText (text : String) : Prop := ∀ c ∈ text.data, CodeChar c

def LiteralText (quote : Char) (text : String) : Prop := ∀ c ∈ text.data, LiteralChar quote c

instance : DecidablePred CodeText := fun text => inferInstanceAs (Decidable (∀ c ∈ text.data, _))

instance (quote : Char) : DecidablePred (LiteralText quote) :=
  fun text => inferInstanceAs (Decidable (∀ c ∈ text.data, _))

@[simp] theorem codeText_append (a b : String) : CodeText (a ++ b) ↔ CodeText a ∧ CodeText b :=
  List.forall_mem_append

@[simp] theorem literalText_append (quote : Char) (a b : String) :
    LiteralText quote (a ++ b) ↔ LiteralText quote a ∧ LiteralText quote b :=
  List.forall_mem_append

section Output

variable {out more : List Token} {run : Option (LexState × List Token)}

@[simp] theorem withOutput_none : withOutput out none = none := rfl

@[simp] theorem withOutput_some (st : LexState) (rest : List Token) :
    withOutput out (some (st, rest)) = some (st, out ++ rest) := rfl

@[simp] theorem withOutput_nil : withOutput [] run = run := by
  cases run <;> rfl

@[simp] theorem withOutput_withOutput : withOutput out (withOutput more run) = withOutput (out ++ more) run := by
  rcases run with _ | ⟨st, rest⟩ <;> simp

theorem withOutput_eq_some {st : LexState} (produced : withOutput out run = some (st, more)) :
    ∃ rest, run = some (st, rest) ∧ more = out ++ rest := by
  rcases run with _ | ⟨st', rest⟩
  · cases produced
  · simp only [withOutput_some, Option.some.injEq, Prod.mk.injEq] at produced
    exact ⟨rest, by rw [produced.1], produced.2.symm⟩

end Output

section Steps

variable {quote c : Char}

theorem lexStep_code (code : CodeChar c) : lexStep .code c = some (.code, [.code c]) := by
  obtain ⟨single, double, hash, nul⟩ := code
  simp [lexStep, codeStep, single, double, hash, nul]

theorem lexStep_plain (value : List Char) (plain : LiteralChar quote c) :
    lexStep (.str quote value) c = some (.str quote (value ++ [c]), []) := by
  obtain ⟨other, slash, newline, ret, nul⟩ := plain
  simp [lexStep, other, slash, newline, ret, nul]

end Steps

theorem lexRun_cons_of_step {st st' : LexState} {c : Char} {out : List Token}
    (step : lexStep st c = some (st', out)) (cs : List Char) :
    lexRun st (c :: cs) = withOutput out (lexRun st' cs) := by
  simp [lexRun, step]

theorem lexRun_append {st mid : LexState} {a : List Char} {out : List Token}
    (first : lexRun st a = some (mid, out)) (b : List Char) :
    lexRun st (a ++ b) = withOutput out (lexRun mid b) := by
  induction a generalizing st out with
  | nil =>
    obtain ⟨rfl, rfl⟩ := Prod.mk.inj (Option.some.inj first)
    simp
  | cons c a ih =>
    unfold lexRun at first
    split at first
    next => cases first
    next st' produced step =>
      obtain ⟨rest, ran, rfl⟩ := withOutput_eq_some first
      rw [List.cons_append, lexRun_cons_of_step step, ih ran, withOutput_withOutput]

theorem lexRun_code {text : List Char} (code : ∀ c ∈ text, CodeChar c) :
    lexRun .code text = some (.code, text.map .code) := by
  induction text with
  | nil => rfl
  | cons c text ih =>
    simp only [List.mem_cons, forall_eq_or_imp] at code
    simp [lexRun_cons_of_step (lexStep_code code.1), ih code.2]

theorem lexRun_plain {quote : Char} {text : List Char} (plain : ∀ c ∈ text, LiteralChar quote c)
    (value : List Char) : lexRun (.str quote value) text = some (.str quote (value ++ text), []) := by
  induction text generalizing value with
  | nil => simp [lexRun]
  | cons c text ih =>
    simp only [List.mem_cons, forall_eq_or_imp] at plain
    simp [lexRun_cons_of_step (lexStep_plain value plain.1), ih plain.2]

theorem lexRun_literal {quote c : Char} {value : List Char} (isQuote : quote = '\'' ∨ quote = '"')
    (plain : ∀ d ∈ value, LiteralChar quote d) (code : CodeChar c) (rest : List Char) :
    lexRun .code (quote :: (value ++ quote :: c :: rest)) =
      withOutput [.str quote value] (lexRun .code (c :: rest)) := by
  have nul : quote ≠ '\x00' := by rcases isQuote with rfl | rfl <;> decide
  have opened : lexStep .code quote = some (.str quote [], []) := by
    simp [lexStep, codeStep, isQuote, nul]
  have differs : c ≠ quote := by rcases isQuote with rfl | rfl <;> [exact code.1; exact code.2.1]
  rw [lexRun_cons_of_step opened, lexRun_append (lexRun_plain plain []), List.nil_append]
  cases value with
  | nil =>
    have closed : lexStep (.str quote []) quote = some (.closedEmpty quote, []) := by
      simp [lexStep, nul]
    have next : lexStep (.closedEmpty quote) c = some (.code, [.str quote [], .code c]) := by
      simp [lexStep, code.2.2.2, differs, codeStep, code.1, code.2.1, code.2.2.1]
    simp [lexRun_cons_of_step closed, lexRun_cons_of_step next, lexRun_cons_of_step (lexStep_code code)]
  | cons d value =>
    have closed : lexStep (.str quote (d :: value)) quote = some (.code, [.str quote (d :: value)]) := by
      simp [lexStep, nul]
    simp [lexRun_cons_of_step closed, lexRun_cons_of_step (lexStep_code code)]

end AcctonAs9817.Python

namespace AcctonAs9817.Python

inductive Piece
  | code (text : List Char)
  | literal (quote : Char) (value : List Char)
  deriving DecidableEq, Repr

def Piece.render : Piece → List Char
  | .code text => text
  | .literal quote value => quote :: value ++ [quote]

@[simp] theorem Piece.render_code (text : List Char) : (Piece.code text).render = text := rfl

@[simp] theorem Piece.render_literal (quote : Char) (value : List Char) :
    (Piece.literal quote value).render = [quote] ++ (value ++ [quote]) := rfl

def Piece.tokens : Piece → List Token
  | .code text => text.map .code
  | .literal quote value => [.str quote value]

/-- The pieces read back as written: code is code text, a literal has a quote for delimiter, a
plain value, and code right after it. -/
def Readable : List Piece → Prop
  | [] => True
  | .code text :: rest => (∀ c ∈ text, CodeChar c) ∧ Readable rest
  | .literal quote value :: rest =>
    (quote = '\'' ∨ quote = '"') ∧ (∀ c ∈ value, LiteralChar quote c) ∧
      (∃ c text more, rest = .code (c :: text) :: more) ∧ Readable rest

theorem Readable.code_cons {text : List Char} {rest : List Piece} (code : ∀ c ∈ text, CodeChar c)
    (readable : Readable rest) : Readable (.code text :: rest) :=
  ⟨code, readable⟩

theorem Readable.literal_cons {quote c : Char} {value text : List Char} {more : List Piece}
    (isQuote : quote = '\'' ∨ quote = '"') (plain : ∀ d ∈ value, LiteralChar quote d)
    (readable : Readable (.code (c :: text) :: more)) :
    Readable (.literal quote value :: .code (c :: text) :: more) :=
  ⟨isQuote, plain, ⟨c, text, more, rfl⟩, readable⟩

theorem Readable.append : ∀ {pieces more : List Piece}, Readable pieces → Readable more →
    Readable (pieces ++ more)
  | [], _, _, readable => readable
  | .code _ :: _, _, ⟨code, readable⟩, next => ⟨code, readable.append next⟩
  | .literal _ _ :: _, _, ⟨isQuote, plain, ⟨c, text, rest, rfl⟩, readable⟩, next =>
    ⟨isQuote, plain, ⟨c, text, rest ++ _, rfl⟩, readable.append next⟩

theorem Readable.flatMap {α : Type} {f : α → List Piece} :
    ∀ {items : List α}, (∀ item ∈ items, Readable (f item)) → Readable (items.flatMap f)
  | [], _ => trivial
  | _ :: _, readable =>
    (readable _ (.head _)).append (Readable.flatMap fun item mem => readable item (.tail _ mem))

theorem lexRun_render : ∀ {pieces : List Piece}, Readable pieces →
    lexRun .code (pieces.flatMap Piece.render) = some (.code, pieces.flatMap Piece.tokens)
  | [], _ => rfl
  | .code text :: rest, ⟨code, readable⟩ => by
    rw [List.flatMap_cons, Piece.render, lexRun_append (lexRun_code code), lexRun_render readable]
    rfl
  | .literal quote value :: _, ⟨isQuote, plain, ⟨c, text, more, rfl⟩, readable⟩ => by
    have next := lexRun_render readable
    simp only [List.flatMap_cons, Piece.render, List.cons_append, List.append_assoc,
      List.singleton_append, List.nil_append] at next ⊢
    rw [lexRun_literal isQuote plain (readable.1 c (.head _)), next]
    rfl

theorem tokenize_render {pieces : List Piece} (readable : Readable pieces) :
    tokenize ⟨pieces.flatMap Piece.render⟩ = some (pieces.flatMap Piece.tokens) := by
  simp [tokenize, lexRun_render readable, lexEnd]

end AcctonAs9817.Python
