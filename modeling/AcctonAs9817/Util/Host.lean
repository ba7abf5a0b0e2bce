import AcctonAs9817.Python.Str

set_option autoImplicit false

namespace AcctonAs9817.Util

open Python

inductive ChmodError
  | fileNotFound
  | permission
  | other
  deriving DecidableEq, Repr

def ChmodError.exc : ChmodError → PyExc
  | .fileNotFound => .fileNotFoundError
  | .permission => .permissionError
  | .other => .osError

/-- What the utility sees of the machine: every command it has issued, and the machine's answers,
which may depend on everything issued before. -/
structure Host where
  log : List String
  status : List String → String → Nat
  isFile : List String → String → Bool
  writable : List String → String → Bool
  chmodError : List String → String → Option ChmodError

def Host.obliging : Host := ⟨[], fun _ _ => 0, fun _ _ => true, fun _ _ => true, fun _ _ => none⟩

def Host.extend (h : Host) (new : List String) : Host := { h with log := h.log ++ new }

@[simp] theorem Host.extend_nil (h : Host) : h.extend [] = h := by
  simp [Host.extend]

@[simp] theorem Host.extend_extend (h : Host) (first second : List String) :
    (h.extend first).extend second = h.extend (first ++ second) := by
  simp [Host.extend, List.append_assoc]

@[simp] theorem Host.extend_log (h : Host) (new : List String) : (h.extend new).log = h.log ++ new := rfl
@[simp] theorem Host.extend_status (h : Host) (new : List String) : (h.extend new).status = h.status := rfl
@[simp] theorem Host.extend_isFile (h : Host) (new : List String) : (h.extend new).isFile = h.isFile := rfl
@[simp] theorem Host.extend_writable (h : Host) (new : List String) :
    (h.extend new).writable = h.writable := rfl
@[simp] theorem Host.extend_chmodError (h : Host) (new : List String) :
    (h.extend new).chmodError = h.chmodError := rfl

/-- A computation of the utility against a state `σ` it reads and adds to: it returns or raises, and
the state it leaves is kept either way. -/
def Run (σ α : Type) : Type := σ → Except PyExc α × σ

instance {σ : Type} : Monad (Run σ) where
  pure a s := (.ok a, s)
  bind m f s :=
    match m s with
    | (.ok a, s') => f a s'
    | (.error e, s') => (.error e, s')

abbrev HostM := Run Host

section Run

variable {σ α β : Type}

@[simp] theorem pure_apply (a : α) (s : σ) : (pure a : Run σ α) s = (.ok a, s) := rfl

theorem bind_apply (m : Run σ α) (f : α → Run σ β) (s : σ) :
    (m >>= f) s = match m s with
      | (.ok a, s') => f a s'
      | (.error e, s') => (.error e, s') := rfl

@[simp] theorem bind_apply_ok {m : Run σ α} {s s' : σ} {a : α}
    (run : m s = (.ok a, s')) (f : α → Run σ β) : (m >>= f) s = f a s' := by
  simp [bind_apply, run]

def raise (e : PyExc) : Run σ α := fun s => (.error e, s)

def liftExcept (x : Except PyExc α) : Run σ α := fun s => (x, s)

@[simp] theorem raise_apply (e : PyExc) (s : σ) : (raise e : Run σ α) s = (.error e, s) := rfl

@[simp] theorem liftExcept_apply (x : Except PyExc α) (s : σ) : (liftExcept x : Run σ α) s = (x, s) := rfl

end Run

def getstatusoutput (cmd : String) : HostM Nat := fun h => (.ok (h.status h.log cmd), h.extend [cmd])

def getstatusoutputNoshell (argv : List String) : HostM Nat := getstatusoutput (join " " argv)

def subprocessCall (cmd : String) : HostM Nat := getstatusoutput cmd

def logOsSystem (cmd : String) : HostM Nat := getstatusoutput cmd

def pathExists (path : String) : HostM Bool := fun h => (.ok (h.isFile h.log path), h)

def chmod (path : String) : HostM Unit := fun h =>
  match h.chmodError h.log path with
  | none => (.ok (), h)
  | some e => (.error e.exc, h)

/-- `open(path, 'a').close()` and then `os.chmod(path, 0o666)`, inside the try: whether neither raised. -/
def touchChmod (path : String) : HostM Bool := fun h =>
  (.ok (h.writable h.log path && (h.chmodError h.log path).isNone), h)

@[simp] theorem getstatusoutput_apply (cmd : String) (h : Host) :
    getstatusoutput cmd h = (.ok (h.status h.log cmd), h.extend [cmd]) := rfl

@[simp] theorem logOsSystem_apply (cmd : String) (h : Host) :
    logOsSystem cmd h = (.ok (h.status h.log cmd), h.extend [cmd]) := rfl

@[simp] theorem pathExists_apply (path : String) (h : Host) :
    pathExists path h = (.ok (h.isFile h.log path), h) := rfl

@[simp] theorem touchChmod_apply (path : String) (h : Host) :
    touchChmod path h = (.ok (h.writable h.log path && (h.chmodError h.log path).isNone), h) := rfl

def answers (status : List String → String → Nat) : List String → List String → List Nat
  | _, [] => []
  | log, cmd :: rest => status log cmd :: answers status (log ++ [cmd]) rest

@[simp] theorem answers_nil (status : List String → String → Nat) (log : List String) :
    answers status log [] = [] := rfl

theorem answers_append (status : List String → String → Nat) (log first second : List String) :
    answers status log (first ++ second) =
      answers status log first ++ answers status (log ++ first) second := by
  induction first generalizing log with
  | nil => simp [answers]
  | cons cmd rest ih => simp [answers, ih, List.append_assoc]

def Returns {α : Type} (m : HostM α) : Prop := ∀ h, ∃ a new, m h = (.ok a, h.extend new)

section Returns

variable {α β : Type}

theorem returns_pure (a : α) : Returns (pure a : HostM α) := fun h => ⟨a, [], by simp⟩

theorem Returns.bind {m : HostM α} {f : α → HostM β} (first : Returns m) (rest : ∀ a, Returns (f a)) :
    Returns (m >>= f) := by
  intro h
  obtain ⟨a, new, ran⟩ := first h
  obtain ⟨b, more, ranRest⟩ := rest a (h.extend new)
  exact ⟨b, new ++ more, by simp [bind_apply_ok ran, ranRest]⟩

theorem returns_ite {c : Prop} [Decidable c] {a b : HostM α} (yes : Returns a) (no : Returns b) :
    Returns (if c then a else b) := by
  split
  · exact yes
  · exact no

theorem returns_getstatusoutput (cmd : String) : Returns (getstatusoutput cmd) := fun _ => ⟨_, [cmd], rfl⟩

theorem returns_pathExists (path : String) : Returns (pathExists path) :=
  fun h => ⟨h.isFile h.log path, [], by simp⟩

end Returns

end AcctonAs9817.Util
