import HeliosBuild.Python.Host

/-!
# Script runs

A run of `build.py` or `configure.py` is a sequence of Python statements over
a world: the script's own objects, `os.environ`, the build tree and what is
left of standard input.  A statement returns a value or raises, and it leaves
a list of effects the claims talk about: prompts read, subprocesses started,
directories created or removed.

An exception that nothing catches ends the run.  The prompts of the scripts
come in two kinds: some wrap `input()` in `except (KeyboardInterrupt,
EOFError)`, the others let the interruption escape.  `Outcome` records as two
of its fields what follows for every run: an escaping interruption is the last
effect of the run, and the run raises.  Binding two statements keeps both
fields, so every script of the model has them by construction.
-/

namespace HeliosBuild

/-- One event on standard input: a line, the end of input, or Ctrl-C. -/
inductive InputEvent
  | line (text : String)
  | eof
  | interrupt
  deriving DecidableEq, Repr

/-- The event makes `input()` raise (`EOFError` or `KeyboardInterrupt`). -/
def InputEvent.interrupts : InputEvent → Bool
  | .line _ => false
  | _ => true

/-- The places where the scripts call `input()`. -/
inductive Prompt
  | modules
  | tests
  | examples
  | buildType
  | compiler
  | buildSystem
  | useConan
  | reinstall
  | runInstallDeps
  | cleanBuildDir
  | buildDirSelect
  | reconfigureSelect
  deriving DecidableEq, Repr

/-- The prompts whose `input()` sits in `try ... except (KeyboardInterrupt, EOFError)`: the questions of `ask_yes_no` and the first question of the workspace menu. -/
def Prompt.caught : Prompt → Bool
  | .tests | .examples | .useConan | .reinstall | .runInstallDeps | .cleanBuildDir
  | .buildDirSelect => true
  | .modules | .buildType | .compiler | .buildSystem | .reconfigureSelect => false

inductive Effect
  | read (p : Prompt) (ev : InputEvent)
  | run (argv : List String)
  | shell (cmd : String)
  | mkdir (path : String)
  | rmtree (path : String)
  deriving DecidableEq, Repr

def Effect.stops : Effect → Bool
  | .read p ev => !p.caught && ev.interrupts
  | _ => false

def cleanStop : List Effect → Bool
  | [] => true
  | e :: rest => if e.stops then rest.isEmpty else cleanStop rest

theorem cleanStop_append_of_not_stops {a : List Effect} (b : List Effect)
    (ha : a.any Effect.stops = false) :
    cleanStop (a ++ b) = cleanStop b := by
  induction a with
  | nil => rfl
  | cons e rest ih =>
      simp only [List.any_cons, Bool.or_eq_false_iff] at ha
      simp [cleanStop, ha.1, ih ha.2]

theorem cleanStop_of_not_stops {a : List Effect} (ha : a.any Effect.stops = false) :
    cleanStop a = true := by
  simpa using cleanStop_append_of_not_stops [] ha

def runsOf : List Effect → List (List String)
  | [] => []
  | .run argv :: rest => argv :: runsOf rest
  | _ :: rest => runsOf rest

@[simp] theorem runsOf_nil : runsOf [] = [] := rfl

@[simp] theorem runsOf_cons (e : Effect) (rest : List Effect) :
    runsOf (e :: rest) = (match e with | .run argv => [argv] | _ => []) ++ runsOf rest := by
  cases e <;> rfl

@[simp] theorem runsOf_append (a b : List Effect) : runsOf (a ++ b) = runsOf a ++ runsOf b := by
  induction a with
  | nil => rfl
  | cons e rest ih => simp [ih]

@[simp] theorem runsOf_ite (c : Prop) [Decidable c] (a b : List Effect) :
    runsOf (if c then a else b) = if c then runsOf a else runsOf b := by
  split <;> rfl

@[simp] theorem runsOf_map_read (p : Prompt) (evs : List InputEvent) :
    runsOf (evs.map (Effect.read p)) = [] := by
  induction evs <;> simp_all

inductive PyExc
  | eofError
  | keyboardInterrupt
  | keyError (key : String)
  | valueError
  | typeError
  | indexError
  | systemExit (code : Int)
  deriving DecidableEq, Repr

def exitStatus : Except PyExc Int → Int
  | .ok n => n
  | .error (.systemExit n) => n
  | .error .keyboardInterrupt => 130
  | .error _ => 1

def PyExc.interrupts : PyExc → Bool
  | .eofError | .keyboardInterrupt => true
  | _ => false

def interruptedBy : Except PyExc α → Bool
  | .error e => e.interrupts
  | .ok _ => false

def StopsClean (effs : List Effect) (r : Except PyExc α) : Prop :=
  cleanStop effs = true ∧ (effs.any Effect.stops = true → interruptedBy r = true)

theorem StopsClean.single {e : Effect} {r : Except PyExc α} (he : e.stops = false) :
    StopsClean [e] r := by
  simp [StopsClean, cleanStop, he]

theorem StopsClean.single_interrupted {e : Effect} {x : PyExc} (hx : x.interrupts = true) :
    StopsClean [e] (Except.error x : Except PyExc α) := by
  cases h : e.stops <;> simp [StopsClean, cleanStop, h, interruptedBy, hx]

theorem StopsClean.cons {effs : List Effect} {r : Except PyExc α} {e : Effect}
    (he : e.stops = false) (h : StopsClean effs r) : StopsClean (e :: effs) r := by
  simpa [StopsClean, cleanStop, he] using h

structure World (σ : Type) where
  obj : σ
  env : Env
  tree : Tree
  stdin : List InputEvent

@[simp] theorem World.exists_env_eq (w : World σ) : ∃ env, w = { w with env := env } :=
  ⟨w.env, rfl⟩

structure Outcome (σ α : Type) where
  result : Except PyExc α
  state : World σ
  effects : List Effect
  clean : cleanStop effects = true
  raises : effects.any Effect.stops = true → interruptedBy result = true

theorem cleanStop_getLast {effs : List Effect} (hc : cleanStop effs = true) {e : Effect}
    (he : e ∈ effs) (hs : e.stops = true) : effs.getLast? = some e := by
  induction effs with
  | nil => simp at he
  | cons e' rest ih =>
    by_cases hs' : e'.stops = true
    · simp only [cleanStop, hs', ite_true, List.isEmpty_iff] at hc
      subst hc
      simp_all
    · simp only [cleanStop, hs', Bool.false_eq_true, ite_false] at hc
      rcases List.mem_cons.mp he with rfl | hr
      · exact absurd hs hs'
      · rw [List.getLast?_cons, ih hc hr]
        rfl

theorem exitStatus_of_interrupted {r : Except PyExc Int} (h : interruptedBy r = true) :
    exitStatus r ≠ 0 := by
  rcases r with (_ | _ | _ | _ | _ | _ | _) | _ <;> simp_all [interruptedBy, PyExc.interrupts, exitStatus]

theorem Outcome.stop_last {o : Outcome σ Int} {e : Effect} (he : e ∈ o.effects)
    (hs : e.stops = true) : o.effects.getLast? = some e ∧ exitStatus o.result ≠ 0 :=
  ⟨cleanStop_getLast o.clean he hs,
    exitStatus_of_interrupted (o.raises (List.any_eq_true.mpr ⟨e, he, hs⟩))⟩

def Py (σ α : Type) : Type := World σ → Outcome σ α

namespace Py

variable {σ α β : Type}

protected def pure (a : α) : Py σ α := fun w =>
  { result := .ok a, state := w, effects := [], clean := rfl, raises := by simp }

def andThen (o : Outcome σ α) (f : α → Py σ β) : Outcome σ β :=
  match o with
  | ⟨.ok a, w, effs, _, hr⟩ =>
      have hs : effs.any Effect.stops = false := by
        cases h : effs.any Effect.stops
        · rfl
        · exact absurd (hr h) (by simp [interruptedBy])
      let o' := f a w
      { result := o'.result, state := o'.state, effects := effs ++ o'.effects
        clean := by rw [cleanStop_append_of_not_stops _ hs]; exact o'.clean
        raises := by
          intro h
          simp only [List.any_append, hs, Bool.false_or] at h
          exact o'.raises h }
  | ⟨.error e, w, effs, hc, hr⟩ =>
      { result := .error e, state := w, effects := effs, clean := hc, raises := hr }

protected def bind (x : Py σ α) (f : α → Py σ β) : Py σ β := fun w => andThen (x w) f

instance : Monad (Py σ) where
  pure := Py.pure
  bind := Py.bind

def raise (e : PyExc) : Py σ α := fun w =>
  { result := .error e, state := w, effects := [], clean := rfl, raises := by simp }

def world : Py σ (World σ) := fun w =>
  { result := .ok w, state := w, effects := [], clean := rfl, raises := by simp }

def modify (f : World σ → World σ) : Py σ Unit := fun w =>
  { result := .ok (), state := f w, effects := [], clean := rfl, raises := by simp }

def emit (e : Effect) (he : e.stops = false) : Py σ Unit := fun w =>
  { result := .ok (), state := w, effects := [e]
    clean := by simp [cleanStop, he]
    raises := by simp [he] }

/-- `input()` at a prompt that does not catch the interruption. -/
def input (p : Prompt) : Py σ String := fun w =>
  match w.stdin with
  | .line s :: rest =>
      { result := .ok s, state := { w with stdin := rest }, effects := [.read p (.line s)]
        clean := by simp [cleanStop], raises := by simp [Effect.stops, InputEvent.interrupts] }
  | .eof :: rest =>
      { result := .error .eofError, state := { w with stdin := rest }, effects := [.read p .eof]
        clean := by simp [cleanStop], raises := fun _ => rfl }
  | .interrupt :: rest =>
      { result := .error .keyboardInterrupt, state := { w with stdin := rest }
        effects := [.read p .interrupt], clean := by simp [cleanStop], raises := fun _ => rfl }
  | [] =>
      { result := .error .eofError, state := w, effects := [.read p .eof]
        clean := by simp [cleanStop], raises := fun _ => rfl }

def readCaught (p : Prompt) (hp : p.caught = true)
    (loop : List InputEvent → α × List InputEvent × List InputEvent) : Py σ α := fun w =>
  have hs : ((loop w.stdin).2.2.map (Effect.read p)).any Effect.stops = false := by
    simp [Effect.stops, hp]
  { result := .ok (loop w.stdin).1, state := { w with stdin := (loop w.stdin).2.1 }
    effects := (loop w.stdin).2.2.map (Effect.read p)
    clean := cleanStop_of_not_stops hs
    raises := by rw [hs]; exact fun h => absurd h (by decide) }

end Py

/-!
## Equations for binding
-/

namespace Py

variable {σ α β : Type} {x : Py σ α} {f : α → Py σ β} {w : World σ}

theorem bind_apply : (x >>= f) w = andThen (x w) f := rfl

theorem andThen_ok {o : Outcome σ α} {a : α} (h : o.result = .ok a) :
    (andThen o f).result = (f a o.state).result ∧
      (andThen o f).state = (f a o.state).state ∧
      (andThen o f).effects = o.effects ++ (f a o.state).effects := by
  obtain ⟨r, w, effs, hc, hr⟩ := o
  subst h
  exact ⟨rfl, rfl, rfl⟩

theorem andThen_error {o : Outcome σ α} {e : PyExc} (h : o.result = .error e) :
    (andThen o f).result = .error e ∧ (andThen o f).state = o.state ∧
      (andThen o f).effects = o.effects := by
  obtain ⟨r, w, effs, hc, hr⟩ := o
  subst h
  exact ⟨rfl, rfl, rfl⟩

theorem bind_ok {a : α} (h : (x w).result = .ok a) :
    ((x >>= f) w).result = (f a (x w).state).result ∧
      ((x >>= f) w).state = (f a (x w).state).state ∧
      ((x >>= f) w).effects = (x w).effects ++ (f a (x w).state).effects :=
  andThen_ok h

theorem bind_error {e : PyExc} (h : (x w).result = .error e) :
    ((x >>= f) w).result = .error e ∧ ((x >>= f) w).state = (x w).state ∧
      ((x >>= f) w).effects = (x w).effects :=
  andThen_error h

@[simp] theorem pure_apply (a : α) : (pure a : Py σ α) w =
    { result := .ok a, state := w, effects := [], clean := rfl, raises := by simp } := rfl

end Py

theorem Outcome.ext {σ α : Type} {o o' : Outcome σ α} (hr : o.result = o'.result)
    (hs : o.state = o'.state) (he : o.effects = o'.effects) : o = o' := by
  cases o; cases o'; simp_all

namespace Py

variable {σ α β γ : Type}

theorem bind_assoc (x : Py σ α) (f : α → Py σ β) (g : β → Py σ γ) :
    (x >>= f) >>= g = x >>= fun a => f a >>= g := by
  funext w
  cases hx : (x w).result with
  | error e =>
    have h₁ := bind_error (f := f) hx
    have h₂ := bind_error (f := g) h₁.1
    have h₃ := bind_error (f := fun a => f a >>= g) hx
    exact Outcome.ext (by rw [h₂.1, h₃.1]) (by rw [h₂.2.1, h₁.2.1, h₃.2.1])
      (by rw [h₂.2.2, h₁.2.2, h₃.2.2])
  | ok a =>
    have h₁ := bind_ok (f := f) hx
    have h₃ := bind_ok (f := fun a => f a >>= g) hx
    cases hf : (f a (x w).state).result with
    | error e =>
      have h₂ := bind_error (f := g) (h₁.1.trans hf)
      have h₄ := bind_error (f := g) hf
      exact Outcome.ext (by rw [h₂.1, h₃.1, h₄.1]) (by rw [h₂.2.1, h₁.2.1, h₃.2.1, h₄.2.1])
        (by rw [h₂.2.2, h₁.2.2, h₃.2.2, h₄.2.2])
    | ok b =>
      have h₂ := bind_ok (f := g) (h₁.1.trans hf)
      have h₄ := bind_ok (f := g) hf
      exact Outcome.ext (by rw [h₂.1, h₃.1, h₄.1, h₁.2.1]) (by rw [h₂.2.1, h₃.2.1, h₄.2.1, h₁.2.1])
        (by rw [h₂.2.2, h₃.2.2, h₄.2.2, h₁.2.2, h₁.2.1, List.append_assoc])

theorem ite_bind {c : Prop} [Decidable c] (x y : Py σ α) (f : α → Py σ β) :
    (if c then x else y) >>= f = if c then x >>= f else y >>= f := by
  split <;> rfl

theorem ite_apply {c : Prop} [Decidable c] (x y : Py σ α) (w : World σ) :
    (if c then x else y) w = if c then x w else y w := by
  split <;> rfl

end Py

end HeliosBuild

namespace HeliosBuild
namespace Py

variable {σ : Type}

/-- `subprocess.run(argv)`, as far as the run records it. -/
def runCmd (argv : List String) : Py σ Unit := emit (.run argv) rfl

/-- `subprocess.run(cmd, shell=True)`. -/
def shellCmd (cmd : String) : Py σ Unit := emit (.shell cmd) rfl

/-- `check_command(cmd)`: `shutil.which(cmd) is not None` in the current environment. -/
def checkCommand (h : Host) (cmd : String) : Py σ Bool := fun w =>
  { result := .ok (h.which w.env cmd), state := w, effects := [], clean := rfl
    raises := by simp }

def obj : Py σ σ := fun w =>
  { result := .ok w.obj, state := w, effects := [], clean := rfl, raises := by simp }

def modifyObj (f : σ → σ) : Py σ Unit := modify fun w => { w with obj := f w.obj }

end Py
end HeliosBuild
