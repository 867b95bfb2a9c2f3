import HeliosBuild.Configure.Main
import HeliosBuild.Python.Interrupt

/-!
# Interrupting a prompt of `configure.py`

`ask_yes_no` catches `EOFError` and `KeyboardInterrupt` and returns `False`,
which is what it returns for the line `n`; the menus read with a bare
`input()`, so there the exception ends the run.  Every function `main` calls
respects this: run once with an interruption and once with `n` in its place,
it does the same up to the read, and after it the same again at a yes/no
question, or nothing more at a menu.  The proofs follow the code down, one
lemma a function, the two loops by induction on their lists.
-/

namespace HeliosBuild
namespace Configure

open Py

theorem loopNo_askYesNoLoop (default : Bool) : LoopNo (askYesNoLoop default) := by
  intro pre ev rest hev
  induction pre with
  | nil =>
    obtain ⟨h₁, h₂⟩ := askYesNoLoop_interrupt default ev hev rest
    cases ev with
    | line s => simp [InputEvent.interrupts] at hev
    | eof => exact .inr ⟨h₁, h₂, [], [], rfl, rfl⟩
    | interrupt => exact .inr ⟨h₁, h₂, [], [], rfl, rfl⟩
  | cons c pre ih =>
    cases c with
    | eof => exact .inl ⟨rfl, rfl, pre, rfl, rfl⟩
    | interrupt => exact .inl ⟨rfl, rfl, pre, rfl, rfl⟩
    | line s =>
      simp only [List.cons_append, askYesNoLoop]
      split_ifs
      · exact .inl ⟨rfl, rfl, pre, rfl, rfl⟩
      · exact .inl ⟨rfl, rfl, pre, rfl, rfl⟩
      · exact .inl ⟨rfl, rfl, pre, rfl, rfl⟩
      · rcases ih with ⟨h₁, h₂, pre', h₃, h₄⟩ | ⟨h₁, h₂, done, post, h₃, h₄⟩
        · exact .inl ⟨h₁, congrArg (.line s :: ·) h₂, pre', h₃, h₄⟩
        · exact .inr ⟨h₁, h₂, .line s :: done, post, congrArg (.line s :: ·) h₃,
            congrArg (.line s :: ·) h₄⟩

theorem respectsNo_askYesNo {σ : Type} (p : Prompt) (hp : p.caught = true) (default : Bool) :
    RespectsNo (askYesNo p hp default : Py σ Bool) :=
  RespectsNo.readCaught hp (loopNo_askYesNoLoop default)

/-!
## The detectors and the Visual Studio environment

None of them reads standard input.
-/

section Detectors

variable {σ : Type} (h : Host)

open CompilerDetector BuildSystemSelector

theorem respectsNo_prependPath (d : String) : RespectsNo (prependPath h d : Py σ Unit) :=
  RespectsNo.world_bind (fun _ => by split <;> exact RespectsNo.of_blind fun _ _ => ⟨rfl, rfl, rfl, rfl⟩) fun _ _ => rfl

theorem respectsNo_addClangClDir (ds : List String) : RespectsNo (addClangClDir h ds : Py σ Bool) := by
  induction ds with
  | nil => exact RespectsNo.of_blind fun _ _ => ⟨rfl, rfl, rfl, rfl⟩
  | cons d rest ih =>
    unfold addClangClDir
    repeat' first
      | with_reducible exact ih
      | with_reducible exact respectsNo_prependPath h d
      | with_reducible apply RespectsNo.ite
      | with_reducible apply RespectsNo.bind
      | (with_reducible intro)
      | exact RespectsNo.of_blind fun _ _ => ⟨rfl, rfl, rfl, rfl⟩

theorem respectsNo_setupClangClPath : RespectsNo (setupClangClPath h : Py σ Bool) := by
  unfold setupClangClPath
  repeat' first
    | with_reducible exact respectsNo_addClangClDir h _
    | with_reducible apply RespectsNo.ite
    | with_reducible apply RespectsNo.bind
    | (with_reducible intro)
    | exact RespectsNo.of_blind fun _ _ => ⟨rfl, rfl, rfl, rfl⟩

theorem respectsNo_detectMsvc : RespectsNo (detectMsvc h : Py σ (Bool × Option String)) := by
  unfold detectMsvc
  repeat' first
    | with_reducible apply RespectsNo.ite
    | with_reducible apply RespectsNo.world_bind
    | with_reducible apply RespectsNo.bind
    | with_reducible exact fun _ _ => rfl
    | (with_reducible intro)
    | exact RespectsNo.of_blind fun _ _ => ⟨rfl, rfl, rfl, rfl⟩
    | split

theorem respectsNo_detectGcc : RespectsNo (detectGcc h : Py σ Bool) :=
  RespectsNo.bind (RespectsNo.of_blind fun _ _ => ⟨rfl, rfl, rfl, rfl⟩) fun _ => RespectsNo.ite (RespectsNo.of_blind fun _ _ => ⟨rfl, rfl, rfl, rfl⟩) (RespectsNo.of_blind fun _ _ => ⟨rfl, rfl, rfl, rfl⟩)

theorem respectsNo_plainClang : RespectsNo (plainClang h : Py σ Bool) :=
  RespectsNo.bind (RespectsNo.of_blind fun _ _ => ⟨rfl, rfl, rfl, rfl⟩) fun _ => RespectsNo.ite (RespectsNo.of_blind fun _ _ => ⟨rfl, rfl, rfl, rfl⟩) (RespectsNo.of_blind fun _ _ => ⟨rfl, rfl, rfl, rfl⟩)

theorem respectsNo_detectClang : RespectsNo (detectClang h : Py σ (Bool × Option String)) := by
  unfold detectClang
  repeat' first
    | with_reducible exact respectsNo_setupClangClPath h
    | with_reducible exact respectsNo_plainClang h
    | with_reducible apply RespectsNo.ite
    | with_reducible apply RespectsNo.bind
    | (with_reducible intro)
    | exact RespectsNo.of_blind fun _ _ => ⟨rfl, rfl, rfl, rfl⟩

theorem respectsNo_detectMake : RespectsNo (detectMake h : Py σ Bool) :=
  RespectsNo.bind (RespectsNo.of_blind fun _ _ => ⟨rfl, rfl, rfl, rfl⟩) fun _ => RespectsNo.ite (RespectsNo.of_blind fun _ _ => ⟨rfl, rfl, rfl, rfl⟩) (RespectsNo.of_blind fun _ _ => ⟨rfl, rfl, rfl, rfl⟩)

theorem respectsNo_detectMsbuild : RespectsNo (detectMsbuild h : Py σ (Bool × Option String)) := by
  unfold detectMsbuild
  repeat' first
    | with_reducible exact respectsNo_detectMsvc h
    | with_reducible apply RespectsNo.ite
    | with_reducible apply RespectsNo.bind
    | (with_reducible intro)
    | exact RespectsNo.of_blind fun _ _ => ⟨rfl, rfl, rfl, rfl⟩
    | split

theorem respectsNo_importEnviron (out : List String) : RespectsNo (importEnviron h out : Py σ Unit) := by
  induction out with
  | nil => exact RespectsNo.of_blind fun _ _ => ⟨rfl, rfl, rfl, rfl⟩
  | cons line rest ih =>
    unfold importEnviron environSet
    repeat' first
      | with_reducible exact ih
      | with_reducible apply RespectsNo.ite
      | with_reducible apply RespectsNo.bind
      | (with_reducible intro)
      | exact RespectsNo.of_blind fun _ _ => ⟨rfl, rfl, rfl, rfl⟩

theorem respectsNo_toolsReady (c : BuildConfig) : RespectsNo (toolsReady h c) := by
  unfold toolsReady
  repeat' first
    | with_reducible apply RespectsNo.ite
    | with_reducible apply RespectsNo.bind
    | (with_reducible intro)
    | exact RespectsNo.of_blind fun _ _ => ⟨rfl, rfl, rfl, rfl⟩

theorem respectsNo_findVsPath : RespectsNo (findVsPath h : Py σ String) := by
  unfold findVsPath
  repeat' first
    | with_reducible apply RespectsNo.ite
    | with_reducible apply RespectsNo.world_bind
    | with_reducible apply RespectsNo.bind
    | with_reducible exact fun _ _ => rfl
    | (with_reducible intro)
    | exact RespectsNo.of_blind fun _ _ => ⟨rfl, rfl, rfl, rfl⟩

theorem respectsNo_importDeveloperEnv (c : BuildConfig) (vsPath : String) :
    RespectsNo (importDeveloperEnv h c vsPath) := by
  unfold importDeveloperEnv
  repeat' first
    | with_reducible exact respectsNo_importEnviron h _
    | with_reducible exact respectsNo_toolsReady h c
    | with_reducible apply RespectsNo.ite
    | with_reducible apply RespectsNo.bind
    | (with_reducible intro)
    | exact RespectsNo.of_blind fun _ _ => ⟨rfl, rfl, rfl, rfl⟩
    | split

theorem respectsNo_setupMsvcEnvironment : RespectsNo (setupMsvcEnvironment h) := by
  unfold setupMsvcEnvironment
  repeat' first
    | with_reducible exact respectsNo_toolsReady h _
    | with_reducible exact respectsNo_findVsPath h
    | with_reducible exact respectsNo_importDeveloperEnv h _ _
    | with_reducible apply RespectsNo.ite
    | with_reducible apply RespectsNo.bind
    | (with_reducible intro)
    | exact RespectsNo.of_blind fun _ _ => ⟨rfl, rfl, rfl, rfl⟩

end Detectors

/-!
## The resolvers

Each menu reads with `input()`; each yes/no question is an `ask_yes_no`.
-/

section Resolvers

variable (h : Host)

open CompilerDetector BuildSystemSelector CMakeBuilder ConanManager

theorem respectsNo_selectCompilerInteractive : RespectsNo (selectCompilerInteractive h) := by
  unfold selectCompilerInteractive
  simp only [← Py.bind_assoc, ← Py.ite_bind]
  repeat' first
    | with_reducible exact respectsNo_detectMsvc h
    | with_reducible exact respectsNo_detectClang h
    | with_reducible exact respectsNo_detectGcc h
    | with_reducible apply RespectsNo.input
    | with_reducible apply RespectsNo.ite
    | with_reducible apply RespectsNo.bind
    | rfl
    | (with_reducible intro)
    | exact RespectsNo.of_blind fun _ _ => ⟨rfl, rfl, rfl, rfl⟩

theorem respectsNo_validateWindows (comp : String) : RespectsNo (validateWindows h comp) := by
  unfold validateWindows
  simp only [← Py.bind_assoc, ← Py.ite_bind]
  repeat' first
    | with_reducible exact respectsNo_detectMsvc h
    | with_reducible exact respectsNo_detectClang h
    | with_reducible exact respectsNo_plainClang h
    | with_reducible exact respectsNo_setupClangClPath h
    | with_reducible apply RespectsNo.ite
    | with_reducible apply RespectsNo.bind
    | (with_reducible intro)
    | exact RespectsNo.of_blind fun _ _ => ⟨rfl, rfl, rfl, rfl⟩

theorem respectsNo_validateUnix (comp : String) : RespectsNo (validateUnix h comp) := by
  unfold validateUnix
  repeat' first
    | with_reducible exact respectsNo_detectClang h
    | with_reducible exact respectsNo_detectGcc h
    | with_reducible apply RespectsNo.ite
    | with_reducible apply RespectsNo.bind
    | (with_reducible intro)
    | exact RespectsNo.of_blind fun _ _ => ⟨rfl, rfl, rfl, rfl⟩

theorem respectsNo_autoDetectCompiler : RespectsNo (CompilerDetector.autoDetect h) := by
  unfold CompilerDetector.autoDetect
  repeat' first
    | with_reducible exact respectsNo_detectMsvc h
    | with_reducible exact respectsNo_detectClang h
    | with_reducible exact respectsNo_detectGcc h
    | with_reducible apply RespectsNo.ite
    | with_reducible apply RespectsNo.bind
    | (with_reducible intro)
    | exact RespectsNo.of_blind fun _ _ => ⟨rfl, rfl, rfl, rfl⟩

theorem respectsNo_setupCompiler : RespectsNo (setupCompiler h) := by
  unfold setupCompiler setupCompiler.setupFromCache
  simp only [← Py.bind_assoc, ← Py.ite_bind]
  repeat' first
    | with_reducible exact respectsNo_selectCompilerInteractive h
    | with_reducible exact respectsNo_validateWindows h _
    | with_reducible exact respectsNo_validateUnix h _
    | with_reducible exact respectsNo_autoDetectCompiler h
    | with_reducible apply RespectsNo.ite
    | with_reducible apply RespectsNo.world_bind
    | with_reducible apply RespectsNo.bind
    | with_reducible exact fun _ _ => rfl
    | (with_reducible intro)
    | exact RespectsNo.of_blind fun _ _ => ⟨rfl, rfl, rfl, rfl⟩
    | split

theorem respectsNo_selectBuildSystemInteractive : RespectsNo (selectBuildSystemInteractive h) := by
  unfold selectBuildSystemInteractive
  simp only [← Py.bind_assoc, ← Py.ite_bind]
  repeat' first
    | with_reducible exact respectsNo_detectMsbuild h
    | with_reducible exact respectsNo_detectMake h
    | with_reducible apply RespectsNo.input
    | with_reducible apply RespectsNo.ite
    | with_reducible apply RespectsNo.bind
    | rfl
    | (with_reducible intro)
    | exact RespectsNo.of_blind fun _ _ => ⟨rfl, rfl, rfl, rfl⟩

theorem respectsNo_validate (requested : String) : RespectsNo (validate h requested) := by
  unfold validate
  repeat' first
    | with_reducible exact respectsNo_detectMsbuild h
    | with_reducible exact respectsNo_detectMake h
    | with_reducible apply RespectsNo.ite
    | with_reducible apply RespectsNo.bind
    | (with_reducible intro)
    | exact RespectsNo.of_blind fun _ _ => ⟨rfl, rfl, rfl, rfl⟩

theorem respectsNo_autoDetectBuildSystem : RespectsNo (BuildSystemSelector.autoDetect h) := by
  unfold BuildSystemSelector.autoDetect
  repeat' first
    | with_reducible exact respectsNo_detectMsbuild h
    | with_reducible exact respectsNo_detectMake h
    | with_reducible apply RespectsNo.ite
    | with_reducible apply RespectsNo.bind
    | (with_reducible intro)
    | exact RespectsNo.of_blind fun _ _ => ⟨rfl, rfl, rfl, rfl⟩

theorem respectsNo_setupBuildSystem : RespectsNo (setupBuildSystem h) := by
  unfold setupBuildSystem
  repeat' first
    | with_reducible exact respectsNo_selectBuildSystemInteractive h
    | with_reducible exact respectsNo_validate h _
    | with_reducible exact respectsNo_autoDetectBuildSystem h
    | with_reducible apply RespectsNo.ite
    | with_reducible apply RespectsNo.bind
    | (with_reducible intro)
    | exact RespectsNo.of_blind fun _ _ => ⟨rfl, rfl, rfl, rfl⟩
    | split

theorem respectsNo_findConanToolchain : RespectsNo (findConanToolchain h) := by
  unfold findConanToolchain
  repeat' first
    | with_reducible apply RespectsNo.ite
    | with_reducible apply RespectsNo.world_bind
    | with_reducible apply RespectsNo.bind
    | with_reducible exact fun _ _ => rfl
    | (with_reducible intro)
    | exact RespectsNo.of_blind fun _ _ => ⟨rfl, rfl, rfl, rfl⟩
    | split
    | dsimp only

theorem respectsNo_installDependencies : RespectsNo (installDependencies h) := by
  unfold installDependencies withoutConan useToolchain runInstallDeps
  repeat' first
    | with_reducible exact respectsNo_askYesNo _ _ _
    | with_reducible exact respectsNo_findConanToolchain h
    | with_reducible apply RespectsNo.ite
    | with_reducible apply RespectsNo.bind
    | (with_reducible intro)
    | exact RespectsNo.of_blind fun _ _ => ⟨rfl, rfl, rfl, rfl⟩
    | split

theorem respectsNo_setupConan : RespectsNo (setupConan h) := by
  unfold setupConan askUseConan withoutConan useToolchain
  repeat' first
    | with_reducible exact respectsNo_askYesNo _ _ _
    | with_reducible exact respectsNo_findConanToolchain h
    | with_reducible exact respectsNo_installDependencies h
    | with_reducible apply RespectsNo.ite
    | with_reducible apply RespectsNo.bind
    | (with_reducible intro)
    | exact RespectsNo.of_blind fun _ _ => ⟨rfl, rfl, rfl, rfl⟩
    | split

theorem respectsNo_mkdirBuildDir (k : WsKey) : RespectsNo (mkdirBuildDir h k) :=
  RespectsNo.world_bind (fun _ => RespectsNo.ite (RespectsNo.bind (RespectsNo.of_blind fun _ _ => ⟨rfl, rfl, rfl, rfl⟩) fun _ => RespectsNo.of_blind fun _ _ => ⟨rfl, rfl, rfl, rfl⟩) (RespectsNo.of_blind fun _ _ => ⟨rfl, rfl, rfl, rfl⟩))
    fun _ _ => rfl

theorem respectsNo_rmtreeBuildDir (k : WsKey) : RespectsNo (rmtreeBuildDir h k) :=
  RespectsNo.world_bind (fun _ => RespectsNo.ite (RespectsNo.bind (RespectsNo.of_blind fun _ _ => ⟨rfl, rfl, rfl, rfl⟩) fun _ => RespectsNo.of_blind fun _ _ => ⟨rfl, rfl, rfl, rfl⟩) (RespectsNo.of_blind fun _ _ => ⟨rfl, rfl, rfl, rfl⟩))
    fun _ _ => rfl

theorem respectsNo_runCMake (k : WsKey) (argv : List String) : RespectsNo (runCMake h k argv) :=
  RespectsNo.bind (RespectsNo.of_blind fun _ _ => ⟨rfl, rfl, rfl, rfl⟩) fun _ => RespectsNo.ite (RespectsNo.bind (RespectsNo.of_blind fun _ _ => ⟨rfl, rfl, rfl, rfl⟩) fun _ => RespectsNo.of_blind fun _ _ => ⟨rfl, rfl, rfl, rfl⟩) (RespectsNo.of_blind fun _ _ => ⟨rfl, rfl, rfl, rfl⟩)

theorem respectsNo_extraArgs (c : BuildConfig) : RespectsNo (extraArgs c) := by
  unfold extraArgs
  split
  · exact RespectsNo.of_blind fun _ _ => ⟨rfl, rfl, rfl, rfl⟩
  · split <;> exact RespectsNo.of_blind fun _ _ => ⟨rfl, rfl, rfl, rfl⟩

theorem respectsNo_compilerFlags (c : BuildConfig) : RespectsNo (compilerFlags h c) := by
  unfold compilerFlags
  repeat' first
    | with_reducible apply RespectsNo.ite
    | with_reducible apply RespectsNo.bind
    | (with_reducible intro)
    | exact RespectsNo.of_blind fun _ _ => ⟨rfl, rfl, rfl, rfl⟩
    | split

theorem respectsNo_configureManual : RespectsNo (configureManual h) := by
  unfold configureManual
  -- gather the copies of the rest of the function that each `if` without `else` made
  simp only [← Py.bind_assoc, ← Py.ite_bind]
  repeat' first
    | with_reducible exact respectsNo_askYesNo _ _ _
    | with_reducible exact respectsNo_mkdirBuildDir h _
    | with_reducible exact respectsNo_rmtreeBuildDir h _
    | with_reducible exact respectsNo_runCMake h _ _
    | with_reducible exact respectsNo_extraArgs _
    | with_reducible exact respectsNo_compilerFlags h _
    | with_reducible apply RespectsNo.ite
    | with_reducible apply RespectsNo.world_bind
    | with_reducible apply RespectsNo.bind_world
    | with_reducible apply RespectsNo.bind
    | with_reducible exact fun _ _ => rfl
    | (with_reducible intro)
    | exact RespectsNo.of_blind fun _ _ => ⟨rfl, rfl, rfl, rfl⟩
    | split

theorem respectsNo_configure : RespectsNo (configure h) := by
  unfold configure configureWithToolchain
  repeat' first
    | with_reducible exact respectsNo_configureManual h
    | with_reducible exact respectsNo_mkdirBuildDir h _
    | with_reducible exact respectsNo_runCMake h _ _
    | with_reducible exact respectsNo_extraArgs _
    | with_reducible apply RespectsNo.ite
    | with_reducible apply RespectsNo.bind
    | (with_reducible intro)
    | exact RespectsNo.of_blind fun _ _ => ⟨rfl, rfl, rfl, rfl⟩
    | split

theorem respectsNo_selectModulesInteractive : RespectsNo selectModulesInteractive := by
  unfold selectModulesInteractive
  repeat' first
    | with_reducible apply RespectsNo.input
    | with_reducible apply RespectsNo.ite
    | with_reducible apply RespectsNo.bind
    | rfl
    | (with_reducible intro)
    | exact RespectsNo.of_blind fun _ _ => ⟨rfl, rfl, rfl, rfl⟩

theorem respectsNo_selectBuildTypeInteractive : RespectsNo selectBuildTypeInteractive := by
  unfold selectBuildTypeInteractive
  repeat' first
    | with_reducible apply RespectsNo.input
    | with_reducible apply RespectsNo.ite
    | with_reducible apply RespectsNo.bind
    | rfl
    | (with_reducible intro)
    | exact RespectsNo.of_blind fun _ _ => ⟨rfl, rfl, rfl, rfl⟩

theorem respectsNo_selectTestsAndExamplesInteractive :
    RespectsNo selectTestsAndExamplesInteractive := by
  unfold selectTestsAndExamplesInteractive
  repeat' first
    | with_reducible exact respectsNo_askYesNo _ _ _
    | with_reducible apply RespectsNo.ite
    | with_reducible apply RespectsNo.bind
    | (with_reducible intro)
    | exact RespectsNo.of_blind fun _ _ => ⟨rfl, rfl, rfl, rfl⟩

theorem respectsNo_msvcStep : RespectsNo (msvcStep h) := by
  unfold msvcStep
  repeat' first
    | with_reducible exact respectsNo_setupMsvcEnvironment h
    | with_reducible apply RespectsNo.ite
    | with_reducible apply RespectsNo.bind
    | (with_reducible intro)
    | exact RespectsNo.of_blind fun _ _ => ⟨rfl, rfl, rfl, rfl⟩

theorem respectsNo_resolveInteractive : RespectsNo (resolveInteractive h) := by
  unfold resolveInteractive
  simp only [← Py.bind_assoc, ← Py.ite_bind]
  repeat' first
    | with_reducible exact respectsNo_selectModulesInteractive
    | with_reducible exact respectsNo_selectTestsAndExamplesInteractive
    | with_reducible exact respectsNo_selectBuildTypeInteractive
    | with_reducible exact respectsNo_selectCompilerInteractive h
    | with_reducible exact respectsNo_setupCompiler h
    | with_reducible exact respectsNo_selectBuildSystemInteractive h
    | with_reducible exact respectsNo_setupBuildSystem h
    | with_reducible exact respectsNo_msvcStep h
    | with_reducible apply RespectsNo.ite
    | with_reducible apply RespectsNo.discard
    | with_reducible apply RespectsNo.bind
    | (with_reducible intro)
    | exact RespectsNo.of_blind fun _ _ => ⟨rfl, rfl, rfl, rfl⟩

theorem respectsNo_resolveNonInteractive : RespectsNo (resolveNonInteractive h) := by
  unfold resolveNonInteractive
  repeat' first
    | with_reducible exact respectsNo_setupCompiler h
    | with_reducible exact respectsNo_setupBuildSystem h
    | with_reducible exact respectsNo_msvcStep h
    | with_reducible apply RespectsNo.ite
    | with_reducible apply RespectsNo.bind
    | (with_reducible intro)
    | exact RespectsNo.of_blind fun _ _ => ⟨rfl, rfl, rfl, rfl⟩

theorem respectsNo_reachConfigure (argv : List String) : RespectsNo (reachConfigure h argv) := by
  unfold reachConfigure
  repeat' first
    | with_reducible exact respectsNo_resolveInteractive h
    | with_reducible exact respectsNo_resolveNonInteractive h
    | with_reducible exact respectsNo_setupConan h
    | with_reducible apply RespectsNo.ite
    | with_reducible apply RespectsNo.bind
    | (with_reducible intro)
    | exact RespectsNo.of_blind fun _ _ => ⟨rfl, rfl, rfl, rfl⟩
    | split

theorem respectsNo_main (argv : List String) : RespectsNo (main h argv) := by
  unfold main
  repeat' first
    | with_reducible exact respectsNo_reachConfigure h argv
    | with_reducible exact respectsNo_configure h
    | with_reducible apply RespectsNo.ite
    | with_reducible apply RespectsNo.bind
    | (with_reducible intro)
    | exact RespectsNo.of_blind fun _ _ => ⟨rfl, rfl, rfl, rfl⟩

end Resolvers

/-!
## An interruption in a session of `main`

Put an interruption at any point of any session, and the line `n` there
instead: the two runs of `main` compare as `ReadsAsNo` says.
-/

theorem main_reads_interrupt_as_no (h : Host) (argv : List String) (w : World BuildConfig)
    (pre rest : List InputEvent) (ev : InputEvent) (hev : ev.interrupts = true) :
    ReadsAsNo (main h argv { w with stdin := pre ++ ev :: rest })
      (main h argv { w with stdin := pre ++ .line "n" :: rest }) :=
  respectsNo_main h argv _ _ ⟨rfl, pre, ev, rest, hev, rfl, rfl⟩

theorem main_reads_interrupt_as_no_at_conan :
    let h : Host := Host.ofTools .linux ["cmake", "gcc", "g++", "ninja"]
    let w : World BuildConfig := ⟨BuildConfig.init, [], ⟨[], by decide⟩, []⟩
    InputEvent.interrupt.interrupts = true ∧
      ReadsAsNo (main h [] { w with stdin := [.line "", .line "", .line "", .line ""] ++ [.interrupt] })
        (main h [] { w with stdin := [.line "", .line "", .line "", .line ""] ++ [.line "n"] }) :=
  ⟨rfl, main_reads_interrupt_as_no _ _ _ _ [] _ rfl⟩

end Configure
end HeliosBuild
