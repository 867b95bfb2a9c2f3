import HeliosBuild.Configure.Prompts
import HeliosBuild.InstallDeps

/-!
# Conan in `configure.py`

`ConanManager.setup_conan` decides whether the build uses Conan.  An explicit
choice is kept as the starting point, an existing toolchain means yes, and
otherwise an interactive run asks.  Without a toolchain in the workspace it
offers to run `install_deps.py`; whenever no toolchain ends up in place it
falls back to building without Conan.
-/

namespace HeliosBuild
namespace Configure
namespace ConanManager

/-- `ConanManager.find_conan_toolchain`. -/
def findConanToolchain (h : Host) : Cfg (Option String) := do
  let c ← config
  let w ← Py.world
  let k := c.getBuildDir h.system
  match w.tree.find? k with
  | some ws =>
    return if ws.conanToolchain then some (wsPath h.projectRoot k ++ "/conan_toolchain.cmake")
      else none
  | none => return none

/-- `ConanManager.ask_use_conan`. -/
def askUseConan (h : Host) : Cfg Bool := do
  let c ← config
  match c.useConan with
  | some u => return u
  | none =>
    if (← findConanToolchain h).isSome then
      return true
    if !c.interactive then
      return false
    askYesNo .useConan rfl true

/-- `scripts/install_deps.py`. -/
def installDepsScript (h : Host) : String :=
  h.projectRoot ++ "/scripts/install_deps.py"

/-- The arguments `setup_conan` passes to `install_deps.py`. -/
def installDepsArgs (c : BuildConfig) (buildType : String) : List String :=
  ["--use-conan", "--no-interactive", "--build-type", buildType] ++
  (if truthy c.compiler then ["--compiler", pyFormat c.compiler] else []) ++
  (if truthy c.buildSystem then ["--generator", pyFormat c.buildSystem] else [])

/-- Run `install_deps.py` (its interpreter and path, then its arguments). -/
def runInstallDeps (h : Host) (argv : List String) : Cfg Int := do
  Py.runCmd argv
  if let .error e := InstallDeps.parseArguments (argv.drop 2) then
    return exitStatus (.error (Argparse.parseExit e))
  let k := (← config).getBuildDir h.system
  if h.installDepsToolchain argv then
    Py.modify fun w =>
      { w with tree := (w.tree.mkdir k).update k fun ws =>
          { ws with conanToolchain := true, conanBuild := ws.conanBuild || h.isWindows } }
  return h.rc argv

/-- Build without Conan: `self.config.use_conan = False; return True`. -/
def withoutConan : Cfg Bool := do
  setConfig fun c => { c with useConan := some false }
  return true

/-- Use the toolchain found: `self.config.conan_toolchain = toolchain; return True`. -/
def useToolchain (tc : String) : Cfg Bool := do
  setConfig fun c => { c with conanToolchain := some tc }
  return true

def installDependencies (h : Host) : Cfg Bool := do
  if !h.fileExists (installDepsScript h) then
    return (← withoutConan)
  if !(← config).interactive then
    return (← withoutConan)
  if !(← askYesNo .runInstallDeps rfl true) then
    return (← withoutConan)
  let c ← config
  match c.buildType with
  | none => Py.raise .typeError
  | some bt =>
    let rc ← runInstallDeps h (["python", installDepsScript h] ++ installDepsArgs c bt)
    if rc ≠ 0 then
      return (← withoutConan)
    match ← findConanToolchain h with
    | some tc => useToolchain tc
    | none => withoutConan

/-- `ConanManager.setup_conan`. -/
def setupConan (h : Host) : Cfg Bool := do
  if !(← askUseConan h) then
    return (← withoutConan)
  setConfig fun c => { c with useConan := some true }
  match ← findConanToolchain h with
  | some tc =>
    if (← config).interactive then
      if !(← askYesNo .reinstall rfl false) then
        return (← useToolchain tc)
      installDependencies h
    else
      useToolchain tc
  | none => installDependencies h

end ConanManager

/-!
# How the Conan step ends

`setup_conan` changes only the Conan fields of the configuration, and the
build tree through `install_deps.py`.  It ends using a toolchain it found or
made, or with `use_conan` off.
-/

def ConanFrame (w w' : World BuildConfig) : Prop :=
  w'.env = w.env ∧ ∃ u tc, w'.obj = { w.obj with useConan := u, conanToolchain := tc }

def ConanSettled (w w' : World BuildConfig) : Prop :=
  (w'.obj.useConan = some true ∧ w'.obj.conanToolchain.isSome) ∨
    (w'.obj.useConan = some false ∧ w'.obj.conanToolchain = w.obj.conanToolchain)

section Specs

open Py ConanManager

variable (h : Host) (w : World BuildConfig)

theorem ConanManager.findConanToolchain_wp : wp (findConanToolchain h) (fun _ w' => w' = w) w := by
  simp only [findConanToolchain, wp_bind, wp_config, wp_world]
  split <;> simp

theorem ConanManager.askUseConan_wp : wp (askUseConan h) (fun r w' => w'.obj = w.obj ∧ w'.env = w.env ∧
    w'.tree = w.tree ∧ ∀ u, w.obj.useConan = some u → r = u) w := by
  simp only [askUseConan, wp_bind, wp_config]
  split
  · simp_all
  · simp only [wp_bind]
    refine (findConanToolchain_wp h w).mono ?_
    rintro _ w₁ rfl
    simp_all [askYesNo]

theorem ConanManager.runInstallDeps_wp (argv : List String) :
    wp (runInstallDeps h argv) (fun _ w' => w'.obj = w.obj ∧ w'.env = w.env) w := by
  simp only [runInstallDeps, wp_bind, wp_runCmd, wp_config]
  split <;> simp

theorem ConanManager.installDependencies_wp (hu : w.obj.useConan = some true) : wp (installDependencies h) (fun r w' =>
    ConanFrame w w' ∧ (r = true → ConanSettled w w')) w := by
  simp only [installDependencies, withoutConan, useToolchain, askYesNo, wp_bind, wp_ite, wp_pure,
    wp_setConfig, wp_config, wp_readCaught]
  refine ⟨fun _ => by simp [ConanFrame, ConanSettled], fun _ => ⟨fun _ => by simp [ConanFrame, ConanSettled],
    fun _ => ⟨fun _ => by simp [ConanFrame, ConanSettled], fun _ => ?_⟩⟩⟩
  split
  · simp
  · simp only [wp_bind]
    refine (runInstallDeps_wp h _ _).mono ?_
    rintro rc w₁ ⟨hobj, henv⟩
    simp only [wp_ite, wp_bind, wp_pure, wp_setConfig]
    refine ⟨fun _ => by simp [ConanFrame, ConanSettled, hobj, henv], fun _ => ?_⟩
    refine (findConanToolchain_wp h w₁).mono ?_
    rintro tc w₂ rfl
    split <;> simp [ConanFrame, ConanSettled, hobj, henv, hu]

theorem ConanManager.setupConan_wp : wp (setupConan h) (fun r w' => ConanFrame w w' ∧
    (r = true → ConanSettled w w') ∧ (w.obj.useConan = some false → w'.obj.useConan = some false)) w := by
  simp only [setupConan, withoutConan, useToolchain, askYesNo, wp_bind, wp_ite, wp_pure,
    wp_setConfig, wp_config, wp_readCaught]
  refine (askUseConan_wp h w).mono ?_
  rintro use w₁ ⟨hobj, henv, -, huse⟩
  refine ⟨fun _ => by simp [ConanFrame, ConanSettled, hobj, henv], fun hyes => ?_⟩
  have hno : w.obj.useConan ≠ some false := fun hf => by simp [huse _ hf] at hyes
  have hinst : ∀ w₂ : World BuildConfig, w₂.obj = { w.obj with useConan := some true } → w₂.env = w.env →
      wp (installDependencies h) (fun r w' => ConanFrame w w' ∧
        (r = true → ConanSettled w w') ∧ (w.obj.useConan = some false → w'.obj.useConan = some false)) w₂ :=
    fun w₂ h₂ he => (installDependencies_wp h w₂ (by simp [h₂])).mono fun _ _ ⟨⟨he', u, tc, hw'⟩, hs⟩ =>
      ⟨⟨he'.trans he, u, tc, by simp [hw', h₂]⟩, fun hr => by simpa [ConanSettled, h₂] using hs hr,
        fun hf => absurd hf hno⟩
  refine (findConanToolchain_wp h _).mono ?_
  rintro tc w₂ rfl
  split
  · simp only [wp_ite, wp_bind, wp_pure, wp_setConfig, wp_config, wp_readCaught]
    refine ⟨fun _ => ⟨fun _ => ?_, fun _ => hinst _ (by simp [hobj]) henv⟩, fun _ => ?_⟩ <;>
      simp [ConanFrame, ConanSettled, hobj, henv, hno]
  · exact hinst _ (by simp [hobj]) henv

end Specs

end Configure
end HeliosBuild
