import HeliosBuild.Python.Argparse
import HeliosBuild.Configure.Compiler
import HeliosBuild.Configure.BuildSystem
import HeliosBuild.Configure.Conan
import HeliosBuild.Configure.CMake

/-!
# `configure.py`'s entry point

`main` parses the command line into a fresh `BuildConfig`, checks for `cmake`,
resolves the remaining fields in the fixed order modules, tests and examples,
build type, compiler, build system (interactively or with defaults), sets up
the MSVC environment, decides on Conan and finally runs
`CMakeBuilder.configure`.

`reachConfigure` is `main` up to that last call; the configuration it leaves
is the one `configure` receives.
-/

namespace HeliosBuild
namespace Configure

open Argparse

/-- The parser of `configure.py`'s `parse_arguments`. -/
def parser : Parser where
  arguments :=
    [⟨["-h", "--help"], "help", .help⟩,
     ⟨["-t", "--type"], "type", .store (some ["Debug", "Release", "RelWithDebInfo"])⟩,
     ⟨["-c", "--compiler"], "compiler", .store none⟩,
     ⟨["-b", "--build-system"], "build_system", .store none⟩,
     ⟨["--core-only"], "core_only", .storeConst true⟩,
     ⟨["--tests"], "build_tests", .storeConst true⟩,
     ⟨["--no-tests"], "build_tests", .storeConst false⟩,
     ⟨["--examples"], "build_examples", .storeConst true⟩,
     ⟨["--no-examples"], "build_examples", .storeConst false⟩,
     ⟨["--clean"], "clean", .storeConst true⟩,
     ⟨["--no-interactive"], "no_interactive", .storeConst true⟩,
     ⟨["--use-conan"], "use_conan", .storeConst true⟩,
     ⟨["--no-conan"], "no_conan", .storeConst true⟩,
     ⟨["--cmake-args"], "cmake_args", .store none⟩]
  defaults :=
    [("type", .none), ("compiler", .none), ("build_system", .none), ("core_only", .bool false),
     ("build_tests", .none), ("build_examples", .none), ("clean", .bool false),
     ("no_interactive", .bool false), ("use_conan", .bool false), ("no_conan", .bool false),
     ("cmake_args", .str "")]

/-- The namespace `configure.py`'s `parse_arguments` returns. -/
structure Args where
  type : Option String
  compiler : Option String
  buildSystem : Option String
  coreOnly : Bool
  buildTests : Option Bool
  buildExamples : Option Bool
  clean : Bool
  noInteractive : Bool
  useConan : Bool
  noConan : Bool
  cmakeArgs : String
  deriving DecidableEq, Repr

/-- The attributes of a parsed namespace. -/
def Args.ofNamespace (ns : Namespace) : Args where
  type := (ns.get "type").optStr
  compiler := (ns.get "compiler").optStr
  buildSystem := (ns.get "build_system").optStr
  coreOnly := ((ns.get "core_only").optBool).getD false
  buildTests := (ns.get "build_tests").optBool
  buildExamples := (ns.get "build_examples").optBool
  clean := ((ns.get "clean").optBool).getD false
  noInteractive := ((ns.get "no_interactive").optBool).getD false
  useConan := ((ns.get "use_conan").optBool).getD false
  noConan := ((ns.get "no_conan").optBool).getD false
  cmakeArgs := ((ns.get "cmake_args").optStr).getD ""

/-- `parse_arguments()` on the argument vector. -/
def parseArguments (argv : List String) : Except ParseError Args :=
  (parse parser argv).map Args.ofNamespace

/-- The command-line arguments applied to `BuildConfig()`. -/
def applyArgs (a : Args) : BuildConfig :=
  let c := BuildConfig.init
  { c with
    buildType := if truthy a.type then a.type else c.buildType
    compiler := if truthy a.compiler then a.compiler else c.compiler
    buildSystem := if truthy a.buildSystem then a.buildSystem else c.buildSystem
    cleanBuild := a.clean
    interactive := !a.noInteractive
    buildTests := a.buildTests
    buildExamples := a.buildExamples
    useConan := if a.useConan then some true else if a.noConan then some false else c.useConan
    coreOnly := if a.coreOnly then some true else c.coreOnly
    cmakeArgs := a.cmakeArgs }

open CompilerDetector BuildSystemSelector CMakeBuilder

/-- `setup_msvc_environment`, failing the run only for `msvc` and `clang-cl`. -/
def msvcStep (h : Host) : Cfg Bool := do
  if !(← setupMsvcEnvironment h) then
    let c ← config
    if c.compiler = some "msvc" || c.compiler = some "clang-cl" then
      return false
  return true

def resolveInteractive (h : Host) : Cfg Bool := do
  if (← config).coreOnly = none then
    selectModulesInteractive
  selectTestsAndExamplesInteractive
  if !truthy (← config).buildType then
    selectBuildTypeInteractive
  if !truthy (← config).compiler then
    discard <| selectCompilerInteractive h
  if !(← setupCompiler h) then
    return false
  if !truthy (← config).buildSystem then
    discard <| selectBuildSystemInteractive h
  if !(← setupBuildSystem h) then
    return false
  msvcStep h

def nonInteractiveDefaults (c : BuildConfig) : BuildConfig :=
  { c with
    buildType := if truthy c.buildType then c.buildType else some "Release"
    coreOnly := if c.coreOnly = none then some false else c.coreOnly
    buildTests := if c.buildTests = none then some false else c.buildTests
    buildExamples := if c.buildExamples = none then some false else c.buildExamples }

def resolveNonInteractive (h : Host) : Cfg Bool := do
  setConfig nonInteractiveDefaults
  if !(← setupCompiler h) then
    return false
  if !(← setupBuildSystem h) then
    return false
  msvcStep h

/-- `main` up to the call of `CMakeBuilder.configure`: `true` when it gets there. -/
def reachConfigure (h : Host) (argv : List String) : Cfg Bool := do
  match parseArguments argv with
  | .error e => Py.raise (parseExit e)
  | .ok args =>
    setConfig fun _ => applyArgs args
    if !(← Py.checkCommand h "cmake") then
      return false
    let resolved ← if (← config).interactive then resolveInteractive h
      else resolveNonInteractive h
    if !resolved then
      return false
    ConanManager.setupConan h

/-- `configure.py`'s `main`: its exit code. -/
def main (h : Host) (argv : List String) : Cfg Int := do
  if !(← reachConfigure h argv) then
    return 1
  if !(← configure h) then
    return 1
  return 0

/-!
# Runs of `main`

An interruption at a menu is not caught: it ends the run.  At a yes/no
question it is read as "no", and the run goes on.  The Linux build-system
menu maps its answers the other way round from its labels, and the compiler
menu comes before the cache is consulted.
-/

theorem main_continues_after_conan_interrupt :
    let h : Host := Host.ofTools .linux ["cmake", "gcc", "g++", "ninja"]
    let w : World BuildConfig := ⟨BuildConfig.init, [], ⟨[], by decide⟩,
      [.line "", .line "", .line "", .line "", .interrupt]⟩
    (main h [] w).effects.contains (.read .useConan .interrupt) ∧
    (main h [] w).effects.any (fun e => match e with | .run ("cmake" :: _) => true | _ => false) ∧
    (main h [] w).result = .ok 0 := by decide

theorem reachConfigure_linux_menu_inverted :
    let h : Host := Host.ofTools .linux ["cmake", "gcc", "g++", "ninja", "make"]
    let w : World BuildConfig := ⟨BuildConfig.init, [], ⟨[], by decide⟩,
      [.line "", .line "", .line "", .line "", .line "1"]⟩
    (reachConfigure h [] w).effects.contains (.read .buildSystem (.line "1")) ∧
    (reachConfigure h [] w).result = .ok true ∧
    (reachConfigure h [] w).state.obj.buildSystem = some "Ninja" := by decide

theorem reachConfigure_asks_before_cache :
    let h : Host := Host.ofTools .linux ["cmake", "gcc", "g++", "clang", "clang++", "ninja"]
    let w : World BuildConfig := ⟨BuildConfig.init, [],
      Tree.single ⟨"release", "linux"⟩
        { Workspace.empty with cache := some ["CMAKE_CXX_COMPILER:FILEPATH=/usr/bin/clang"] },
      [.line "", .line "", .line "", .line ""]⟩
    classifyCachedCompiler false "/usr/bin/clang" = some ("clang", "clang++") ∧
    (reachConfigure h ["--type", "Release"] w).effects.contains (.read .compiler (.line "")) ∧
    (reachConfigure h ["--type", "Release"] w).result = .ok true ∧
    (reachConfigure h ["--type", "Release"] w).state.obj.compiler = some "gcc" := by decide

theorem reachConfigure_vs2019_rejected :
    let h : Host := { Host.ofTools .windows ["cmake"] with
      fileExists := fun p => p ∈ [CompilerDetector.installerPath "C:\\Program Files (x86)",
        "C:/VS/2019/Community/VC/Auxiliary/Build/vcvarsall.bat",
        "/src/helios/scripts/install_deps.py"]
      vswhere := fun _ => some "C:/VS/2019/Community" }
    let w : World BuildConfig := ⟨BuildConfig.init, [], ⟨[], by decide⟩,
      [.line "", .line "", .line "", .line "", .line "y", .line "y"]⟩
    (reachConfigure h [] w).result = .ok true ∧
    (reachConfigure h [] w).state.obj.buildSystem = some "Visual Studio 16 2019" ∧
    InstallDeps.parseArguments
        (ConanManager.installDepsArgs (reachConfigure h [] w).state.obj "Release") =
      .error (.invalidChoice "--generator" "Visual Studio 16 2019") ∧
    (reachConfigure h [] w).state.obj.useConan = some false := by decide

end Configure
end HeliosBuild
