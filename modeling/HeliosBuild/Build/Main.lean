import HeliosBuild.Build.Workspace
import HeliosBuild.Configure.Main

/-!
# `build.py`

`build.py` decides which workspace to build.  Without configuration
arguments and interactively it shows the workspace menu; otherwise it takes
the most recently configured workspace and runs `configure.py` when the
arguments ask for a (re)configuration.  `run_configure` forwards the
arguments, completed from the cache of a workspace being reconfigured, to
`configure.py`, which runs as a child process on the same build tree and
terminal.  Afterwards `build_project` runs `cmake --build`.

`beforeBuild` is `main` up to the call of `build_project`: the exit code
`main` returns before, or the directory and build type it builds.
-/

namespace HeliosBuild
namespace Build

open Argparse

def parser (cpuCount : Nat) : Parser where
  arguments :=
    [⟨["-h", "--help"], "help", .help⟩,
     ⟨["-t", "--type"], "type", .store (some ["Debug", "Release", "RelWithDebInfo"])⟩,
     ⟨["-c", "--compiler"], "compiler", .store (some ["gcc", "clang", "clang-cl", "msvc", "cl"])⟩,
     ⟨["-b", "--build-system"], "build_system",
        .store (some ["Ninja", "Unix Makefiles", "Visual Studio 17 2022"])⟩,
     ⟨["--platform"], "platform", .store (some ["linux", "windows", "macos"])⟩,
     ⟨["--core-only"], "core_only", .storeConst true⟩,
     ⟨["--tests"], "build_tests", .storeConst true⟩,
     ⟨["--no-tests"], "build_tests", .storeConst false⟩,
     ⟨["--examples"], "build_examples", .storeConst true⟩,
     ⟨["--no-examples"], "build_examples", .storeConst false⟩,
     ⟨["--use-conan"], "use_conan", .storeConst true⟩,
     ⟨["--no-conan"], "use_conan", .storeConst false⟩,
     ⟨["-j", "--jobs"], "jobs", .storeInt⟩,
     ⟨["--clean"], "clean", .storeConst true⟩,
     ⟨["--no-interactive"], "no_interactive", .storeConst true⟩,
     ⟨["--skip-configure"], "skip_configure", .storeConst true⟩,
     ⟨["--format"], "format", .storeConst true⟩,
     ⟨["--lint"], "lint", .storeConst true⟩,
     ⟨["--cmake-args"], "cmake_args", .store none⟩]
  defaults :=
    [("type", .none), ("compiler", .none), ("build_system", .none), ("platform", .none),
     ("core_only", .bool false), ("build_tests", .none), ("build_examples", .none),
     ("use_conan", .none), ("jobs", .int cpuCount), ("clean", .bool false),
     ("no_interactive", .bool false), ("skip_configure", .bool false), ("format", .bool false),
     ("lint", .bool false), ("cmake_args", .str "")]

structure Args where
  type : Option String
  compiler : Option String
  buildSystem : Option String
  platform : Option String
  coreOnly : Option Bool
  buildTests : Option Bool
  buildExamples : Option Bool
  useConan : Option Bool
  jobs : Int
  clean : Bool
  noInteractive : Bool
  skipConfigure : Bool
  format : Bool
  lint : Bool
  cmakeArgs : String
  deriving DecidableEq, Repr

def Args.ofNamespace (ns : Namespace) : Args where
  type := (ns.get "type").optStr
  compiler := (ns.get "compiler").optStr
  buildSystem := (ns.get "build_system").optStr
  platform := (ns.get "platform").optStr
  coreOnly := (ns.get "core_only").optBool
  buildTests := (ns.get "build_tests").optBool
  buildExamples := (ns.get "build_examples").optBool
  useConan := (ns.get "use_conan").optBool
  jobs := match ns.get "jobs" with
    | .int n => n
    | _ => 0
  clean := ((ns.get "clean").optBool).getD false
  noInteractive := ((ns.get "no_interactive").optBool).getD false
  skipConfigure := ((ns.get "skip_configure").optBool).getD false
  format := ((ns.get "format").optBool).getD false
  lint := ((ns.get "lint").optBool).getD false
  cmakeArgs := ((ns.get "cmake_args").optStr).getD ""

/-- `parse_arguments()`. -/
def parseArguments (cpuCount : Nat) (argv : List String) : Except ParseError Args :=
  (parse (parser cpuCount) argv).map Args.ofNamespace

/-!
# `run_configure`
-/

def forwardedCompiler (cxx : String) : Option String :=
  if PyStr.contains cxx "g++" || PyStr.contains cxx "gcc" then some "gcc"
  else if PyStr.contains cxx "clang++" || PyStr.contains cxx "clang" then some "clang"
  else if PyStr.contains cxx "cl.exe" || PyStr.contains (PyStr.lower cxx) "msvc" then some "msvc"
  else none

/-- `--tests`/`--no-tests` (or the examples pair) from a cached `ON`/other value. -/
def onFlag (ifOn ifOff : String) (value : String) : String :=
  if value = "ON" then ifOn else ifOff

def cacheArgs (a : Args) (cache : StrDict) (hasToolchain : Bool) : List String :=
  (if truthy a.compiler then []
   else match (cache.get? "CMAKE_CXX_COMPILER").bind forwardedCompiler with
     | some comp => ["--compiler", comp]
     | none => []) ++
  (if truthy a.buildSystem then []
   else match cache.get? "CMAKE_GENERATOR" with
     | some g => ["--build-system", g]
     | none => []) ++
  (if a.coreOnly = none && cache.get? "HELIOS_BUILD_CORE_ONLY" = some "ON" then ["--core-only"]
   else []) ++
  (if a.buildTests = none then
     (cache.get? "HELIOS_BUILD_TESTS").toList.map (onFlag "--tests" "--no-tests")
   else []) ++
  (if a.buildExamples = none then
     (cache.get? "HELIOS_BUILD_EXAMPLES").toList.map (onFlag "--examples" "--no-examples")
   else []) ++
  (if a.useConan = none && hasToolchain then ["--use-conan"] else [])
where
  truthy : Option String → Bool := Configure.truthy

def explicitArgs (a : Args) : List String :=
  (if Configure.truthy a.type then ["--type", a.type.getD ""] else []) ++
  (if Configure.truthy a.compiler then ["--compiler", a.compiler.getD ""] else []) ++
  (if Configure.truthy a.buildSystem then ["--build-system", a.buildSystem.getD ""] else []) ++
  (if Configure.truthy a.platform then ["--platform", a.platform.getD ""] else []) ++
  (if a.coreOnly = some true then ["--core-only"] else []) ++
  (a.buildTests.toList.map fun b => if b then "--tests" else "--no-tests") ++
  (a.buildExamples.toList.map fun b => if b then "--examples" else "--no-examples") ++
  (a.useConan.toList.map fun b => if b then "--use-conan" else "--no-conan") ++
  (if a.clean then ["--clean"] else []) ++
  (if a.noInteractive then ["--no-interactive"] else []) ++
  (if a.cmakeArgs ≠ "" then ["--cmake-args", a.cmakeArgs] else [])

def configureArgs (enc : Codec) (a : Args) (existing : Option Workspace) : List String :=
  (match existing with
   | some ws => cacheArgs a (readCMakeCache enc (some ws)) ws.conanToolchain
   | none => []) ++ explicitArgs a

theorem configureArgs_rejected_by_configure :
    (parseArguments 4 ["--platform", "linux"]).map
        (fun a => Configure.parseArguments (configureArgs Codec.utf8 a none)) =
      .ok (.error (.unrecognized ["--platform", "linux"])) ∧
    (parseArguments 4 ["--cmake-args=-DHELIOS_X=ON"]).map
        (fun a => Configure.parseArguments (configureArgs Codec.utf8 a none)) =
      .ok (.error (.expectedOne "--cmake-args")) := by decide

/-- `scripts/configure.py`. -/
def configureScript (h : Host) : String := h.projectRoot ++ "/scripts/configure.py"

abbrev Bld := Py Args

/-- `configure.py` run as a child process: its own `BuildConfig`, a copy of the environment, the shared build tree and terminal. -/
def configureChild (h : Host) (argv : List String) (w : World Args) :
    Outcome Configure.BuildConfig Int :=
  Configure.main h argv ⟨Configure.BuildConfig.init, w.env, w.tree, w.stdin⟩

/-- `run_configure(args, ..., existing_build_dir)`. -/
def runConfigure (h : Host) (existing : Option WsKey) : Bld (Bool × Option WsKey) := do
  if !h.fileExists (configureScript h) then
    return (false, none)
  let w ← Py.world
  let argv := configureArgs h.encoding w.obj (existing.bind w.tree.find?)
  Py.runCmd (["python", configureScript h] ++ argv)
  let child := configureChild h argv w
  Py.modify fun w => { w with tree := child.state.tree, stdin := child.state.stdin }
  if exitStatus child.result = 0 then
    return (true, findConfiguredBuildDir (← Py.world).tree)
  return (false, none)

/-!
# `build_project`
-/

/-- `build.py`'s `setup_msvc_environment`: a copy of the environment with the Visual Studio variables added when they can be found. -/
def setupMsvcEnvironment (h : Host) : Bld StrDict := do
  let w ← Py.world
  let env := w.env
  if !h.isWindows then
    return env
  if h.which w.env "cl" && (w.env.get? (environKey true "INCLUDE")).isSome then
    return env
  let primary := Configure.CompilerDetector.installerPath
    (Configure.environGet h w.env "ProgramFiles(x86)" "C:\\Program Files (x86)")
  let fallback := Configure.CompilerDetector.installerPath
    (Configure.environGet h w.env "ProgramFiles" "C:\\Program Files")
  let vswhere := if !h.fileExists primary && h.fileExists fallback then fallback else primary
  let mut vsPath := ""
  if h.fileExists vswhere then
    Py.runCmd (Configure.CompilerDetector.vswhereArgs vswhere)
    vsPath := ((h.vswhere vswhere).map PyStr.strip).getD ""
  if vsPath = "" then
    vsPath := (Configure.CompilerDetector.vsPaths.find? h.fileExists).getD ""
  if vsPath = "" then
    return env
  let vcvars := vsPath ++ "/VC/Auxiliary/Build/vcvarsall.bat"
  if !h.fileExists vcvars then
    return env
  let cmd := "\"" ++ vcvars ++ "\" amd64 && set"
  Py.shellCmd cmd
  match h.shell cmd with
  | none => return env
  | some out => return Configure.importDict env out

theorem setupMsvcEnvironment_binds_path_twice :
    let h : Host := { Host.ofTools .windows [] with
      fileExists := fun p => p = "C:/Program Files/Microsoft Visual Studio/2022/Community" ||
        p = "C:/Program Files/Microsoft Visual Studio/2022/Community/VC/Auxiliary/Build/vcvarsall.bat"
      shell := fun _ => some ["Path=C:\\VS\\bin;C:\\Windows"] }
    let w : World Args :=
      ⟨Args.ofNamespace (parser 4).defaults, [("PATH", "C:\\Windows")], ⟨[], by decide⟩, []⟩
    (setupMsvcEnvironment h w).result =
        .ok [("PATH", "C:\\Windows"), ("Path", "C:\\VS\\bin;C:\\Windows")] ∧
      environKey true "Path" = "PATH" ∧
      (Configure.importEnviron h ["=C:=C:\\src"] w).result = .error .valueError := by
  decide

/-- `build_project(build_dir, build_type, jobs)`. -/
def buildProject (h : Host) (d : WsKey) (buildType : String) (jobs : Int) : Bld Bool := do
  let w ← Py.world
  if !isConfigured w.tree d then
    return false
  if h.isWindows then
    if ((w.tree.find? d).map Workspace.conanBuild).getD false then
      let cmd := "\"" ++ Configure.wsPath h.projectRoot d ++ "/conanbuild.bat\" && set"
      Py.shellCmd cmd
      if (h.shell cmd).isNone then
        let _ ← setupMsvcEnvironment h
    else
      let _ ← setupMsvcEnvironment h
  let cmd := ["cmake", "--build", Configure.wsPath h.projectRoot d, "--parallel", toString jobs,
    "--config", buildType]
  Py.runCmd cmd
  return h.rc cmd = 0

/-!
# `main`
-/

/-- `select_build_dir_interactive(project_root)`: `none` when the user exits. -/
def selectBuildDirInteractive : Bld (Option Selection) := fun w =>
  match findAllConfiguredBuildDirs w.tree with
  | [] => { result := .ok (some (none, true, none)), state := w, effects := [], clean := rfl
            raises := by simp }
  | dirs =>
    { result := (selectLoop dirs .option w.stdin).1
      state := { w with stdin := (selectLoop dirs .option w.stdin).2.1 }
      effects := (selectLoop dirs .option w.stdin).2.2
      clean := (selectLoop_stopsClean dirs .option w.stdin).1
      raises := (selectLoop_stopsClean dirs .option w.stdin).2 }

theorem selectBuildDirInteractive_outcomes (w : World Args) :
    ((selectBuildDirInteractive w).result = .ok none ↔ ∃ ev, ev.interrupts = true ∧
      (selectBuildDirInteractive w).effects.getLast? = some (.read .buildDirSelect ev)) ∧
    (∀ e, (selectBuildDirInteractive w).result = .error e → ∃ ev, ev.interrupts = true ∧
      (selectBuildDirInteractive w).effects.getLast? = some (.read .reconfigureSelect ev)) ∧
    ∀ s, (selectBuildDirInteractive w).result = .ok (some s) → s = (none, true, none) ∨
      ∃ d ∈ findAllConfiguredBuildDirs w.tree, ∃ needs,
        s = (some d, needs, some (detectBuildTypeFromDir d)) := by
  rcases hdirs : findAllConfiguredBuildDirs w.tree with _ | ⟨d₀, ds⟩
  · simp [selectBuildDirInteractive, hdirs]
  · obtain ⟨-, hnone, herr⟩ := selectLoop_lastReadDecides (d₀ :: ds) .option w.stdin
    simp only [selectBuildDirInteractive, hdirs]
    exact ⟨hnone, herr, fun _ hs => selectLoop_selection _ _ _ hs⟩

theorem selectBuildDirInteractive_reconfigure_eof (w : World Args) (s : String)
    (rest : List InputEvent) (hd : findAllConfiguredBuildDirs w.tree ≠ [])
    (hs : PyStr.toInt (menuChoice s) = some ((findAllConfiguredBuildDirs w.tree).length + 2 : Int))
    (hin : w.stdin = .line s :: .eof :: rest) :
    (selectBuildDirInteractive w).result = .error .eofError := by
  unfold selectBuildDirInteractive
  split
  · contradiction
  · simp only [hin, selectLoop, hs, withRead]
    rw [dif_neg (by omega), if_neg (by omega), if_pos trivial]

theorem selectBuildDirInteractive_reconfigure_eof_release :
    let w : World Args := ⟨Args.ofNamespace (parser 4).defaults, [], Tree.single ⟨"release", "linux"⟩
      { Workspace.empty with cache := some [] }, [.line "3", .eof]⟩
    findAllConfiguredBuildDirs w.tree ≠ [] ∧
      PyStr.toInt (menuChoice "3") = some ((findAllConfiguredBuildDirs w.tree).length + 2 : Int) ∧
      (selectBuildDirInteractive w).result = .error .eofError :=
  ⟨by decide, by decide, selectBuildDirInteractive_reconfigure_eof _ "3" [] (by decide) (by decide) rfl⟩

def hasConfigArgs (a : Args) : Bool :=
  [Configure.truthy a.type, Configure.truthy a.compiler, Configure.truthy a.buildSystem,
    a.coreOnly = some true, a.buildTests.isSome, a.buildExamples.isSome, a.useConan.isSome,
    a.clean].any id

abbrev Plan := Option WsKey × Bool × String

def choosePlan (h : Host) : Bld (Option Plan) := do
  let a ← Py.obj
  let buildType := if Configure.truthy a.type then a.type.getD "" else "Release"
  if !hasConfigArgs a && !a.skipConfigure && !a.noInteractive then
    match ← selectBuildDirInteractive with
    | none => return none
    | some (d, needs, selected) =>
      if Configure.truthy selected then
        Py.modifyObj fun a => { a with type := selected }
        return some (d, needs, selected.getD "")
      return some (d, needs, buildType)
  else
    let configured := findConfiguredBuildDir (← Py.world).tree
    let needs :=
      if a.clean then true
      else if configured.isNone then true
      else if Configure.truthy a.type then configured != some (getBuildDir h.system (a.type.getD ""))
      else false
    let needs := needs || hasConfigArgs a
    return some (if needs then none else configured, needs, buildType)

def configureAndFind (h : Host) (existing : Option WsKey) : Bld (Except Int WsKey) := do
  let (success, found) ← runConfigure h existing
  if !success then
    return .error 1
  match found with
  | some d => return .ok d
  | none =>
    match findConfiguredBuildDir (← Py.world).tree with
    | some d => return .ok d
    | none => return .error 1

def resolveBuildDir (h : Host) (p : Plan) : Bld (Except Int WsKey) := do
  let a ← Py.obj
  if !a.skipConfigure && p.2.1 then
    configureAndFind h p.1
  else
    match p.1 with
    | some d => return .ok d
    | none =>
      let t := (← Py.world).tree
      let d := (findConfiguredBuildDir t).getD (getBuildDir h.system p.2.2)
      if isConfigured t d then
        return .ok d
      if a.skipConfigure then
        return .error 1
      configureAndFind h none

def beforeBuild (h : Host) : Bld (Except Int (WsKey × String)) := do
  match ← choosePlan h with
  | none => return .error 0
  | some p =>
    match ← resolveBuildDir h p with
    | .error code => return .error code
    | .ok d =>
      let a ← Py.obj
      return .ok (d, if Configure.truthy a.type then p.2.2 else detectBuildTypeFromDir d)

def runScript (h : Host) (name : String) (args : List String) : Bld (Option Int) := do
  let script := h.projectRoot ++ "/scripts/" ++ name
  if !h.fileExists script then
    return none
  Py.runCmd (["python", script] ++ args)
  return some (h.rc (["python", script] ++ args))

def main (h : Host) (argv : List String) : Bld Int := do
  match Build.parseArguments h.cpuCount argv with
  | .error e => Py.raise (parseExit e)
  | .ok a =>
    Py.modifyObj fun _ => a
    if a.format then
      if let some rc ← runScript h "format.py" [] then
        if rc ≠ 0 then
          return 1
    match ← beforeBuild h with
    | .error code => return code
    | .ok (d, buildType) =>
      if !(← buildProject h d buildType a.jobs) then
        return 1
      if a.lint then
        let _ ← runScript h "lint.py" ["--build-dir", Configure.wsPath h.projectRoot d]
      return 0

end Build
end HeliosBuild
