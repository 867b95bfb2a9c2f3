import HeliosBuild.InstallDeps
import HeliosBuild.Configure.MsvcEnv

/-!
# The dependency installer

`install_deps.py` checks the tools a build needs and then installs the
dependencies, with Conan or with the system's package manager.  Its
`DependencyInstaller` keeps the parsed arguments, which the run may change (a
Conan that cannot be installed turns the run to system packages), and what it
detected on the way: the package manager, the compiler and the Conan profile.

Conan is the host's: `conan install` returns the host's code, and a
successful one runs the recipe's `generate`, which `conanfile.py`'s `layout`
points at the output folder itself: `conan_toolchain.cmake` is written there,
and on Windows `conanbuild.bat`.

The installer's questions call `input()` with nothing around it to catch the
end of input or Ctrl-C, so an interruption ends the run.  They are not among
the prompts whose reads the runs of `configure.py` and `build.py` record; what
they read shows in the input they leave.

`sys.executable` is written `python`, as in `configure.py`'s call of the
installer.  What the installer only prints is left out.
-/

namespace HeliosBuild
namespace InstallDeps

open Configure

variable {σ : Type}

/-- `sys.version_info`, as far as `check_python_version` reads it. -/
structure PyVersion where
  major : Nat
  minor : Nat
  deriving DecidableEq, Repr

structure DependencyInstaller where
  args : Args
  interactive : Bool
  packageManager : Option String
  usingMixedMode : Bool
  detectedCompiler : Option String
  detectedCompilerVariant : Option String
  msvcEnv : Option Env
  selectedProfile : Option String
  deriving DecidableEq, Repr

abbrev Inst := Py DependencyInstaller

def askLoop (default : Bool) : List InputEvent → Except PyExc Bool × List InputEvent
  | [] => (.error .eofError, [])
  | .eof :: rest => (.error .eofError, rest)
  | .interrupt :: rest => (.error .keyboardInterrupt, rest)
  | .line s :: rest =>
      let response := PyStr.lower (PyStr.strip s)
      if response = "" then (.ok default, rest)
      else if response = "y" || response = "yes" then (.ok true, rest)
      else if response = "n" || response = "no" then (.ok false, rest)
      else askLoop default rest

/-- `ask_yes_no(question, default, interactive)`. -/
def askYesNo (default interactive : Bool) : Py σ Bool :=
  if !interactive then pure default
  else fun w =>
    { result := (askLoop default w.stdin).1, state := { w with stdin := (askLoop default w.stdin).2 }
      effects := [], clean := rfl, raises := by simp }

/-- `pip install --user conan` with the running interpreter. -/
def pipInstallConan : List String := ["python", "-m", "pip", "install", "--user", "conan"]

def profileDetect : List String := ["conan", "profile", "detect", "--force"]

def requiredDeps : List String := ["boost", "spdlog", "stduuid", "concurrentqueue", "taskflow"]

def packageManagers : List (String × String) :=
  [("apt", "apt-get"), ("dnf", "dnf"), ("yum", "yum"), ("pacman", "pacman"), ("zypper", "zypper"),
   ("brew", "brew"), ("choco", "choco"), ("scoop", "scoop")]

def packagesToCheck : String → List (String × String)
  | "pacman" => [("boost", "boost"), ("spdlog", "spdlog")]
  | "apt" => [("boost", "libboost-all-dev"), ("spdlog", "libspdlog-dev"), ("stduuid", "uuid-dev")]
  | "dnf" | "yum" =>
      [("boost", "boost-devel"), ("spdlog", "spdlog-devel"), ("stduuid", "libuuid-devel")]
  | "brew" => [("boost", "boost"), ("spdlog", "spdlog"), ("taskflow", "taskflow")]
  | _ => []

def packageQuery (pm pkg : String) : List String :=
  if pm = "pacman" then ["pacman", "-Q", pkg]
  else if pm = "apt" then ["dpkg", "-s", pkg]
  else if pm = "dnf" ∨ pm = "yum" then ["rpm", "-q", pkg]
  else ["brew", "list", pkg]

/-- `packages` of `install_system_dependencies`. -/
def systemPackages : String → List String
  | "apt" => ["libboost-all-dev", "libspdlog-dev", "doctest-dev", "cmake", "git"]
  | "dnf" => ["boost-devel", "spdlog-devel", "doctest-devel", "cmake", "git"]
  | "yum" => ["boost-devel", "spdlog-devel", "doctest-devel", "cmake", "git"]
  | "pacman" => ["boost", "spdlog", "doctest", "cmake", "git"]
  | "zypper" => ["boost-devel", "spdlog-devel", "doctest-devel", "cmake", "git"]
  | "brew" => ["boost", "spdlog", "doctest", "cmake", "git"]
  | "choco" => ["boost-msvc-14.3", "spdlog", "cmake", "git", "llvm"]
  | "scoop" => ["cmake", "git", "llvm"]
  | _ => []

/-- `tbb_packages` of `install_system_dependencies`. -/
def tbbPackage : String → Option String
  | "apt" => some "libtbb-dev"
  | "dnf" => some "tbb-devel"
  | "yum" => some "tbb-devel"
  | "pacman" => some "onetbb"
  | "zypper" => some "tbb-devel"
  | _ => none

def installCommand (pm : String) (pkgs : List String) : Option (List String) :=
  if pm = "apt" then some (["sudo", "apt-get", "install", "-y"] ++ pkgs)
  else if pm = "dnf" ∨ pm = "yum" then some (["sudo", pm, "install", "-y"] ++ pkgs)
  else if pm = "pacman" then some (["sudo", "pacman", "-S", "--needed", "--noconfirm"] ++ pkgs)
  else if pm = "zypper" then some (["sudo", "zypper", "install", "-y"] ++ pkgs)
  else if pm = "brew" then some (["brew", "install"] ++ pkgs)
  else if pm = "choco" then some (["choco", "install", "-y"] ++ pkgs)
  else if pm = "scoop" then some (["scoop", "install"] ++ pkgs)
  else none

/-- `project_root / "conan-profiles" / name`. -/
def profilePath (h : Host) (name : String) : String :=
  h.projectRoot ++ "/conan-profiles/" ++ name

/-- `project_root / "conanfile.py"`, the recipe `install_conan_dependencies` needs. -/
def conanfilePath (h : Host) : String := h.projectRoot ++ "/conanfile.py"

def profileArgs (selected : Option String) (profile : String) : List String :=
  if selected.isSome ∧ selected ≠ some "default" then ["-pr", selected.getD ""]
  else if profile ≠ "" ∧ profile ≠ "default" then ["-pr", profile]
  else []

def clangClConfs : List String :=
  ["-c", "tools.build:compiler_executables=\x7b\x27c\x27: \x27clang-cl\x27, \x27cpp\x27: \x27clang-cl\x27\x7d",
   "-c", "tools.microsoft.msbuild:vs_version=17"]

namespace DependencyInstaller

/-- `get_build_dir(build_type)`, as a directory of the build tree. -/
def getBuildDir (sys : System) (buildType : String) : WsKey :=
  ⟨PyStr.lower buildType, platformName sys⟩

def getConanDir (sys : System) (buildType : String) : WsKey := getBuildDir sys buildType

def conanInstallCmd (h : Host) (buildType generator : String) (profile : List String)
    (clangCl : Bool) : List String :=
  ["conan", "install", h.projectRoot, "-s", "build_type=" ++ buildType, "-s", "compiler.cppstd=23"] ++
  (if generator ≠ "" then ["-c", "tools.cmake.cmaketoolchain:generator=" ++ generator] else []) ++
  profile ++ (if clangCl then clangClConfs else []) ++
  ["--output-folder", wsPath h.projectRoot (getConanDir h.system buildType), "--build=missing"]

def conanGenerate (h : Host) (ws : Workspace) : Workspace :=
  { ws with conanToolchain := true, conanBuild := ws.conanBuild || h.isWindows }

def detectPackageManager (h : Host) : Py σ (Option String) := do
  let env := (← Py.world).env
  return (packageManagers.find? fun m => h.which env m.2).map Prod.fst

def init (a : Args) (pm : Option String) : DependencyInstaller where
  args := a
  interactive := !a.noInteractive
  packageManager := pm
  usingMixedMode := false
  detectedCompiler := none
  detectedCompilerVariant := none
  msvcEnv := none
  selectedProfile := none

def checkPythonVersion (v : PyVersion) : Bool :=
  !(v.major < 3 || (v.major = 3 && v.minor < 8))

def checkTool (h : Host) (tool : String) : Py σ Bool := do
  if !(← Py.checkCommand h tool) then
    return false
  Py.runCmd [tool, "--version"]
  return true

def checkCMake (h : Host) : Py σ Bool := checkTool h "cmake"

def checkGit (h : Host) : Py σ Bool := checkTool h "git"

def versionRuns (h : Host) (tool : String) : Py σ Bool := do
  if !(← Py.checkCommand h tool) then
    return false
  Py.runCmd [tool, "--version"]
  return h.rc [tool, "--version"] = 0

/-- `stdout.split()[2]`, the version `check_compiler` reads from `g++ --version`. -/
def gxxVersion (out : String) : Except PyExc String :=
  match (PyStr.splitWs out).get? 2 with
  | some v => .ok v
  | none => .error .indexError

/-- `stdout.split("\n")[0].split("version")[1].strip().split()[0]`, for `clang++ --version`. -/
def clangxxVersion (out : String) : Except PyExc String :=
  match (PyStr.splitOn ((PyStr.splitBy (· = '\n') out).headD "") "version").get? 1 with
  | none => .error .indexError
  | some rest =>
    match (PyStr.splitWs (PyStr.strip rest)).head? with
    | some v => .ok v
    | none => .error .indexError

/-- A compiler of `check_compiler` that answers `--version`; the `IndexError` of reading its
version escapes. -/
def compilerAnswers (h : Host) (tool : String) (version : String → Except PyExc String) :
    Py σ Bool := do
  if !(← versionRuns h tool) then
    return false
  match version (h.stdout [tool, "--version"]) with
  | .ok _ => return true
  | .error e => Py.raise e

def checkCompiler (h : Host) : Py σ Bool := do
  let gxx ← compilerAnswers h "g++" gxxVersion
  let clangxx ← compilerAnswers h "clang++" clangxxVersion
  let clangCl ← Py.checkCommand h "clang-cl"
  let msvc ← if ← Py.checkCommand h "cl" then pure true else Py.checkCommand h "cl.exe"
  return gxx || clangxx || clangCl || msvc

example : gxxVersion "g++ (GCC) 13.2.0\nCopyright (C) 2023" = .ok "13.2.0" := by decide
example : clangxxVersion "Ubuntu clang version 17.0.6\nTarget: x86_64" = .ok "17.0.6" := by decide
example : clangxxVersion "Apple LLVM 15.0.0\n" = .error .indexError := by decide

def installConan (h : Host) : Inst Bool := do
  if ← versionRuns h "conan" then
    return true
  let s ← Py.obj
  if !s.args.installConan then
    if !(← askYesNo true s.interactive) then
      return false
  Py.runCmd pipInstallConan
  return h.rc pipInstallConan = 0

def detectCompiler (h : Host) : Py σ (Option String × Option String) := do
  if h.isWindows then
    let hasMsvc ← Py.checkCommand h "cl"
    let hasClangCl ← Py.checkCommand h "clang-cl"
    let hasClang ← CompilerDetector.plainClang h
    if hasMsvc then
      return (some "msvc", none)
    else if hasClangCl then
      return (some "clang", some "clang-cl")
    else if hasClang then
      return (some "clang", none)
    return (none, none)
  else
    if ← CompilerDetector.detectGcc h then
      return (some "gcc", none)
    else if ← CompilerDetector.plainClang h then
      return (some "clang", none)
    return (none, none)

def profileCompiler (h : Host) (a : Args) : Py σ (Option String × Option String) :=
  if truthy a.compiler then
    pure (a.compiler, if a.compiler = some "clang-cl" then some "clang-cl" else none)
  else detectCompiler h

def existingProfile (h : Host) (name : String) : Option String :=
  if h.fileExists (profilePath h name) then some (profilePath h name) else none

def platformProfile (h : Host) (compiler : String) (variant : Option String) : Option String :=
  if h.isWindows then
    if compiler = "msvc" then existingProfile h "msvc-ninja"
    else if compiler = "clang" ∨ compiler = "clang-cl" then
      if variant = some "clang-cl" ∨ compiler = "clang-cl" then existingProfile h "clang-cl-windows"
      else existingProfile h "clang-windows"
    else none
  else if h.system = .linux ∧ compiler = "clang" then existingProfile h "clang-native"
  else none

def selectConanProfile (h : Host) : Inst String := do
  let a := (← Py.obj).args
  if a.profile ≠ "" ∧ a.profile ≠ "default" ∧ h.fileExists (profilePath h a.profile) then
    return profilePath h a.profile
  let (compiler, variant) ← profileCompiler h a
  Py.modifyObj fun s => { s with detectedCompiler := compiler, detectedCompilerVariant := variant }
  if !truthy compiler then
    return "default"
  return (platformProfile h (compiler.getD "") variant).getD "default"

def setupConanProfile (h : Host) : Inst Bool := do
  Py.runCmd profileDetect
  if h.rc profileDetect ≠ 0 then
    return false
  let p ← selectConanProfile h
  Py.modifyObj fun s => { s with selectedProfile := some p }
  return true

def needsSystemTbb (h : Host) : Py σ Bool :=
  if h.system ≠ .linux then pure false else Py.checkCommand h "g++"

def queryPackages (h : Host) (query : String → List String) :
    List (String × String) → Py σ StrDict
  | [] => pure []
  | (name, pkg) :: rest => do
      Py.runCmd (query pkg)
      let found ← queryPackages h query rest
      return if h.rc (query pkg) = 0 then (name, pkg) :: found else found

def checkSystemPackages (h : Host) : Inst StrDict := do
  match (← Py.obj).packageManager with
  | none => return []
  | some pm => queryPackages h (packageQuery pm) (packagesToCheck pm)

def msvcEnvironment (h : Host) (env : Env) : Py σ Env := do
  if (← Py.checkCommand h "cl") && (env.get? (environKey h.isWindows "INCLUDE")).isSome then
    return env
  let vsPath ← CompilerDetector.findVsPath h
  if vsPath = "" then
    return env
  let vcvars := vsPath ++ "/VC/Auxiliary/Build/vcvarsall.bat"
  if !h.fileExists vcvars then
    return env
  let cmd := "\"" ++ vcvars ++ "\" amd64 && set"
  Py.shellCmd cmd
  return match h.shell cmd with
    | none => env
    | some out => importDict env out

def setupMsvcEnvironment (h : Host) : Inst Env := do
  if let some env := (← Py.obj).msvcEnv then
    return env
  let env := (← Py.world).env
  if !h.isWindows then
    return env
  let env ← msvcEnvironment h env
  Py.modifyObj fun s => { s with msvcEnv := some env }
  return env

def conanGenerator (h : Host) (generator : Option String) : Py σ String := do
  if truthy generator then
    return generator.getD ""
  if h.isWindows then
    return if ← Py.checkCommand h "ninja" then "Ninja" else "Visual Studio 17 2022"
  else if ← Py.checkCommand h "ninja" then
    return "Ninja"
  else
    return "Unix Makefiles"

def mkdirOutputFolder (h : Host) (k : WsKey) : Py σ Unit := do
  if ((← Py.world).tree.find? k).isNone then
    Py.emit (.mkdir (wsPath h.projectRoot k)) rfl
    Py.modify fun w => { w with tree := w.tree.mkdir k }

def setupClangClIfUsed (h : Host) (s : DependencyInstaller) : Py σ Unit := do
  if s.detectedCompilerVariant = some "clang-cl" then
    let _ ← CompilerDetector.setupClangClPath h
  else if s.args.compiler = some "clang-cl" then
    let _ ← CompilerDetector.setupClangClPath h

def askMixedMode (available : StrDict) (interactive : Bool) : Py σ Bool :=
  if !available.isEmpty && interactive then askYesNo true true else pure true

def conanInstall (h : Host) (cmd : List String) (k : WsKey) : Py σ Bool := do
  Py.runCmd cmd
  if h.rc cmd ≠ 0 then
    return false
  Py.modify fun w => { w with tree := w.tree.update k (conanGenerate h) }
  return true

def conanCommand (h : Host) (s : DependencyInstaller) (generator : String) : List String :=
  let compiler := if truthy s.args.compiler then s.args.compiler else s.detectedCompiler
  conanInstallCmd h s.args.buildType generator (profileArgs s.selectedProfile s.args.profile)
    (h.isWindows && compiler = some "clang-cl")

def runConanInstall (h : Host) (s : DependencyInstaller) (generator : String) : Inst Bool := do
  let cmd := conanCommand h s generator
  let k := getConanDir h.system s.args.buildType
  mkdirOutputFolder h k
  if h.isWindows then
    let _ ← setupMsvcEnvironment h
  conanInstall h cmd k

def installConanDependencies (h : Host) : Inst Bool := do
  let s ← Py.obj
  setupClangClIfUsed h s
  let available ← checkSystemPackages h
  let missing := requiredDeps.filter fun d => !(available.any fun p => p.1 = d)
  if missing.isEmpty then
    return true
  let useMixedMode ← askMixedMode available s.interactive
  if !h.fileExists (conanfilePath h) then
    return false
  let generator ← conanGenerator h s.args.generator
  if !(← runConanInstall h s generator) then
    return false
  Py.modifyObj fun s => { s with usingMixedMode := useMixedMode && !available.isEmpty }
  return true

def withTbb (h : Host) (pm : String) (pkgList : List String) : Py σ (List String) := do
  if ← needsSystemTbb h then
    if let some tbb := tbbPackage pm then
      return pkgList ++ [tbb]
  return pkgList

def installPackages (pm : String) (pkgList : List String) : Py σ Bool := do
  if pm = "apt" then
    Py.runCmd ["sudo", "apt-get", "update"]
  match installCommand pm pkgList with
  | none => return true
  | some cmd =>
    Py.runCmd cmd
    return true

def installSystemDependencies (h : Host) : Inst Bool := do
  let s ← Py.obj
  let some pm := s.packageManager | return true
  if (systemPackages pm).isEmpty then
    return true
  let pkgList ← withTbb h pm (systemPackages pm)
  if !(← askYesNo true s.interactive) then
    return true
  installPackages pm pkgList

def checkPrerequisites (h : Host) (v : PyVersion) : Py σ Bool := do
  if !checkPythonVersion v then
    return false
  if !(← checkCMake h) then
    return false
  if !(← checkGit h) then
    return false
  checkCompiler h

def resolveConan (h : Host) : Inst Unit := do
  if (← Py.obj).args.useConan then
    if !(← installConan h) then
      Py.modifyObj fun s => { s with args := { s.args with useConan := false, useSystem := true } }

def installWithConan (h : Host) : Inst Bool := do
  if !(← setupConanProfile h) then
    return false
  installConanDependencies h

def installSystem (h : Host) : Inst Unit := do
  let a := (← Py.obj).args
  if a.useSystem && !a.useConan then
    let _ ← installSystemDependencies h

def run (h : Host) (v : PyVersion) : Inst Int := do
  if !(← checkPrerequisites h v) then
    return 1
  resolveConan h
  if (← Py.obj).args.useConan then
    if !(← installWithConan h) then
      return 1
  installSystem h
  return 0

end DependencyInstaller

def chooseMethod (a : Args) : Py σ Args := do
  if !a.useConan && !a.useSystem then
    if !a.noInteractive then
      if ← askYesNo true true then
        return { a with useConan := true }
      else
        return { a with useSystem := true }
    else
      return { a with useConan := true }
  return a

def main (h : Host) (v : PyVersion) (argv : List String) : Inst Int := do
  match parseArguments argv with
  | .error e => Py.raise (Argparse.parseExit e)
  | .ok a =>
    let a ← chooseMethod a
    let pm ← DependencyInstaller.detectPackageManager h
    Py.modifyObj fun _ => DependencyInstaller.init a pm
    DependencyInstaller.run h v

end InstallDeps
end HeliosBuild
