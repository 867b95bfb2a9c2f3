import HeliosBuild.Python.Logic
import HeliosBuild.CMakeCache

/-!
# The configuration `configure.py` resolves

`BuildConfig` is the object every class of `configure.py` shares and fills in:
the build type, the compiler and its driver, the CMake generator, the module
flags and the Conan choice.  `None` in Python is `none` here.

`script_dir`, `project_root` and the platform flags are fixed for a run and
come from the host.  `parallel_jobs` is read only by `CMakeBuilder.build`,
which `main` never calls, and is left out.
-/

namespace HeliosBuild
namespace Configure

/-- `BuildConfig`. -/
structure BuildConfig where
  buildType : Option String
  compiler : Option String
  cxxCompiler : Option String
  buildSystem : Option String
  vsVersion : Option String
  coreOnly : Option Bool
  buildTests : Option Bool
  buildExamples : Option Bool
  cleanBuild : Bool
  conanToolchain : Option String
  useConan : Option Bool
  interactive : Bool
  cmakeArgs : String
  deriving DecidableEq, Repr

/-- `BuildConfig()`. -/
def BuildConfig.init : BuildConfig where
  buildType := none
  compiler := none
  cxxCompiler := none
  buildSystem := none
  vsVersion := none
  coreOnly := none
  buildTests := none
  buildExamples := none
  cleanBuild := false
  conanToolchain := none
  useConan := none
  interactive := true
  cmakeArgs := ""

@[simp] theorem BuildConfig.exists_compiler_eq (c : BuildConfig) :
    ∃ comp cxx vs, c = { c with compiler := comp, cxxCompiler := cxx, vsVersion := vs } :=
  ⟨_, _, _, rfl⟩

@[simp] theorem BuildConfig.exists_buildSystem_eq (c : BuildConfig) :
    ∃ g, c = { c with buildSystem := g } :=
  ⟨_, rfl⟩

/-- Python truth of an optional string: present and not empty. -/
def truthy : Option String → Bool
  | some s => s ≠ ""
  | none => false

/-- An optional string in an f-string: `None` prints as `None`. -/
def pyFormat : Option String → String
  | some s => s
  | none => "None"

/-- `BuildConfig.get_build_dir()`, as a directory of the build tree. -/
def BuildConfig.getBuildDir (sys : System) (c : BuildConfig) : WsKey where
  typeDir := match c.buildType with
    | some t => if t = "" then "release" else PyStr.lower t
    | none => "release"
  platDir := platformName sys

/-- The path of a workspace directory below the project root. -/
def wsPath (root : String) (k : WsKey) : String :=
  root ++ "/build/" ++ k.typeDir ++ "/" ++ k.platDir

/-- A statement of `configure.py`. -/
abbrev Cfg := Py BuildConfig

/-- `self.config`. -/
def config : Cfg BuildConfig := Py.obj

def setConfig (f : BuildConfig → BuildConfig) : Cfg Unit := Py.modifyObj f

@[simp] theorem wp_config {Q : BuildConfig → World BuildConfig → Prop} {w : World BuildConfig} :
    Py.wp config Q w ↔ Q w.obj w := Py.wp_obj Q

@[simp] theorem wp_setConfig {f : BuildConfig → BuildConfig} {Q : Unit → World BuildConfig → Prop}
    {w : World BuildConfig} : Py.wp (setConfig f) Q w ↔ Q () { w with obj := f w.obj } :=
  Py.wp_modifyObj f Q

@[simp] theorem wpT_config {Q : BuildConfig → World BuildConfig → List Effect → Prop}
    {w : World BuildConfig} : Py.wpT config Q w ↔ Q w.obj w [] := Py.wpT_obj Q

@[simp] theorem wpT_setConfig {f : BuildConfig → BuildConfig}
    {Q : Unit → World BuildConfig → List Effect → Prop} {w : World BuildConfig} :
    Py.wpT (setConfig f) Q w ↔ Q () { w with obj := f w.obj } [] :=
  Py.wpT_modifyObj f Q

end Configure
end HeliosBuild
