import HeliosBuild.Configure.Detect
import HeliosBuild.Configure.Prompts

/-!
# Compiler selection in `configure.py`

`CompilerDetector.select_compiler_interactive` offers the compilers the host
has and asks only when two are available.  `CompilerDetector.setup_compiler`
validates a compiler already chosen, or, when none is chosen, takes the one
recorded in the workspace's CMake cache, or asks, or picks one by itself.
-/

namespace HeliosBuild
namespace Configure

/-- `Path(s).name` on the host's path flavour. -/
def pathName (windows : Bool) (s : String) : String :=
  let body : String :=
    if windows then
      match s.toList with
      | d :: ':' :: rest => if d.isAlpha then ⟨rest⟩ else s
      | _ => s
    else s
  let parts := (PyStr.splitBy (fun c => c = '/' || (windows && c = '\\')) body).filter
    fun part => part ≠ "" && part ≠ "."
  parts.getLast?.getD ""

/-- The cache classifier of `setup_compiler`: the compiler and driver a cached `CMAKE_CXX_COMPILER` stands for. -/
def classifyCachedCompiler (windows : Bool) (cxx : String) : Option (String × String) :=
  if PyStr.contains cxx "g++" || PyStr.contains cxx "gcc" then some ("gcc", "g++")
  else if PyStr.contains cxx "clang-cl" then some ("clang-cl", "clang-cl")
  else if PyStr.contains cxx "clang++" || PyStr.contains cxx "clang" then some ("clang", "clang++")
  else if PyStr.contains cxx "cl.exe" || pathName windows cxx = "cl" ||
      PyStr.contains (PyStr.lower cxx) "msvc" then some ("msvc", "cl")
  else none

namespace CompilerDetector

/-- `self.config.compiler = comp; self.config.cxx_compiler = driver`. -/
def setCompiler (comp driver : String) : Cfg Unit :=
  setConfig fun c => { c with compiler := some comp, cxxCompiler := some driver }

/-- `CompilerDetector.select_compiler_interactive`. -/
def selectCompilerInteractive (h : Host) : Cfg Bool := do
  if h.isWindows then
    let (hasMsvc, _) ← detectMsvc h
    let (hasClang, clangVariant) ← detectClang h
    if !hasMsvc && !hasClang then
      return false
    if hasMsvc && !hasClang then
      setCompiler "msvc" "cl"
      return true
    if hasClang && !hasMsvc then
      if clangVariant = some "clang-cl" then setCompiler "clang-cl" "clang-cl"
      else setCompiler "clang" "clang++"
      return true
    let choice := PyStr.strip (← Py.input .compiler)
    if choice = "2" then
      if clangVariant = some "clang-cl" then setCompiler "clang-cl" "clang-cl"
      else setCompiler "clang" "clang++"
    else
      setCompiler "msvc" "cl"
    return true
  else if h.system = .linux || h.system = .darwin then
    let hasGcc ← detectGcc h
    let (hasClang, _) ← detectClang h
    if !hasGcc && !hasClang then
      return false
    if hasGcc && !hasClang then
      setCompiler "gcc" "g++"
      return true
    if hasClang && !hasGcc then
      setCompiler "clang" "clang++"
      return true
    let choice := PyStr.strip (← Py.input .compiler)
    if choice = "2" then setCompiler "clang" "clang++"
    else setCompiler "gcc" "g++"
    return true
  else
    return false

/-- The Windows branch of `setup_compiler` for a compiler named on the command line. -/
def validateWindows (h : Host) (comp : String) : Cfg Bool := do
  if comp = "msvc" || comp = "cl" then
    let (hasMsvc, vsVersion) ← detectMsvc h
    if !hasMsvc then
      return false
    setConfig fun c =>
      { c with compiler := some "msvc", cxxCompiler := some "cl", vsVersion := vsVersion }
    return true
  else if comp = "clang" || comp = "clang-cl" then
    if comp = "clang-cl" then
      let _ ← setupClangClPath h
    let (hasClang, clangVariant) ← detectClang h
    if !hasClang then
      return false
    if comp = "clang-cl" then
      if clangVariant ≠ some "clang-cl" && !(← Py.checkCommand h "clang-cl") then
        return false
      setCompiler "clang-cl" "clang-cl"
    else
      if clangVariant = some "clang-cl" && !(← plainClang h) then
        setCompiler "clang-cl" "clang-cl"
      else
        setCompiler "clang" "clang++"
    return true
  else
    return false

/-- The branch of `setup_compiler` off Windows for a compiler named on the command line. -/
def validateUnix (h : Host) (comp : String) : Cfg Bool := do
  if comp = "gcc" then
    if !(← detectGcc h) then
      return false
    setConfig fun c => { c with cxxCompiler := some "g++" }
    return true
  else if comp = "clang" then
    let (hasClang, _) ← detectClang h
    if !hasClang then
      return false
    setConfig fun c => { c with cxxCompiler := some "clang++" }
    return true
  else
    return false

/-- The non-interactive auto-detection of `setup_compiler`. -/
def autoDetect (h : Host) : Cfg Bool := do
  if h.isWindows then
    let (hasMsvc, vsVersion) ← detectMsvc h
    let (hasClang, clangVariant) ← detectClang h
    if hasMsvc then
      setConfig fun c =>
        { c with compiler := some "msvc", cxxCompiler := some "cl", vsVersion := vsVersion }
      return true
    else if hasClang then
      if clangVariant = some "clang-cl" then setCompiler "clang-cl" "clang-cl"
      else setCompiler "clang" "clang++"
      return true
    else
      return false
  else
    if ← detectGcc h then
      setCompiler "gcc" "g++"
      return true
    else if (← detectClang h).1 then
      setCompiler "clang" "clang++"
      return true
    else
      return false

/-- `CompilerDetector.setup_compiler`. -/
def setupCompiler (h : Host) : Cfg Bool := do
  let c ← config
  match c.compiler with
  | some comp =>
    if comp ≠ "" then
      if h.isWindows then validateWindows h comp else validateUnix h comp
    else setupFromCache h c
  | none => setupFromCache h c
where
  setupFromCache (h : Host) (c : BuildConfig) : Cfg Bool := do
    let w ← Py.world
    let cache := readCMakeCache h.encoding (w.tree.find? (c.getBuildDir h.system))
    match (cache.get? "CMAKE_CXX_COMPILER").bind (classifyCachedCompiler h.isWindows) with
    | some (comp, driver) =>
      setCompiler comp driver
      return true
    | none =>
      if c.interactive then
        selectCompilerInteractive h
      else
        autoDetect h

end CompilerDetector

/-!
# What `setup_compiler` settles on

`setup_compiler` changes only the compiler fields, and `PATH` through
`detect_clang`.  When it succeeds, the compiler is one the detectors report
available, except in the cache branch, which trusts the cache.
-/

def CompilerFrame (w w' : World BuildConfig) : Prop :=
  w'.tree = w.tree ∧
    ∃ comp cxx vs, w'.obj = { w.obj with compiler := comp, cxxCompiler := cxx, vsVersion := vs }

@[simp] theorem CompilerFrame.update (w : World BuildConfig) (env : Env) (stdin : List InputEvent)
    (comp cxx vs : Option String) :
    CompilerFrame w ⟨{ w.obj with compiler := comp, cxxCompiler := cxx, vsVersion := vs }, env, w.tree,
      stdin⟩ :=
  ⟨rfl, comp, cxx, vs, rfl⟩

@[simp] theorem CompilerFrame.env (w : World BuildConfig) (env : Env) (stdin : List InputEvent) :
    CompilerFrame w ⟨w.obj, env, w.tree, stdin⟩ :=
  CompilerFrame.update w env stdin _ _ _

@[simp] theorem CompilerFrame.refl (w : World BuildConfig) : CompilerFrame w w :=
  CompilerFrame.env w w.env w.stdin

def CompilerAvailable (h : Host) (w₀ w : World BuildConfig) : Prop :=
  (w.obj.compiler = some "gcc" ∧ w.obj.cxxCompiler = some "g++" ∧ h.isWindows = false ∧
    h.which w.env "gcc" = true ∧ h.which w.env "g++" = true) ∨
  (w.obj.compiler = some "clang" ∧ w.obj.cxxCompiler = some "clang++" ∧
    h.which w.env "clang" = true ∧ h.which w.env "clang++" = true) ∨
  (w.obj.compiler = some "clang-cl" ∧ w.obj.cxxCompiler = some "clang-cl" ∧ h.isWindows = true ∧
    h.which w.env "clang-cl" = true) ∨
  (w.obj.compiler = some "msvc" ∧ w.obj.cxxCompiler = some "cl" ∧ h.isWindows = true ∧
    ∃ v, (CompilerDetector.detectMsvc h w₀).result = .ok (true, v))

section Specs

open Py CompilerDetector

variable (h : Host) (w : World BuildConfig)

theorem CompilerDetector.selectCompilerInteractive_wp : wp (selectCompilerInteractive h) (fun r w' =>
    CompilerFrame w w' ∧ (r = true → CompilerAvailable h w w')) w := by
  unfold selectCompilerInteractive
  split
  · simp only [wp_bind]
    refine (wp.and (wp_result _) (detectMsvc_wp h w)).mono ?_
    rintro ⟨msvc, v⟩ w₁ ⟨⟨hres, -⟩, hw₁⟩
    subst w₁
    refine (detectClang_wp h w).mono ?_
    rintro _ w' ⟨⟨env, rfl⟩, -, ⟨rfl, -, hcl⟩ | ⟨rfl, hc, hcxx⟩ | rfl⟩ <;> cases msvc <;>
      simp only [Bool.not_true, Bool.not_false, Bool.and_true, Bool.and_false, Bool.false_eq_true,
        ↓reduceIte, wp_pure, wp_bind, wp_input, setCompiler, wp_setConfig, wp_ite] <;>
      simp_all [CompilerAvailable]
  · split
    · rename_i hwin _
      simp only [wp_bind]
      refine (detectGcc_wp h w).mono ?_
      rintro _ w₁ ⟨hw₁, rfl⟩
      subst w₁
      refine (detectClang_wp h w).mono ?_
      rintro _ w' ⟨-, hw', ⟨rfl, hwin', -⟩ | ⟨rfl, hc, hcxx⟩ | rfl⟩
      · exact absurd hwin' hwin
      all_goals
        obtain rfl := hw' (by simpa using hwin)
        cases hg : h.which w'.env "gcc" <;> cases hgxx : h.which w'.env "g++" <;>
          simp only [hg, hgxx, Bool.not_true, Bool.not_false, Bool.and_true, Bool.and_false,
            Bool.false_eq_true, ↓reduceIte, wp_pure, wp_bind, wp_input, setCompiler, wp_setConfig,
            wp_ite] <;>
          simp_all [CompilerAvailable]
    · simp

def compilerOutcomes (windows : Bool) : String → List String
  | "msvc" | "cl" => if windows then ["msvc"] else []
  | "clang" => if windows then ["clang", "clang-cl"] else ["clang"]
  | "clang-cl" => if windows then ["clang-cl"] else []
  | "gcc" => if windows then [] else ["gcc"]
  | _ => []

theorem CompilerDetector.validateWindows_wp (comp : String) (hwin : h.isWindows = true) :
    wp (validateWindows h comp) (fun r w' => CompilerFrame w w' ∧ (r = true →
      CompilerAvailable h w w' ∧ ∃ c ∈ compilerOutcomes true comp, w'.obj.compiler = some c)) w := by
  simp only [validateWindows, setCompiler, wp_bind, wp_ite, wp_pure, wp_setConfig, wp_checkCommand]
  refine ⟨fun hc => (wp.and (wp_result _) (detectMsvc_wp h w)).mono ?_,
    fun hc => ⟨fun hc' => ?_, fun _ => by simp⟩⟩
  · rintro ⟨msvc, v⟩ w₁ ⟨⟨hres, -⟩, hw₁⟩
    subst w₁
    cases msvc <;> simp_all [CompilerAvailable]
    rcases hc with rfl | rfl <;> decide
  · refine ⟨fun hcl => ?_, fun hcl => ?_⟩
    · subst hcl
      refine (setupClangClPath_wp h w).mono ?_
      rintro _ _ ⟨env, rfl⟩
      refine (detectClang_wp h _).mono ?_
      rintro _ w' ⟨⟨env', rfl⟩, -, ⟨rfl, -, hcl'⟩ | ⟨rfl, hc, hcxx⟩ | rfl⟩ <;>
        simp_all [CompilerAvailable, compilerOutcomes]
    · obtain rfl : comp = "clang" := by simpa [hcl] using hc'
      refine (detectClang_wp h w).mono ?_
      rintro _ w' ⟨⟨env', rfl⟩, -, ⟨rfl, -, hcl'⟩ | ⟨rfl, hc, hcxx⟩ | rfl⟩
      rotate_left 2
      · simp
      all_goals
        refine ⟨by simp, fun _ => ⟨fun h' => absurd h' hcl, fun _ => (plainClang_wp h _).mono ?_⟩⟩
        rintro _ w'' ⟨rfl, rfl⟩
        simp_all [CompilerAvailable, compilerOutcomes]

theorem CompilerDetector.validateUnix_wp (comp : String) (hwin : h.isWindows = false) (hc : w.obj.compiler = some comp) :
    wp (validateUnix h comp) (fun r w' => CompilerFrame w w' ∧ (r = true → CompilerAvailable h w w' ∧
      ∃ c ∈ compilerOutcomes false comp, w'.obj.compiler = some c)) w := by
  simp only [validateUnix, wp_bind, wp_ite, wp_pure, wp_setConfig]
  refine ⟨fun hg => (detectGcc_wp h w).mono ?_, fun _ => ⟨fun hcl => (detectClang_wp h w).mono ?_, fun _ => by simp⟩⟩
  · rintro _ w₁ ⟨hw₁, rfl⟩
    subst w₁
    cases hgcc : h.which w.env "gcc" <;> cases hgxx : h.which w.env "g++" <;>
      simp_all [CompilerAvailable, compilerOutcomes]
  · rintro _ w' ⟨-, hw', hcl'⟩
    obtain rfl := hw' hwin
    rcases hcl' with ⟨rfl, hwin', -⟩ | ⟨rfl, hc, hcxx⟩ | rfl <;>
      simp_all [CompilerAvailable, compilerOutcomes]

theorem CompilerDetector.autoDetect_wp : wp (autoDetect h) (fun r w' =>
    CompilerFrame w w' ∧ (r = true → CompilerAvailable h w w')) w := by
  simp only [CompilerDetector.autoDetect, setCompiler, wp_bind, wp_ite, wp_pure, wp_setConfig]
  refine ⟨fun hwin => (wp.and (wp_result _) (detectMsvc_wp h w)).mono ?_, fun hwin => (detectGcc_wp h w).mono ?_⟩
  · rintro ⟨msvc, v⟩ w₁ ⟨⟨hres, -⟩, hw₁⟩
    subst w₁
    refine (detectClang_wp h w).mono ?_
    rintro _ w' ⟨⟨env, rfl⟩, -, ⟨rfl, -, hcl⟩ | ⟨rfl, hc, hcxx⟩ | rfl⟩ <;>
      cases msvc <;> simp_all [CompilerAvailable]
  · rintro _ w₁ ⟨hw₁, rfl⟩
    subst w₁
    refine ⟨fun hg => by simp_all [CompilerAvailable], fun hg => (detectClang_wp h w).mono ?_⟩
    rintro _ w' ⟨-, hw', hcl⟩
    obtain rfl := hw' (by simpa using hwin)
    rcases hcl with ⟨rfl, hwin', -⟩ | ⟨rfl, hc, hcxx⟩ | rfl <;> simp_all [CompilerAvailable]

def cachedCompiler (h : Host) (w : World BuildConfig) : Option (String × String) :=
  ((readCMakeCache h.encoding (w.tree.find? (w.obj.getBuildDir h.system))).get? "CMAKE_CXX_COMPILER").bind
    (classifyCachedCompiler h.isWindows)

theorem CompilerDetector.setupFromCache_wp : wp (setupCompiler.setupFromCache h w.obj) (fun r w' =>
    CompilerFrame w w' ∧ (r = true → CompilerAvailable h w w' ∨
      ∃ comp drv, cachedCompiler h w = some (comp, drv) ∧
        w'.obj.compiler = some comp ∧ w'.obj.cxxCompiler = some drv)) w := by
  simp only [setupCompiler.setupFromCache, setCompiler, wp_bind, wp_world]
  split
  · rename_i comp drv hcache
    simp [CompilerFrame, cachedCompiler, hcache]
  · split
    · exact (selectCompilerInteractive_wp h w).mono fun _ _ ⟨hf, ha⟩ => ⟨hf, fun hr => .inl (ha hr)⟩
    · exact (autoDetect_wp h w).mono fun _ _ ⟨hf, ha⟩ => ⟨hf, fun hr => .inl (ha hr)⟩

theorem CompilerDetector.setupCompiler_wp : wp (setupCompiler h) (fun r w' => CompilerFrame w w' ∧ (r = true →
    (truthy w.obj.compiler = true → CompilerAvailable h w w' ∧
      ∃ c ∈ compilerOutcomes h.isWindows (w.obj.compiler.getD ""), w'.obj.compiler = some c) ∧
    (truthy w.obj.compiler = false → CompilerAvailable h w w' ∨
      ∃ comp drv, cachedCompiler h w = some (comp, drv) ∧
        w'.obj.compiler = some comp ∧ w'.obj.cxxCompiler = some drv))) w := by
  simp only [setupCompiler, wp_bind, wp_config]
  split
  · rename_i comp hcomp
    split
    · rename_i hne
      have ht : truthy w.obj.compiler = true := by simp [truthy, hcomp, hne]
      cases hwin : h.isWindows
      · simp only [Bool.false_eq_true, ite_false]
        exact (validateUnix_wp h w comp hwin hcomp).mono fun _ _ ⟨hf, ha⟩ => ⟨hf, fun hr => ⟨fun _ => by simpa [hcomp, hwin] using ha hr, by simp [ht]⟩⟩
      · simp only [ite_true]
        exact (validateWindows_wp h w comp hwin).mono fun _ _ ⟨hf, ha⟩ => ⟨hf, fun hr => ⟨fun _ => by simpa [hcomp, hwin] using ha hr, by simp [ht]⟩⟩
    · rename_i hne
      have ht : truthy w.obj.compiler = false := by simp_all [truthy]
      exact (setupFromCache_wp h w).mono fun _ _ ⟨hf, ha⟩ => ⟨hf, fun hr => ⟨by simp [ht], fun _ => ha hr⟩⟩
  · rename_i hcomp
    have ht : truthy w.obj.compiler = false := by simp [truthy, hcomp]
    exact (setupFromCache_wp h w).mono fun _ _ ⟨hf, ha⟩ => ⟨hf, fun hr => ⟨by simp [ht], fun _ => ha hr⟩⟩

theorem setupCompiler_available_or_cached (h : Host) (w : World BuildConfig)
    (hr : (setupCompiler h w).result = .ok true) :
    CompilerAvailable h w (setupCompiler h w).state ∨
      (truthy w.obj.compiler = false ∧ ∃ comp drv, cachedCompiler h w = some (comp, drv) ∧
        (setupCompiler h w).state.obj.compiler = some comp ∧
        (setupCompiler h w).state.obj.cxxCompiler = some drv) := by
  have hpost := ((setupCompiler_wp h w) true hr).2 rfl
  cases ht : truthy w.obj.compiler
  · exact (hpost.2 ht).imp_right fun hc => ⟨rfl, hc⟩
  · exact .inl (hpost.1 ht).1

theorem setupCompiler_available_or_cached_gcc :
    let h : Host := Host.ofTools .linux ["gcc", "g++"]
    let w : World BuildConfig := ⟨{ BuildConfig.init with compiler := some "gcc" }, [],
      ⟨[], by decide⟩, []⟩
    (setupCompiler h w).result = .ok true ∧
      (CompilerAvailable h w (setupCompiler h w).state ∨
        (truthy w.obj.compiler = false ∧ ∃ comp drv, cachedCompiler h w = some (comp, drv) ∧
          (setupCompiler h w).state.obj.compiler = some comp ∧
          (setupCompiler h w).state.obj.cxxCompiler = some drv)) :=
  ⟨by decide, setupCompiler_available_or_cached _ _ (by decide)⟩

theorem setupCompiler_trusts_cache :
    let h : Host := Host.ofTools .linux ["cmake"]
    let w : World BuildConfig :=
      ⟨{ BuildConfig.init with buildType := some "Release", interactive := false }, [],
        Tree.single ⟨"release", "linux"⟩
          { Workspace.empty with cache := some ["CMAKE_CXX_COMPILER:FILEPATH=/usr/bin/g++"] }, []⟩
    (setupCompiler h w).result = .ok true ∧
    (setupCompiler h w).state.obj.compiler = some "gcc" ∧
    h.which (setupCompiler h w).state.env "gcc" = false := by decide

end Specs

end Configure
end HeliosBuild
