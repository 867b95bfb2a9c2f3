import HeliosBuild.Configure.MsvcEnv
import HeliosBuild.Configure.Prompts

/-!
# `CMakeBuilder.configure`

With a Conan toolchain the command goes straight to `cmake`.  Otherwise the
workspace's cache is checked for a generator other than the resolved one,
which may lead to a clean rebuild of the directory, and the compiler, module
and Conan flags are assembled before `cmake` runs.  A successful `cmake` run
writes the workspace's `CMakeCache.txt`.
-/

namespace HeliosBuild
namespace Configure
namespace CMakeBuilder

/-- `-DNAME=ON` or `-DNAME=OFF` for a flag that is set. -/
def onOff (name : String) : Option Bool → List String
  | some b => ["-D" ++ name ++ "=" ++ if b then "ON" else "OFF"]
  | none => []

/-- The module flags of both branches. -/
def moduleFlags (c : BuildConfig) : List String :=
  onOff "HELIOS_BUILD_CORE_ONLY" c.coreOnly ++ onOff "HELIOS_BUILD_TESTS" c.buildTests ++
    onOff "HELIOS_BUILD_EXAMPLES" c.buildExamples

/-- `shlex.split(self.config.cmake_args)` when extra arguments are given. -/
def extraArgs (c : BuildConfig) : Cfg (List String) :=
  if c.cmakeArgs = "" then pure []
  else match PyStr.shlexSplit c.cmakeArgs with
    | some args => pure args
    | none => Py.raise .valueError

/-- `build_dir.mkdir(parents=True, exist_ok=True)`. -/
def mkdirBuildDir (h : Host) (k : WsKey) : Cfg Unit := do
  if ((← Py.world).tree.find? k).isNone then
    Py.emit (.mkdir (wsPath h.projectRoot k)) rfl
    Py.modify fun w => { w with tree := w.tree.mkdir k }

/-- `shutil.rmtree(build_dir)` if it exists. -/
def rmtreeBuildDir (h : Host) (k : WsKey) : Cfg Unit := do
  if ((← Py.world).tree.find? k).isSome then
    Py.emit (.rmtree (wsPath h.projectRoot k)) rfl
    Py.modify fun w => { w with tree := w.tree.rmtree k }

/-- Run `cmake`; a successful run writes the workspace's cache. -/
def runCMake (h : Host) (k : WsKey) (argv : List String) : Cfg Bool := do
  Py.runCmd argv
  if h.rc argv = 0 then
    Py.modify fun w =>
      { w with tree := w.tree.update k fun ws =>
          { ws with cache := some (h.cmakeCache argv), mtime := h.clock } }
    return true
  return false

/-- The branch taken with a Conan toolchain. -/
def configureWithToolchain (h : Host) (c : BuildConfig) (toolchain : String) : Cfg Bool := do
  let k := c.getBuildDir h.system
  mkdirBuildDir h k
  let args := ["cmake", "-S", h.projectRoot, "-B", wsPath h.projectRoot k,
      "-DCMAKE_TOOLCHAIN_FILE=" ++ toolchain, "-DCMAKE_EXPORT_COMPILE_COMMANDS=ON",
      "-DHELIOS_USE_CONAN=ON", "-DHELIOS_FORCE_CONAN=ON"] ++
    (if truthy c.buildSystem then ["-G", pyFormat c.buildSystem] else []) ++
    (if truthy c.buildType then ["-DCMAKE_BUILD_TYPE=" ++ pyFormat c.buildType] else []) ++
    moduleFlags c
  let extra ← extraArgs c
  runCMake h k (args ++ extra)

/-- `cmake_cache.read_text()` for the workspace, when the file exists and decodes in the locale's
encoding; the `except Exception: pass` around the check skips it otherwise. -/
def cacheText (h : Host) (ws : Option Workspace) : Option (List String) :=
  (ws.bind Workspace.cache).bind fun lines => lines.mapM h.encoding

def generatorChanged (c : BuildConfig) (text : List String) : Bool :=
  (PyStr.splitlines text).any fun line =>
    PyStr.startswith line "CMAKE_GENERATOR:INTERNAL=" &&
      some (PyStr.partition line '=').2 ≠ c.buildSystem

def compilerFlags (h : Host) (c : BuildConfig) : Cfg (List String) := do
  match c.compiler with
  | none => return []
  | some comp =>
    if comp = "" || comp = "msvc" then
      return []
    let (cc, cxx) := if comp = "clang-cl" then ("clang-cl", "clang-cl") else (comp, pyFormat c.cxxCompiler)
    let base := ["-DCMAKE_C_COMPILER=" ++ cc, "-DCMAKE_CXX_COMPILER=" ++ cxx]
    if comp = "clang-cl" then
      return base ++ (if ← Py.checkCommand h "llvm-lib" then ["-DCMAKE_AR=llvm-lib"] else [])
    else if comp = "clang" && !h.isWindows then
      return base ++ (if ← Py.checkCommand h "llvm-ar" then ["-DCMAKE_AR=llvm-ar"] else []) ++
        (if ← Py.checkCommand h "llvm-ranlib" then ["-DCMAKE_RANLIB=llvm-ranlib"] else [])
    return base

def configureManual (h : Host) : Cfg Bool := do
  let k := (← config).getBuildDir h.system
  mkdirBuildDir h k
  if let some text := cacheText h ((← Py.world).tree.find? k) then
    let c ← config
    if generatorChanged c text && c.interactive then
      if ← askYesNo .cleanBuildDir rfl true then
        setConfig fun c => { c with cleanBuild := true }
  let c ← config
  if c.cleanBuild then
    rmtreeBuildDir h k
    mkdirBuildDir h k
  let isMultiConfig := truthy c.buildSystem && PyStr.contains (pyFormat c.buildSystem) "Visual Studio"
  let conanFlags :=
    if c.useConan = some true && c.conanToolchain.isSome then
      ["-DCMAKE_TOOLCHAIN_FILE=" ++ pyFormat c.conanToolchain, "-DHELIOS_USE_CONAN=ON",
       "-DHELIOS_FORCE_CONAN=ON"]
    else ["-DHELIOS_USE_CONAN=OFF", "-DHELIOS_FORCE_CONAN=OFF"]
  let args := ["cmake", "-S", h.projectRoot, "-B", wsPath h.projectRoot k] ++
    (if truthy c.buildSystem then ["-G", pyFormat c.buildSystem] else []) ++ conanFlags ++
    (if truthy c.buildType && !isMultiConfig then ["-DCMAKE_BUILD_TYPE=" ++ pyFormat c.buildType]
     else []) ++
    (← if isMultiConfig then pure [] else compilerFlags h c) ++
    moduleFlags c ++ ["-DCMAKE_EXPORT_COMPILE_COMMANDS=ON"]
  let extra ← extraArgs c
  if h.isWindows && c.useConan = some true then
    if (((← Py.world).tree.find? k).map Workspace.conanBuild).getD false then
      Py.shellCmd ("\"" ++ wsPath h.projectRoot k ++ "/conanbuild.bat\" && set")
  runCMake h k (args ++ extra)

/-- `CMakeBuilder.configure`. -/
def configure (h : Host) : Cfg Bool := do
  let c ← config
  match c.useConan, c.conanToolchain with
  | some true, some tc => configureWithToolchain h c tc
  | _, _ => configureManual h


/-!
# What `configure` does before `cmake`

Without a Conan toolchain, `configure` runs `cmake` once, as its last action.
Before it, the workspace is removed exactly when `clean_build` was set, or
when its cache records another generator and the user, asked in an
interactive run, agrees to clean it.  A non-interactive run only warns, and a
refusal keeps the stale cache.  The branch with a Conan toolchain checks
neither the generator nor `clean_build`.
-/

section Effects

open Py

variable (h : Host) (k : WsKey) (w : World BuildConfig)

@[simp] theorem wpT_mkdirBuildDir {R : Unit → World BuildConfig → List Effect → Prop} :
    wpT (mkdirBuildDir h k) R w ↔ R () { w with tree := w.tree.mkdir k }
      (if (w.tree.find? k).isNone then [.mkdir (wsPath h.projectRoot k)] else []) := by
  simp only [mkdirBuildDir, wpT_bind, wpT_world, wpT_ite, wpT_emit, wpT_modify, wpT_pure]
  by_cases hs : (w.tree.find? k).isNone
  · simp [hs]
  · rw [Tree.mkdir_of_isSome (by cases hf : w.tree.find? k <;> simp_all)]
    simp [hs]

@[simp] theorem wpT_rmtreeBuildDir {R : Unit → World BuildConfig → List Effect → Prop}
    (hk : (w.tree.find? k).isSome) :
    wpT (rmtreeBuildDir h k) R w ↔ R () { w with tree := w.tree.rmtree k }
      [.rmtree (wsPath h.projectRoot k)] := by
  obtain ⟨ws, hws⟩ := Option.isSome_iff_exists.1 hk
  simp [rmtreeBuildDir, hws]

theorem compilerFlags_wpT (c : BuildConfig) :
    wpT (compilerFlags h c) (fun _ w' e => w' = w ∧ e = []) w := by
  unfold compilerFlags
  split
  · simp
  · split_ifs <;> simp

theorem extraArgs_wpT (c : BuildConfig) : wpT (extraArgs c) (fun _ w' e => w' = w ∧ e = []) w := by
  unfold extraArgs
  split_ifs
  · simp
  · split <;> simp

@[simp] theorem wpT_extraArgs (c : BuildConfig) {R : List String → World BuildConfig → List Effect → Prop} :
    wpT (extraArgs c) R w ↔ ∀ a, (extraArgs c w).result = .ok a → R a w [] :=
  wpT_of_silent (extraArgs_wpT w c)

theorem wpT_cacheCheck_join {o : Option (List String)} {x : List String → Cfg BuildConfig}
    {y : Option (List String) → Cfg BuildConfig} {k : BuildConfig → Cfg Bool}
    {Q : Bool → World BuildConfig → List Effect → Prop}
    (R : BuildConfig → World BuildConfig → List Effect → Prop)
    (hx : ∀ l, o = some l → wpT (x l) R w) (hy : o = none → wpT (y none) R w)
    (hk : ∀ a w' e, R a w' e → wpT (k a) (fun b w'' e' => Q b w'' (e ++ e')) w') :
    wpT (match o with | some lines => x lines >>= k | z => y z >>= k) Q w := by
  cases o with
  | some l => exact wpT_seq R (hx l rfl) hk
  | none => exact wpT_seq R (hy rfl) hk

def CleansWorkspace (h : Host) (w : World BuildConfig) : Prop :=
  w.obj.cleanBuild = true ∨
    (∃ text, cacheText h (w.tree.find? (w.obj.getBuildDir h.system)) = some text ∧
      generatorChanged w.obj text = true) ∧ w.obj.interactive = true ∧
      (askYesNoLoop true w.stdin).1 = true

theorem configureManual_wpT : wpT (configureManual h) (fun _ _ e =>
    (∃ argv, e.getLast? = some (.run argv) ∧ argv.head? = some "cmake") ∧ (runsOf e).length = 1 ∧
    (.rmtree (wsPath h.projectRoot (w.obj.getBuildDir h.system)) ∈ e ↔ CleansWorkspace h w)) w := by
  unfold configureManual
  -- gather the copies of the rest of the function that each `if` without `else` made
  simp only [← Py.bind_assoc, ← Py.ite_bind]
  simp only [wpT_bind, wpT_config, wpT_world, wpT_mkdirBuildDir]
  generalize hk : w.obj.getBuildDir h.system = k
  refine wpT_cacheCheck_join _ (R := fun c w₂ e₂ => c = w₂.obj ∧ (w₂.tree.find? k).isSome ∧
    (c.cleanBuild = true ↔ CleansWorkspace h w) ∧ runsOf e₂ = [] ∧
    .rmtree (wsPath h.projectRoot k) ∉ e₂) ?_ ?_ ?_
  · -- a cache: the generator check, and the question
    intro lines hlines
    simp only [cacheText, Tree.find?_mkdir_self, Option.some_bind, Workspace.getD_empty_cache] at hlines
    simp only [wpT_bind, wpT_config, wpT_ite, askYesNo, wpT_readCaught, wpT_setConfig, wpT_pure]
    have hcl : CleansWorkspace h w ↔ w.obj.cleanBuild = true ∨
        (generatorChanged w.obj lines && w.obj.interactive) = true ∧
          (askYesNoLoop true w.stdin).1 = true := by
      simp only [CleansWorkspace, cacheText, hk, hlines, Option.some.injEq, exists_eq_left',
        Bool.and_eq_true, and_assoc]
    cases hb : (generatorChanged w.obj lines && w.obj.interactive) <;>
      cases ha : (askYesNoLoop true w.stdin).1 <;> simp [hcl, hb, ha]
  · -- no cache
    intro hnone
    simp only [cacheText, Tree.find?_mkdir_self, Option.some_bind, Workspace.getD_empty_cache] at hnone
    simp only [CleansWorkspace, cacheText, hk, hnone]
    simp
  · -- the clean, the command line, the Conan environment and `cmake`
    rintro c w₂ e₂ ⟨rfl, hws, hclean, hruns, hrm⟩
    simp only [wpT_bind]
    refine wpT.mono (R := fun _ _ e₃ => runsOf e₃ = [] ∧
      (.rmtree (wsPath h.projectRoot k) ∈ e₃ ↔ w₂.obj.cleanBuild = true)) ?_ ?_
    · split_ifs with hcb <;> simp [hws, hcb]
    rintro _ w₃ e₃ ⟨hr₃, hm₃⟩
    refine wpT.mono (R := fun _ w' e => w' = w₃ ∧ e = []) ?_ ?_
    · split_ifs
      · simp
      · exact compilerFlags_wpT h w₃ _
    rintro _ _ _ ⟨rfl, rfl⟩
    simp only [wpT_extraArgs]
    intro extra _
    refine wpT.mono (R := fun _ _ e => runsOf e = [] ∧ .rmtree (wsPath h.projectRoot k) ∉ e) ?_ ?_
    · split_ifs <;> simp
    rintro _ _ e₅ ⟨hr₅, hm₅⟩
    simp only [runCMake, wpT_bind, wpT_runCmd, wpT_ite, wpT_modify, wpT_pure]
    simp [hruns, hrm, hr₃, hm₃, hr₅, hm₅, hclean]

theorem configure_cleans_before_cmake
    (hman : ¬ (w.obj.useConan = some true ∧ w.obj.conanToolchain.isSome)) (r : Bool)
    (hr : (configure h w).result = .ok r) :
    (∃ argv, (configure h w).effects.getLast? = some (.run argv) ∧ argv.head? = some "cmake") ∧
      (runsOf (configure h w).effects).length = 1 ∧
      (.rmtree (wsPath h.projectRoot (w.obj.getBuildDir h.system)) ∈ (configure h w).effects ↔
        CleansWorkspace h w) := by
  have hw : wpT (configure h) (fun _ _ e =>
      (∃ argv, e.getLast? = some (.run argv) ∧ argv.head? = some "cmake") ∧ (runsOf e).length = 1 ∧
      (.rmtree (wsPath h.projectRoot (w.obj.getBuildDir h.system)) ∈ e ↔ CleansWorkspace h w)) w := by
    simp only [configure, wpT_bind, wpT_config]
    split
    · simp_all
    · simpa using configureManual_wpT h w
  exact hw r hr

theorem configure_cleans_before_cmake_clean :
    let h : Host := Host.ofTools .linux []
    let w : World BuildConfig := ⟨{ BuildConfig.init with cleanBuild := true }, [],
      Tree.single ⟨"release", "linux"⟩ { Workspace.empty with cache := some [] }, []⟩
    ¬ (w.obj.useConan = some true ∧ w.obj.conanToolchain.isSome) ∧ (configure h w).result = .ok true ∧
      ((∃ argv, (configure h w).effects.getLast? = some (.run argv) ∧ argv.head? = some "cmake") ∧
        (runsOf (configure h w).effects).length = 1 ∧
        (.rmtree (wsPath h.projectRoot (w.obj.getBuildDir h.system)) ∈ (configure h w).effects ↔
          CleansWorkspace h w)) :=
  ⟨by decide, by decide, configure_cleans_before_cmake _ _ (by decide) true (by decide)⟩

theorem configure_runs_cmake_on_stale_cache :
    let h : Host := Host.ofTools .linux []
    let stale : Workspace :=
      { Workspace.empty with cache := some ["CMAKE_GENERATOR:INTERNAL=Unix Makefiles"] }
    let batch : World BuildConfig :=
      ⟨{ BuildConfig.init with buildSystem := some "Ninja", interactive := false }, [],
        Tree.single ⟨"release", "linux"⟩ stale, []⟩
    let conan : World BuildConfig :=
      ⟨{ BuildConfig.init with
          buildSystem := some "Ninja", cleanBuild := true, useConan := some true,
          conanToolchain := some "/tc.cmake" }, [], Tree.single ⟨"release", "linux"⟩ stale, []⟩
    let hw : Host := { Host.ofTools .windows [] with encoding := Codec.singleByte cp1252 }
    let lines := ["CMAKE_GENERATOR:INTERNAL=Unix Makefiles",
      "CMAKE_CACHEFILE_DIR:INTERNAL=C:/Projekty/Łódź/HeliosEngine/build/release/windows"]
    let asked : World BuildConfig :=
      ⟨{ BuildConfig.init with buildSystem := some "Ninja" }, [],
        Tree.single ⟨"release", "windows"⟩ { Workspace.empty with cache := some lines }, []⟩
    generatorChanged batch.obj ["CMAKE_GENERATOR:INTERNAL=Unix Makefiles"] = true ∧
    (configure h batch).result = .ok true ∧
    (configure h batch).effects = [.run ["cmake", "-S", "/src/helios", "-B",
      "/src/helios/build/release/linux", "-G", "Ninja", "-DHELIOS_USE_CONAN=OFF",
      "-DHELIOS_FORCE_CONAN=OFF", "-DCMAKE_EXPORT_COMPILE_COMMANDS=ON"]] ∧
    (configure h conan).result = .ok true ∧
    (configure h conan).effects = [.run ["cmake", "-S", "/src/helios", "-B",
      "/src/helios/build/release/linux", "-DCMAKE_TOOLCHAIN_FILE=/tc.cmake",
      "-DCMAKE_EXPORT_COMPILE_COMMANDS=ON", "-DHELIOS_USE_CONAN=ON", "-DHELIOS_FORCE_CONAN=ON", "-G",
      "Ninja"]] ∧
    generatorChanged asked.obj lines = true ∧ asked.obj.interactive = true ∧
    cacheText hw (asked.tree.find? ⟨"release", "windows"⟩) = none ∧
    (configure hw asked).result = .ok true ∧
    (configure hw asked).effects = [.run ["cmake", "-S", "/src/helios", "-B",
      "/src/helios/build/release/windows", "-G", "Ninja", "-DHELIOS_USE_CONAN=OFF",
      "-DHELIOS_FORCE_CONAN=OFF", "-DCMAKE_EXPORT_COMPILE_COMMANDS=ON"]] := by
  decide

end Effects

end CMakeBuilder
end Configure
end HeliosBuild
