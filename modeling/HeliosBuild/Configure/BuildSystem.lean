import HeliosBuild.Configure.Detect

/-!
# Build-system selection in `configure.py`

`BuildSystemSelector.select_build_system_interactive` offers the generators
the host has; `BuildSystemSelector.setup_build_system` validates a requested
one, renaming the spellings it knows, or picks one by itself.  A requested
name it does not know is kept unchanged.
-/

namespace HeliosBuild
namespace Configure
namespace BuildSystemSelector

/-- `self.config.build_system = g`. -/
def setBuildSystem (g : Option String) : Cfg Unit :=
  setConfig fun c => { c with buildSystem := g }

/-- `BuildSystemSelector.select_build_system_interactive`. -/
def selectBuildSystemInteractive (h : Host) : Cfg Bool := do
  if h.isWindows then
    let (hasMsbuild, msbuildGenerator) ← detectMsbuild h
    let hasNinja ← detectNinja h
    if !hasMsbuild && !hasNinja then
      return false
    if hasNinja && !hasMsbuild then
      setBuildSystem (some "Ninja")
      return true
    if hasMsbuild && !hasNinja then
      setBuildSystem msbuildGenerator
      return true
    let choice := PyStr.strip (← Py.input .buildSystem)
    if choice = "1" then setBuildSystem msbuildGenerator
    else setBuildSystem (some "Ninja")
    return true
  else if h.system = .linux || h.system = .darwin then
    let hasNinja ← detectNinja h
    let hasMake ← detectMake h
    if !hasNinja && !hasMake then
      return false
    if hasNinja && !hasMake then
      setBuildSystem (some "Ninja")
      return true
    if hasMake && !hasNinja then
      setBuildSystem (some "Make")
      return true
    let choice := PyStr.strip (← Py.input .buildSystem)
    if choice = "2" then setBuildSystem (some "Make")
    else setBuildSystem (some "Ninja")
    return true
  else
    return false

/-- The check `setup_build_system` makes of a requested build system. -/
def validate (h : Host) (requested : String) : Cfg Bool := do
  let buildSysLower := PyStr.lower requested
  if buildSysLower = "ninja" then
    if !(← detectNinja h) then
      return false
    setBuildSystem (some "Ninja")
  else if buildSysLower = "make" || buildSysLower = "unix makefiles" then
    if !(← detectMake h) then
      return false
    setBuildSystem (some "Unix Makefiles")
  else if buildSysLower = "msbuild" || buildSysLower = "visual studio" then
    let (hasMsbuild, msbuildGenerator) ← detectMsbuild h
    if !hasMsbuild then
      return false
    setBuildSystem msbuildGenerator
  return true

/-- The non-interactive auto-detection of `setup_build_system`. -/
def autoDetect (h : Host) : Cfg Bool := do
  if h.isWindows then
    if ← detectNinja h then
      setBuildSystem (some "Ninja")
      return true
    let (hasMsbuild, msbuildGenerator) ← detectMsbuild h
    if hasMsbuild then
      setBuildSystem msbuildGenerator
      return true
    return false
  else
    if ← detectNinja h then
      setBuildSystem (some "Ninja")
      return true
    else if ← detectMake h then
      setBuildSystem (some "Unix Makefiles")
      return true
    return false

/-- `BuildSystemSelector.setup_build_system`. -/
def setupBuildSystem (h : Host) : Cfg Bool := do
  let c ← config
  match c.buildSystem with
  | some requested =>
    if requested ≠ "" then validate h requested
    else if c.interactive then selectBuildSystemInteractive h else autoDetect h
  | none => if c.interactive then selectBuildSystemInteractive h else autoDetect h

end BuildSystemSelector

/-!
# What `setup_build_system` settles on
-/

/-- What the build-system steps may change: the generator, and the unread input. -/
def BuildSystemFrame (w w' : World BuildConfig) : Prop :=
  w'.tree = w.tree ∧ w'.env = w.env ∧ ∃ g, w'.obj = { w.obj with buildSystem := g }

/-- The generators `setup_build_system` may settle on for a requested name: the spellings it knows become CMake generator names, `msbuild` and `visual studio` the detected Visual Studio generator, and any other name is kept. -/
def BuildSystemOutcome (requested : String) (g : Option String) : Prop :=
  if PyStr.lower requested = "ninja" then g = some "Ninja"
  else if PyStr.lower requested = "make" || PyStr.lower requested = "unix makefiles" then
    g = some "Unix Makefiles"
  else if PyStr.lower requested = "msbuild" || PyStr.lower requested = "visual studio" then
    g ∈ [some "Visual Studio 17 2022", some "Visual Studio 16 2019", some "Visual Studio 15 2017"]
  else g = some requested

section Specs

open Py BuildSystemSelector

variable (h : Host) (w : World BuildConfig)

theorem BuildSystemSelector.selectBuildSystemInteractive_wp :
    wp (selectBuildSystemInteractive h) (fun _ w' => BuildSystemFrame w w') w := by
  simp only [selectBuildSystemInteractive, setBuildSystem, wp_bind, wp_ite, wp_pure, wp_setConfig, wp_input]
  refine ⟨fun _ => (detectMsbuild_wp h w).mono ?_, fun _ => ⟨fun _ => (detectNinja_wp h w).mono ?_, fun _ => by simp [BuildSystemFrame]⟩⟩
  · rintro _ w₁ ⟨hw₁, -⟩
    subst w₁
    refine (detectNinja_wp h w).mono ?_
    rintro _ w₁ ⟨hw₁, -⟩
    subst w₁
    simp [BuildSystemFrame]
  · rintro _ w₁ ⟨hw₁, -⟩
    subst w₁
    refine (detectMake_wp h w).mono ?_
    rintro _ w₁ ⟨hw₁, -⟩
    subst w₁
    simp [BuildSystemFrame]

theorem BuildSystemSelector.validate_wp (requested : String) (hr : w.obj.buildSystem = some requested) :
    wp (validate h requested) (fun r w' => BuildSystemFrame w w' ∧
      (r = true → BuildSystemOutcome requested w'.obj.buildSystem)) w := by
  simp only [validate, setBuildSystem, wp_bind, wp_ite, wp_pure, wp_setConfig]
  refine ⟨fun hn => (detectNinja_wp h w).mono ?_, fun hn => ⟨fun hm => (detectMake_wp h w).mono ?_, fun hm => ⟨fun hb => (detectMsbuild_wp h w).mono ?_, fun hb => ?_⟩⟩⟩
  · rintro _ w₁ ⟨hw₁, -⟩
    subst w₁
    simp_all [BuildSystemFrame, BuildSystemOutcome]
  · rintro _ w₁ ⟨hw₁, -⟩
    subst w₁
    simp_all [BuildSystemFrame, BuildSystemOutcome]
  · rintro ⟨found, g⟩ w₁ ⟨hw₁, hg⟩
    subst w₁
    cases found <;> simp_all [BuildSystemFrame, BuildSystemOutcome]
  · simp_all [BuildSystemFrame, BuildSystemOutcome]

theorem BuildSystemSelector.autoDetect_wp : wp (autoDetect h) (fun _ w' => BuildSystemFrame w w') w := by
  simp only [BuildSystemSelector.autoDetect, setBuildSystem, wp_bind, wp_ite, wp_pure, wp_setConfig]
  refine ⟨fun _ => (detectNinja_wp h w).mono ?_, fun _ => (detectNinja_wp h w).mono ?_⟩
  · rintro _ w₁ ⟨hw₁, -⟩
    subst w₁
    refine ⟨fun _ => by simp [BuildSystemFrame], fun _ => (detectMsbuild_wp h w).mono ?_⟩
    rintro _ w₁ ⟨hw₁, -⟩
    subst w₁
    simp [BuildSystemFrame]
  · rintro _ w₁ ⟨hw₁, -⟩
    subst w₁
    refine ⟨fun _ => by simp [BuildSystemFrame], fun _ => (detectMake_wp h w).mono ?_⟩
    rintro _ w₁ ⟨hw₁, -⟩
    subst w₁
    simp [BuildSystemFrame]

theorem BuildSystemSelector.setupBuildSystem_wp : wp (setupBuildSystem h) (fun r w' => BuildSystemFrame w w' ∧
    (r = true → ∀ requested, w.obj.buildSystem = some requested → requested ≠ "" →
      BuildSystemOutcome requested w'.obj.buildSystem)) w := by
  simp only [setupBuildSystem, wp_bind, wp_config]
  split
  · rename_i requested hreq
    split
    · exact (validate_wp h w requested hreq).mono fun _ _ ⟨hf, ho⟩ => ⟨hf, fun hr _ hr' _ => by simp_all⟩
    · split
      · exact (selectBuildSystemInteractive_wp h w).mono fun _ _ hf => ⟨hf, by simp_all⟩
      · exact (autoDetect_wp h w).mono fun _ _ hf => ⟨hf, by simp_all⟩
  · split
    · exact (selectBuildSystemInteractive_wp h w).mono fun _ _ hf => ⟨hf, by simp_all⟩
    · exact (autoDetect_wp h w).mono fun _ _ hf => ⟨hf, by simp_all⟩

end Specs

/-!
# What `setup_build_system` accepts

The check of a requested name has no branch for a name outside the spellings
it knows, so such a name is kept without asking the host; and the menu of
`select_build_system_interactive` on Linux and macOS sets `Make`, a spelling
the check renames, rather than the CMake generator `Unix Makefiles` it renames
it to.
-/

/-- The generators the host offers in world `w₀`: `Ninja` where `ninja` resolves, `Unix Makefiles` where `make` or `mingw32-make` does, and on Windows the Visual Studio generator `detect_msbuild` reports. -/
def GeneratorAvailable (h : Host) (w₀ : World BuildConfig) (g : Option String) : Prop :=
  (g = some "Ninja" ∧ h.which w₀.env "ninja" = true) ∨
  (g = some "Unix Makefiles" ∧ (h.which w₀.env "make" || h.which w₀.env "mingw32-make") = true) ∨
  (h.isWindows = true ∧ (BuildSystemSelector.detectMsbuild h w₀).result = .ok (true, g))

instance (h : Host) (w₀ : World BuildConfig) (g : Option String) :
    Decidable (GeneratorAvailable h w₀ g) := by
  unfold GeneratorAvailable; infer_instance

def knownBuildSystems : List String := ["ninja", "make", "unix makefiles", "msbuild", "visual studio"]

section Accepts

open Py BuildSystemSelector

variable (h : Host) (w : World BuildConfig)

theorem BuildSystemSelector.detectMsbuild_isWindows {g : Option String}
    (hg : (detectMsbuild h w).result = .ok (true, g)) : h.isWindows = true := by
  cases hw : h.isWindows
  · simp [detectMsbuild, hw] at hg
  · rfl

theorem BuildSystemSelector.validate_accepts (requested : String) :
    wp (validate h requested) (fun r w' => r = true → GeneratorAvailable h w w'.obj.buildSystem ∨
      (PyStr.lower requested ∉ knownBuildSystems ∧ w' = w)) w := by
  simp only [validate, setBuildSystem, wp_bind, wp_ite, wp_pure, wp_setConfig]
  refine ⟨fun hn => (detectNinja_wp h w).mono ?_, fun hn => ⟨fun hm => (detectMake_wp h w).mono ?_,
    fun hm => ⟨fun hb => (wp.and (wp_result _) (detectMsbuild_wp h w)).mono ?_, fun hb => ?_⟩⟩⟩
  · rintro _ w₁ ⟨hw₁, rfl⟩
    subst w₁
    cases hn : h.which w.env "ninja" <;> simp [GeneratorAvailable, hn]
  · rintro _ w₁ ⟨hw₁, rfl⟩
    subst w₁
    cases hm : (h.which w.env "make" || h.which w.env "mingw32-make") <;> simp [GeneratorAvailable, hm]
  · rintro ⟨found, g⟩ w₁ ⟨⟨hres, -⟩, hw₁, -⟩
    subst w₁
    cases found
    · simp
    · simp [GeneratorAvailable, hres, detectMsbuild_isWindows h w hres]
  · simp_all [knownBuildSystems]

theorem BuildSystemSelector.selectBuildSystemInteractive_accepts :
    wp (selectBuildSystemInteractive h) (fun r w' => r = true →
      GeneratorAvailable h w w'.obj.buildSystem ∨ (w'.obj.buildSystem = some "Make" ∧
        h.isWindows = false ∧ (h.which w.env "make" || h.which w.env "mingw32-make") = true)) w := by
  simp only [selectBuildSystemInteractive, setBuildSystem, wp_bind, wp_ite, wp_pure, wp_setConfig,
    wp_input]
  refine ⟨fun hwin => (wp.and (wp_result _) (detectMsbuild_wp h w)).mono ?_,
    fun hwin => ⟨fun _ => (detectNinja_wp h w).mono ?_, fun _ => by simp⟩⟩
  · rintro ⟨found, g⟩ w₁ ⟨⟨hres, -⟩, hw₁, -⟩
    subst w₁
    refine (detectNinja_wp h w).mono ?_
    rintro _ w₁ ⟨hw₁, rfl⟩
    subst w₁
    cases found <;> cases hn : h.which w.env "ninja" <;> simp [GeneratorAvailable, hn, hres, hwin]
  · rintro _ w₁ ⟨hw₁, rfl⟩
    subst w₁
    refine (detectMake_wp h w).mono ?_
    rintro _ w₁ ⟨hw₁, rfl⟩
    subst w₁
    cases hn : h.which w.env "ninja" <;> cases hm : (h.which w.env "make" || h.which w.env "mingw32-make") <;>
      simp [GeneratorAvailable, hn, hm, hwin]

theorem BuildSystemSelector.autoDetect_accepts :
    wp (autoDetect h) (fun r w' => r = true → GeneratorAvailable h w w'.obj.buildSystem) w := by
  simp only [autoDetect, setBuildSystem, wp_bind, wp_ite, wp_pure, wp_setConfig]
  refine ⟨fun hwin => (detectNinja_wp h w).mono ?_, fun hwin => (detectNinja_wp h w).mono ?_⟩
  · rintro _ w₁ ⟨hw₁, rfl⟩
    subst w₁
    refine ⟨fun hn => by simp [GeneratorAvailable, hn], fun _ => (wp.and (wp_result _) (detectMsbuild_wp h w)).mono ?_⟩
    rintro ⟨found, g⟩ w₁ ⟨⟨hres, -⟩, hw₁, -⟩
    subst w₁
    cases found <;> simp [GeneratorAvailable, hres, hwin]
  · rintro _ w₁ ⟨hw₁, rfl⟩
    subst w₁
    refine ⟨fun hn => by simp [GeneratorAvailable, hn], fun _ => (detectMake_wp h w).mono ?_⟩
    rintro _ w₁ ⟨hw₁, rfl⟩
    subst w₁
    cases hm : (h.which w.env "make" || h.which w.env "mingw32-make") <;> simp [GeneratorAvailable, hm]

def SetupAccepted (h : Host) (w : World BuildConfig) (g : Option String) : Prop :=
  GeneratorAvailable h w g ∨
    (g = some "Make" ∧ h.isWindows = false ∧ w.obj.interactive = true ∧
      truthy w.obj.buildSystem = false ∧ (h.which w.env "make" || h.which w.env "mingw32-make") = true) ∨
    (∃ requested, w.obj.buildSystem = some requested ∧ requested ≠ "" ∧
      PyStr.lower requested ∉ knownBuildSystems ∧ g = some requested)

theorem BuildSystemSelector.setupBuildSystem_accepts_wp :
    wp (setupBuildSystem h) (fun r w' => r = true → SetupAccepted h w w'.obj.buildSystem) w := by
  simp only [setupBuildSystem, wp_bind, wp_config]
  split
  · rename_i requested hreq
    split
    · refine (validate_accepts h w requested).mono fun _ w' hv hr => ?_
      rcases hv hr with ha | ⟨hunk, rfl⟩
      · exact Or.inl ha
      · exact Or.inr (Or.inr ⟨requested, hreq, by assumption, hunk, hreq⟩)
    · rename_i hempty
      split
      · refine (selectBuildSystemInteractive_accepts h w).mono fun _ _ hs hr => ?_
        rcases hs hr with ha | ⟨hg, hwin, hm⟩
        · exact Or.inl ha
        · exact Or.inr (Or.inl ⟨hg, hwin, by assumption, by simp_all [truthy], hm⟩)
      · exact (autoDetect_accepts h w).mono fun _ _ ha hr => Or.inl (ha hr)
  · rename_i hnone
    split
    · refine (selectBuildSystemInteractive_accepts h w).mono fun _ _ hs hr => ?_
      rcases hs hr with ha | ⟨hg, hwin, hm⟩
      · exact Or.inl ha
      · exact Or.inr (Or.inl ⟨hg, hwin, by assumption, by simp [truthy, hnone], hm⟩)
    · exact (autoDetect_accepts h w).mono fun _ _ ha hr => Or.inl (ha hr)

theorem setupBuildSystem_accepts (hr : (setupBuildSystem h w).result = .ok true) :
    SetupAccepted h w (setupBuildSystem h w).state.obj.buildSystem :=
  setupBuildSystem_accepts_wp h w true hr rfl

theorem setupBuildSystem_accepts_ninja :
    let h : Host := Host.ofTools .linux ["ninja"]
    let w : World BuildConfig := ⟨BuildConfig.init, [], ⟨[], by decide⟩, []⟩
    (setupBuildSystem h w).result = .ok true ∧
      SetupAccepted h w (setupBuildSystem h w).state.obj.buildSystem :=
  ⟨by decide, setupBuildSystem_accepts _ _ (by decide)⟩

theorem setupBuildSystem_keeps_unavailable :
    let xcode : World BuildConfig :=
      ⟨{ BuildConfig.init with buildSystem := some "Xcode", interactive := false }, [], ⟨[], by decide⟩, []⟩
    let menu : World BuildConfig := ⟨BuildConfig.init, [], ⟨[], by decide⟩, []⟩
    (setupBuildSystem (Host.ofTools .darwin []) xcode).result = .ok true ∧
      (setupBuildSystem (Host.ofTools .darwin []) xcode).state.obj.buildSystem = some "Xcode" ∧
      ¬ GeneratorAvailable (Host.ofTools .darwin []) xcode (some "Xcode") ∧
    (setupBuildSystem (Host.ofTools .linux ["make"]) menu).result = .ok true ∧
      (setupBuildSystem (Host.ofTools .linux ["make"]) menu).state.obj.buildSystem = some "Make" ∧
      ¬ GeneratorAvailable (Host.ofTools .linux ["make"]) menu (some "Make") := by
  decide

end Accepts

end Configure
end HeliosBuild
