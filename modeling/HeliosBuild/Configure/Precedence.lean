import HeliosBuild.Configure.Main

/-!
# Explicit input in `configure.py`

`main` applies the command line to a fresh `BuildConfig` and then resolves
the fields left open.  `Resolving` is what every resolution step keeps of the
configuration it starts from: a field that was given is not replaced, except
that the compiler step and the build-system step rename a named compiler or
build system to one of its outcomes.  After the Conan step, `use_conan` is on
exactly when a Conan toolchain is in use, whatever the command line said.
-/

namespace HeliosBuild
namespace Configure

open Py CompilerDetector BuildSystemSelector CMakeBuilder ConanManager

/-- What resolving keeps of the configuration `c₀` it starts from: a build type, module flag or Conan setting that was given stays, and a named compiler or build system stays as named until its step (`compilerDone`, `buildSystemDone`) and is one of its outcomes after it. -/
structure Resolving (h : Host) (c₀ : BuildConfig) (compilerDone buildSystemDone : Bool)
    (c : BuildConfig) : Prop where
  buildType : truthy c₀.buildType = true → c.buildType = c₀.buildType
  coreOnly : ∀ b, c₀.coreOnly = some b → c.coreOnly = some b
  buildTests : ∀ b, c₀.buildTests = some b → c.buildTests = some b
  buildExamples : ∀ b, c₀.buildExamples = some b → c.buildExamples = some b
  useConan : c.useConan = c₀.useConan
  conanToolchain : c.conanToolchain = c₀.conanToolchain
  interactive : c.interactive = c₀.interactive
  compiler : truthy c₀.compiler = true →
    if compilerDone then ∃ x ∈ compilerOutcomes h.isWindows (c₀.compiler.getD ""), c.compiler = some x
    else c.compiler = c₀.compiler
  buildSystem : truthy c₀.buildSystem = true →
    if buildSystemDone then BuildSystemOutcome (c₀.buildSystem.getD "") c.buildSystem
    else c.buildSystem = c₀.buildSystem

namespace Resolving

variable {h : Host} {c₀ c : BuildConfig} {cd bd : Bool}

/-!
## One lemma per update of the configuration
-/

theorem start (c₀ : BuildConfig) : Resolving h c₀ false false c₀ :=
  ⟨fun _ => rfl, fun _ => id, fun _ => id, fun _ => id, rfl, rfl, rfl, fun _ => by simp, fun _ => by simp⟩

theorem withCoreOnly (hw : Resolving h c₀ cd bd c) (hco : c.coreOnly = none) (b : Bool) :
    Resolving h c₀ cd bd { c with coreOnly := some b } :=
  { hw with coreOnly := fun b' hb' => Option.noConfusion (hco.symm.trans (hw.coreOnly b' hb')) }

theorem withTestsExamples (hw : Resolving h c₀ cd bd c) (t e : Bool) :
    Resolving h c₀ cd bd
      { c with buildTests := c.buildTests.or (some t), buildExamples := c.buildExamples.or (some e) } :=
  { hw with
    buildTests := fun b hb => congrArg (Option.or · (some t)) (hw.buildTests b hb)
    buildExamples := fun b hb => congrArg (Option.or · (some e)) (hw.buildExamples b hb) }

theorem withBuildType (hw : Resolving h c₀ cd bd c) (hbt : truthy c.buildType = false) (bt : Option String) :
    Resolving h c₀ cd bd { c with buildType := bt } :=
  { hw with buildType := fun ht => absurd (hw.buildType ht ▸ ht) (by simp [hbt]) }

theorem withCompiler (hw : Resolving h c₀ false bd c) (hc : truthy c.compiler = false) (comp cxx vs : Option String) :
    Resolving h c₀ false bd { c with compiler := comp, cxxCompiler := cxx, vsVersion := vs } :=
  { hw with compiler := fun ht => absurd ((hw.compiler ht : c.compiler = _) ▸ ht) (by simp [hc]) }

theorem withBuildSystem (hw : Resolving h c₀ cd false c) (hb : truthy c.buildSystem = false)
    (g : Option String) : Resolving h c₀ cd false { c with buildSystem := g } :=
  { hw with buildSystem := fun ht => absurd ((hw.buildSystem ht : c.buildSystem = _) ▸ ht) (by simp [hb]) }

theorem nonInteractive (hw : Resolving h c₀ false false c) :
    Resolving h c₀ false false (nonInteractiveDefaults c) :=
  { hw with
    buildType := fun ht => by simp [nonInteractiveDefaults, hw.buildType ht, ht]
    coreOnly := fun b hb => by simp [nonInteractiveDefaults, hw.coreOnly b hb]
    buildTests := fun b hb => by simp [nonInteractiveDefaults, hw.buildTests b hb]
    buildExamples := fun b hb => by simp [nonInteractiveDefaults, hw.buildExamples b hb] }

theorem compilerDone (hw : Resolving h c₀ false bd c) {comp cxx vs : Option String}
    (hc : truthy c.compiler = true →
      ∃ x ∈ compilerOutcomes h.isWindows (c.compiler.getD ""), comp = some x) :
    Resolving h c₀ true bd { c with compiler := comp, cxxCompiler := cxx, vsVersion := vs } :=
  { hw with
    compiler := fun ht => by
      have he : c.compiler = c₀.compiler := hw.compiler ht
      exact he ▸ hc (he ▸ ht) }

theorem buildSystemDone (hw : Resolving h c₀ cd false c) {g : Option String}
    (hg : ∀ requested, c.buildSystem = some requested → requested ≠ "" →
      BuildSystemOutcome requested g) :
    Resolving h c₀ cd true { c with buildSystem := g } :=
  { hw with
    buildSystem := fun ht => by
      have he : c.buildSystem = c₀.buildSystem := hw.buildSystem ht
      cases hb : c₀.buildSystem with
      | none => simp [hb, truthy] at ht
      | some b => exact hg b (he.trans hb) (by simpa [hb, truthy] using ht) }

end Resolving

/-!
# The resolution steps
-/

theorem msvcStep_wp (h : Host) (w : World BuildConfig) :
    wp (msvcStep h) (fun _ w' => ∃ env, w' = { w with env := env }) w := by
  simp only [msvcStep, wp_bind, wp_ite, wp_pure, wp_config]
  refine (setupMsvcEnvironment_wp h w).mono ?_
  rintro _ _ ⟨env, rfl⟩
  simp

section Steps

variable (h : Host) (w : World BuildConfig) {c₀ : BuildConfig} {cd bd : Bool}

theorem resolveInteractive_wp (hw : Resolving h c₀ false false w.obj) :
    wp (resolveInteractive h) (fun r w' => r = true → Resolving h c₀ true true w'.obj) w := by
  unfold resolveInteractive
  simp only [wp_bind, wp_config]
  refine wp_join (fun _ w' => Resolving h c₀ false false w'.obj)
    (fun hco => (selectModulesInteractive_wp w).mono fun _ _ ⟨_, _, b, hb⟩ => hb ▸ hw.withCoreOnly hco b)
    (fun _ => by simpa using hw) fun _ w₁ hw₁ => ?_
  refine wp_seq (fun _ w' => Resolving h c₀ false false w'.obj)
    ((selectTestsAndExamplesInteractive_wp w₁).mono fun _ _ ⟨_, _, t, e, he⟩ => he ▸ hw₁.withTestsExamples t e) fun _ w₂ hw₂ => ?_
  simp only [wp_bind, wp_config]
  refine wp_join (fun _ w' => Resolving h c₀ false false w'.obj)
    (fun hbt => (selectBuildTypeInteractive_wp w₂).mono fun _ _ ⟨_, _, bt, hb⟩ => hb ▸ hw₂.withBuildType (by simpa using hbt) _)
    (fun _ => by simpa using hw₂) fun _ w₃ hw₃ => ?_
  simp only [wp_bind, wp_config]
  refine wp_join (fun _ w' => Resolving h c₀ false false w'.obj)
    (fun hc => (wp_discard _ _).2 ((selectCompilerInteractive_wp h w₃).mono
      fun _ _ ⟨⟨_, comp, cxx, vs, hcv⟩, _⟩ => hcv ▸ hw₃.withCompiler (by simpa using hc) comp cxx vs))
    (fun _ => by simpa using hw₃) fun _ w₄ hw₄ => ?_
  simp only [wp_bind, wp_pure]
  refine (setupCompiler_wp h w₄).mono fun r w₅ ⟨⟨_, comp, cxx, vs, hcv⟩, hr⟩ => ?_
  simp only [wp_ite, wp_pure]
  refine ⟨fun _ _ => by simp_all, fun hr' => ?_⟩
  obtain rfl : r = true := by simpa using hr'
  have hw₅ : Resolving h c₀ true false w₅.obj := hcv ▸ hw₄.compilerDone fun ht => by simpa [hcv] using ((hr rfl).1 ht).2
  simp only [wp_bind, wp_pure, wp_config]
  refine wp_join (fun _ w' => Resolving h c₀ true false w'.obj)
    (fun hb => (wp_discard _ _).2 ((selectBuildSystemInteractive_wp h w₅).mono
      fun _ _ ⟨_, _, g, hg⟩ => hg ▸ hw₅.withBuildSystem (by simpa using hb) g))
    (fun _ => by simpa using hw₅) fun _ w₆ hw₆ => ?_
  simp only [wp_bind, wp_pure]
  refine (setupBuildSystem_wp h w₆).mono fun r w₇ ⟨⟨_, _, g, hg⟩, hr⟩ => ?_
  simp only [wp_ite, wp_pure]
  refine ⟨fun _ _ => by simp_all, fun hr' => ?_⟩
  obtain rfl : r = true := by simpa using hr'
  have hw₇ : Resolving h c₀ true true w₇.obj := hg ▸ hw₆.buildSystemDone (by simpa [hg] using hr rfl)
  simp only [wp_bind, wp_pure]
  exact (msvcStep_wp h w₇).mono fun _ _ ⟨env, he⟩ _ => he ▸ hw₇

theorem resolveNonInteractive_wp (hw : Resolving h c₀ false false w.obj) :
    wp (resolveNonInteractive h) (fun r w' => r = true → Resolving h c₀ true true w'.obj) w := by
  simp only [resolveNonInteractive, wp_bind, wp_setConfig]
  have hw₁ := hw.nonInteractive
  refine (setupCompiler_wp h _).mono fun r w₂ ⟨⟨_, comp, cxx, vs, hcv⟩, hr⟩ => ?_
  simp only [wp_ite, wp_pure]
  refine ⟨fun _ _ => by simp_all, fun hr' => ?_⟩
  obtain rfl : r = true := by simpa using hr'
  have hw₂ : Resolving h c₀ true false w₂.obj :=
    hcv ▸ hw₁.compilerDone fun ht => by simpa [hcv] using ((hr rfl).1 ht).2
  simp only [wp_bind, wp_pure]
  refine (setupBuildSystem_wp h w₂).mono fun r w₃ ⟨⟨_, _, g, hg⟩, hr⟩ => ?_
  simp only [wp_ite, wp_pure]
  refine ⟨fun _ _ => by simp_all, fun hr' => ?_⟩
  obtain rfl : r = true := by simpa using hr'
  have hw₃ : Resolving h c₀ true true w₃.obj := hg ▸ hw₂.buildSystemDone (by simpa [hg] using hr rfl)
  simp only [wp_bind, wp_pure]
  exact (msvcStep_wp h w₃).mono fun _ _ ⟨env, he⟩ _ => he ▸ hw₃

end Steps

/-!
# What `main` keeps of the command line
-/

/-- The precedence of explicit input as `configure.py` keeps it: every value given on the command line is in the configuration `configure` receives, up to the renamings of the compiler and build-system steps, except `--use-conan`: Conan is on exactly when a toolchain is in use. -/
def KeepsExplicit (h : Host) (a : Args) (c : BuildConfig) : Prop :=
  (∀ t, a.type = some t → t ≠ "" → c.buildType = some t) ∧
  (∀ comp, a.compiler = some comp → comp ≠ "" →
    ∃ x ∈ compilerOutcomes h.isWindows comp, c.compiler = some x) ∧
  (∀ bs, a.buildSystem = some bs → bs ≠ "" → BuildSystemOutcome bs c.buildSystem) ∧
  (a.coreOnly = true → c.coreOnly = some true) ∧
  (∀ b, a.buildTests = some b → c.buildTests = some b) ∧
  (∀ b, a.buildExamples = some b → c.buildExamples = some b) ∧
  (a.useConan = false → a.noConan = true → c.useConan = some false) ∧
  (c.useConan = some true ↔ c.conanToolchain.isSome)

theorem keepsExplicit_of_resolved {h : Host} {a : Args} {c₁ : BuildConfig} {u : Option Bool}
    {tc : Option String} (hr : Resolving h (applyArgs a) true true c₁)
    (hs : (u = some true ∧ tc.isSome) ∨ (u = some false ∧ tc = c₁.conanToolchain))
    (hno : c₁.useConan = some false → u = some false) :
    KeepsExplicit h a { c₁ with useConan := u, conanToolchain := tc } := by
  obtain ⟨hbt, hco, hte, hex, hu, htc, -, hcomp, hbs⟩ := hr
  refine ⟨fun t ht hne => ?_, fun comp hc hne => ?_, fun bs hb hne => ?_, fun hc => ?_, fun b hb => ?_,
    fun b hb => ?_, fun hu' hno' => ?_, ?_⟩
  · simpa [applyArgs, truthy, ht, hne] using hbt
  · simpa [applyArgs, truthy, hc, hne] using hcomp
  · simpa [applyArgs, truthy, hb, hne] using hbs
  · simpa [applyArgs, hc] using hco true
  · simpa [applyArgs, hb] using hte b
  · simpa [applyArgs, hb] using hex b
  · exact hno (by simpa [applyArgs, hu', hno'] using hu)
  · rcases hs with ⟨rfl, hsome⟩ | ⟨rfl, rfl⟩
    · simpa using hsome
    · simp [htc, applyArgs, BuildConfig.init]

theorem reachConfigure_wp (h : Host) (argv : List String) (a : Args)
    (hp : parseArguments argv = .ok a) (w : World BuildConfig) :
    wp (reachConfigure h argv) (fun r w' => r = true → KeepsExplicit h a w'.obj) w := by
  simp only [reachConfigure, hp, wp_bind, wp_setConfig, wp_checkCommand, wp_ite, wp_pure, wp_config]
  refine ⟨fun _ _ => by simp_all, fun _ => ?_⟩
  have hw : Resolving h (applyArgs a) false false (applyArgs a) := Resolving.start _
  have hconan : ∀ w₁ : World BuildConfig, Resolving h (applyArgs a) true true w₁.obj →
      wp (setupConan h) (fun r w' => r = true → KeepsExplicit h a w'.obj) w₁ := fun w₁ hw₁ =>
    (setupConan_wp h w₁).mono fun r w₂ ⟨⟨_, u, tc, hobj⟩, hs, hno⟩ hr =>
      hobj ▸ keepsExplicit_of_resolved hw₁ (by simpa [ConanSettled, hobj] using hs hr)
        (by simpa [hobj] using hno)
  refine ⟨fun _ => (resolveInteractive_wp h _ hw).mono ?_, fun _ => (resolveNonInteractive_wp h _ hw).mono ?_⟩ <;>
  · intro r w₁ hw₁
    refine ⟨fun _ _ => by simp_all, fun hr => hconan w₁ (hw₁ (by simpa using hr))⟩

theorem reachConfigure_keeps_explicit (h : Host) (argv : List String) (w : World BuildConfig)
    (a : Args) (hp : parseArguments argv = .ok a)
    (hr : (reachConfigure h argv w).result = .ok true) :
    KeepsExplicit h a (reachConfigure h argv w).state.obj :=
  reachConfigure_wp h argv a hp w true hr rfl

theorem reachConfigure_keeps_explicit_debug_gcc :
    let h : Host := Host.ofTools .linux ["cmake", "gcc", "g++", "ninja"]
    let w : World BuildConfig := ⟨BuildConfig.init, [], ⟨[], by decide⟩, []⟩
    let argv := ["--no-interactive", "--type", "Debug", "--compiler", "gcc", "-b", "ninja", "--tests"]
    let a : Args :=
      { type := some "Debug", compiler := some "gcc", buildSystem := some "ninja",
        coreOnly := false, buildTests := some true, buildExamples := none, clean := false,
        noInteractive := true, useConan := false, noConan := false, cmakeArgs := "" }
    parseArguments argv = .ok a ∧ (reachConfigure h argv w).result = .ok true ∧
      KeepsExplicit h a (reachConfigure h argv w).state.obj :=
  ⟨by decide, by decide, reachConfigure_keeps_explicit _ _ _ _ (by decide) (by decide)⟩

theorem reachConfigure_drops_use_conan :
    let h : Host := Host.ofTools .linux ["cmake", "gcc", "g++", "ninja"]
    let w : World BuildConfig := ⟨BuildConfig.init, [], ⟨[], by decide⟩, []⟩
    (reachConfigure h ["--no-interactive", "--use-conan"] w).result = .ok true ∧
    (reachConfigure h ["--no-interactive", "--use-conan"] w).state.obj.useConan = some false := by
  decide

end Configure
end HeliosBuild
