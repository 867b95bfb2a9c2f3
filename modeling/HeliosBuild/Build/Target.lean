import HeliosBuild.Build.Main

/-!
# Which workspace `build.py` builds

`beforeBuild` ends with the workspace and build type `main` passes to
`build_project`.  The workspace is always configured, and the build type is
the one `--type` or the menu set, or else the one read back from the
workspace's name.  After a successful `run_configure` the workspace is the
most recently configured one.

The workspace is not always the one for the build type: a workspace found
on disk is built as found, with the build type read from its name, and with
`--skip-configure` the most recently configured workspace is built whatever
`--type` says.

Each step of `main` gets a specification in `Py.wp`, and the one for
`beforeBuild` is assembled from them.
-/

namespace HeliosBuild
namespace Build

open Py

section Specs

variable (h : Host)

@[simp] theorem Args.exists_type_eq (a : Args) : ∃ ty, a = { a with type := ty } := ⟨_, rfl⟩

theorem selectBuildDirInteractive_wp (w : World Args) :
    wp selectBuildDirInteractive (fun r w' => w'.tree = w.tree ∧ w'.obj = w.obj ∧
      ∀ s, r = some s → s = (none, true, none) ∨ ∃ d, isConfigured w.tree d = true ∧
        ∃ needs, s = (some d, needs, some (detectBuildTypeFromDir d))) w := by
  intro r hr
  rcases hdirs : findAllConfiguredBuildDirs w.tree with _ | ⟨d₀, ds⟩
  · simp only [selectBuildDirInteractive, hdirs] at hr ⊢
    cases hr; simp
  · simp only [selectBuildDirInteractive, hdirs] at hr ⊢
    refine ⟨trivial, trivial, fun s hs => ?_⟩
    subst hs
    rcases selectLoop_selection _ _ _ hr with hs | ⟨d, hd, needs, rfl⟩
    · exact .inl hs
    · exact .inr ⟨d, isConfigured_of_mem_findAllConfiguredBuildDirs (hdirs ▸ hd), needs, rfl⟩

/-- What `main` has decided before the configure step: a build type that is `args.type` when that is set, and a workspace, when one is named, that is configured. -/
def PlanOk (w : World Args) (p : Plan) : Prop :=
  (Configure.truthy w.obj.type = true → p.2.2 = w.obj.type.getD "") ∧
    ∀ d, p.1 = some d → isConfigured w.tree d = true

theorem choosePlan_wp (w : World Args) :
    wp (choosePlan h) (fun r w' => w'.tree = w.tree ∧
      (∃ ty, w'.obj = { w.obj with type := ty }) ∧
      (Configure.truthy w.obj.type = true → w'.obj.type = w.obj.type) ∧
      ∀ p, r = some p → PlanOk w' p) w := by
  simp only [choosePlan, wp_bind, wp_obj, wp_ite]
  constructor
  · intro hc
    have hty : Configure.truthy w.obj.type = false := by
      simp only [hasConfigArgs, Bool.and_eq_true, Bool.not_eq_true'] at hc
      simp_all [List.any_cons]
    refine (selectBuildDirInteractive_wp w).mono fun r w₁ ⟨ht, ho, hs⟩ => ?_
    rcases r with _ | ⟨d, needs, sel⟩
    · simp [ht, ho]
    · have hd : ∀ d', d = some d' → isConfigured w.tree d' = true := by
        rintro d' rfl
        rcases hs _ rfl with hs | ⟨d'', hd'', _, hs⟩ <;> simp_all
      simp only [wp_ite, wp_bind, wp_modifyObj, wp_pure]
      refine ⟨fun _ => ⟨ht, by simp [ho], by simp [hty], ?_⟩,
        fun _ => ⟨ht, by simp [ho], by simp [hty], ?_⟩⟩
      · rintro _ ⟨⟩
        exact ⟨fun _ => rfl, by simpa [ht] using hd⟩
      · rintro _ ⟨⟩
        exact ⟨by simp [ho, hty], by simpa [ht, ho] using hd⟩
  · intro _
    simp only [wp_bind, wp_world, wp_pure]
    refine ⟨by simp, by simp, by simp, ?_⟩
    rintro _ ⟨⟩
    exact ⟨fun ht => by simp [ht], fun d hd =>
      isConfigured_of_findConfiguredBuildDir (Option.ite_none_left_eq_some.1 hd).2⟩

theorem runConfigure_wp (existing : Option WsKey) (w : World Args) :
    wp (runConfigure h existing) (fun r w' => w'.obj = w.obj ∧
      ∀ found, r = (true, found) → found = findConfiguredBuildDir w'.tree) w := by
  simp only [runConfigure]
  simp

theorem configureAndFind_wp (existing : Option WsKey) (w : World Args) :
    wp (configureAndFind h existing) (fun r w' => w'.obj = w.obj ∧
      ∀ d, r = .ok d → findConfiguredBuildDir w'.tree = some d) w := by
  simp only [configureAndFind, wp_bind]
  refine (runConfigure_wp h existing w).mono fun ⟨success, found⟩ w₁ ⟨ho, hf⟩ => ?_
  cases success
  · simp [ho]
  · rcases found with _ | d
    · cases hfc : findConfiguredBuildDir w₁.tree <;> simp [ho, hfc]
    · simp [ho, (hf _ rfl).symm]

theorem resolveBuildDir_wp (p : Plan) (w : World Args)
    (hp : ∀ d, p.1 = some d → isConfigured w.tree d = true) :
    wp (resolveBuildDir h p) (fun r w' => w'.obj = w.obj ∧ ∀ d, r = .ok d →
      isConfigured w'.tree d = true ∧
        (findConfiguredBuildDir w'.tree = some d ∨ w'.tree = w.tree)) w := by
  have hfound : ∀ e, wp (configureAndFind h e) (fun r w' => w'.obj = w.obj ∧ ∀ d, r = .ok d →
      isConfigured w'.tree d = true ∧
        (findConfiguredBuildDir w'.tree = some d ∨ w'.tree = w.tree)) w := fun e =>
    (configureAndFind_wp h e w).mono fun _ _ ⟨ho, hd⟩ =>
      ⟨ho, fun d hr => ⟨isConfigured_of_findConfiguredBuildDir (hd d hr), .inl (hd d hr)⟩⟩
  simp only [resolveBuildDir, wp_bind, wp_obj, wp_ite]
  refine ⟨fun _ => hfound p.1, fun _ => ?_⟩
  rcases hd : p.1 with _ | d
  · simp only [wp_bind, wp_world, wp_ite, wp_pure]
    exact ⟨fun hc => ⟨by simp, by simp [hc]⟩, fun _ => ⟨by simp, fun _ => hfound none⟩⟩
  · simp [hp d hd]

theorem beforeBuild_wp (w : World Args) :
    wp (beforeBuild h) (fun r w' => ∀ d bt, r = .ok (d, bt) →
      isConfigured w'.tree d = true ∧
      bt = (if Configure.truthy w'.obj.type then w'.obj.type.getD ""
            else detectBuildTypeFromDir d) ∧
      (Configure.truthy w.obj.type = true → w'.obj.type = w.obj.type) ∧
      (findConfiguredBuildDir w'.tree = some d ∨ w'.tree = w.tree)) w := by
  simp only [beforeBuild, wp_bind]
  refine (choosePlan_wp h w).mono fun r w₁ ⟨ht, _, hty, hp⟩ => ?_
  rcases r with _ | p
  · simp
  · simp only [wp_bind]
    refine (resolveBuildDir_wp h p w₁ (hp p rfl).2).mono fun r w₂ ⟨ho, hd⟩ => ?_
    rcases r with code | d
    · simp
    · simp only [wp_bind, wp_obj, wp_pure]
      intro _ _ hr
      obtain ⟨rfl, rfl⟩ := Prod.mk.inj (Except.ok.inj hr)
      obtain ⟨hc, hnew⟩ := hd d rfl
      refine ⟨hc, ?_, by rw [ho]; exact hty, by rwa [ht] at hnew⟩
      split <;> simp_all [(hp p rfl).1]

end Specs

/-!
# The workspace `main` builds
-/

theorem beforeBuild_builds_configured (h : Host) (w : World Args) (d : WsKey) (bt : String)
    (hr : (beforeBuild h w).result = .ok (.ok (d, bt))) :
    isConfigured (beforeBuild h w).state.tree d = true ∧
    bt = (if Configure.truthy (beforeBuild h w).state.obj.type
          then (beforeBuild h w).state.obj.type.getD "" else detectBuildTypeFromDir d) ∧
    (Configure.truthy w.obj.type = true → (beforeBuild h w).state.obj.type = w.obj.type) ∧
    (findConfiguredBuildDir (beforeBuild h w).state.tree = some d ∨
      (beforeBuild h w).state.tree = w.tree) :=
  beforeBuild_wp h w _ hr d bt rfl

theorem beforeBuild_builds_configured_menu :
    let h : Host := Host.ofTools .linux ["cmake"]
    let w : World Args := ⟨Args.ofNamespace (parser 4).defaults, [],
      Tree.single ⟨"debug", "linux"⟩ { Workspace.empty with cache := some [] }, [.line "1"]⟩
    (beforeBuild h w).result = .ok (.ok (⟨"debug", "linux"⟩, "Debug")) ∧
    isConfigured (beforeBuild h w).state.tree ⟨"debug", "linux"⟩ = true ∧
    "Debug" = (if Configure.truthy (beforeBuild h w).state.obj.type
          then (beforeBuild h w).state.obj.type.getD ""
          else detectBuildTypeFromDir ⟨"debug", "linux"⟩) ∧
    (Configure.truthy w.obj.type = true → (beforeBuild h w).state.obj.type = w.obj.type) ∧
    (findConfiguredBuildDir (beforeBuild h w).state.tree = some ⟨"debug", "linux"⟩ ∨
      (beforeBuild h w).state.tree = w.tree) :=
  ⟨by decide, beforeBuild_builds_configured _ _ _ _ (by decide)⟩

theorem main_builds_other_than_build_dir_of_type :
    let h : Host := Host.ofTools .linux ["cmake"]
    let found : World Args := ⟨Args.ofNamespace (parser 4).defaults, [],
      Tree.single ⟨"custom", "linux"⟩ { Workspace.empty with cache := some [] }, []⟩
    let release : World Args := ⟨Args.ofNamespace (parser 4).defaults, [],
      Tree.single ⟨"release", "linux"⟩ { Workspace.empty with cache := some [] }, []⟩
    (main h ["--no-interactive"] found).effects =
      [.run ["cmake", "--build", "/src/helios/build/custom/linux", "--parallel", "4",
        "--config", "Release"]] ∧
    (main h ["--no-interactive"] found).result = .ok 0 ∧
    getBuildDir h.system "Release" ≠ ⟨"custom", "linux"⟩ ∧
    (main h ["--type", "Debug", "--skip-configure"] release).effects =
      [.run ["cmake", "--build", "/src/helios/build/release/linux", "--parallel", "4",
        "--config", "Debug"]] ∧
    (main h ["--type", "Debug", "--skip-configure"] release).result = .ok 0 ∧
    getBuildDir h.system "Debug" ≠ ⟨"release", "linux"⟩ := by decide

end Build
end HeliosBuild
