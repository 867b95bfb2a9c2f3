import HeliosBuild.InstallDeps.Steps

/-!
# Whole runs of the installer

`DependencyInstaller.run` checks the prerequisites, settles whether Conan is
used, installs with Conan and, without Conan, with the system packages.
`run_wpE` says once, from the step lemmas of `Steps.lean`, every way a run can
end (`RunCase`).  The results below read their facts off it: which
`conan install` a run may start, what its exit code says, and what a run
without questions does when Conan cannot be had.
-/

namespace HeliosBuild
namespace InstallDeps

open Configure Py DependencyInstaller

variable (h : Host)

/-- The exit code `run` returns after its Conan installation. -/
def conanExit (r : Except PyExc Bool) : Except PyExc Int := r.map fun ok => if ok then 0 else 1

/-- The ways a run of `DependencyInstaller.run` started in `w` can end, with its exit code, the world it leaves and the commands it starts. -/
inductive RunCase (v : PyVersion) (w : World DependencyInstaller) :
    Except PyExc Int → World DependencyInstaller → List Effect → Prop where
  | checksFail {e : List Effect} (hp : Prerequisites h v w.env = false) (he : ConanFree e) :
      RunCase v w (.ok 1) w e
  | compilerUnread {e : List Effect} (hp : PrerequisitesRaise h v w.env = true) (he : ConanFree e) :
      RunCase v w (.error .indexError) w e
  | interrupted {ex : PyExc} {w' : World DependencyInstaller} {e : List Effect}
      (hp : Prerequisites h v w.env = true) (he : ConanFree e) (ht : w'.tree = w.tree)
      (hx : ex.interrupts = true) (hi : w.obj.interactive = true) : RunCase v w (.error ex) w' e
  | conan {r : Except PyExc Bool} {w' : World DependencyInstaller} {e₀ e₁ : List Effect}
      (hp : Prerequisites h v w.env = true) (hc : w.obj.args.useConan = true)
      (hu : ConanUsable h w.env) (ha : w'.obj.args = w.obj.args) (he : ConanFree e₀)
      (hend : ConanEnd h w r w'.tree e₁) : RunCase v w (conanExit r) w' (e₀ ++ e₁)
  | system {w' : World DependencyInstaller} {e : List Effect}
      (hp : Prerequisites h v w.env = true) (he : ConanFree e) (ht : w'.tree = w.tree)
      (hc : w'.obj.args.useConan = false)
      (ha : w'.obj.args = w.obj.args ∨
        w'.obj.args = { w.obj.args with useConan := false, useSystem := true })
      (hs : w.obj.interactive = false → w'.obj.args.useSystem = true →
        ∀ pm, w.obj.packageManager = some pm → systemPackages pm ≠ [] →
          ∃ cmd e₀, installCommand pm (systemPackageList h w.env pm) = some cmd ∧
            e = e₀ ++ aptUpdate pm ++ [.run cmd]) :
      RunCase v w (.ok 0) w' e

variable {h}

theorem ConanEnd.treeFrame {w : World DependencyInstaller} {r : Except PyExc Bool} {t : Tree}
    {e : List Effect} (hend : ConanEnd h w r t e) :
    TreeFrame h (getConanDir h.system w.obj.args.buildType) w.tree t := by
  rcases hend with ⟨-, rfl, -⟩ | ⟨cmd, e₁, -, -, -, -, -, -, -, rfl⟩
  · exact TreeFrame.refl _ _
  · exact treeFrame_afterConan h _ _ _

variable (h)

theorem run_wpE (v : PyVersion) (w : World DependencyInstaller) :
    wpE (run h v) (fun r w' e => Frame h w w' ∧ RunCase h v w r w' e) w := by
  simp only [run]
  refine wpE_seq _ (checkPrerequisites_wpE h w v) ?_
  rintro r w₁ e ⟨rfl, hw₁, he⟩
  subst w₁
  by_cases hraise : PrerequisitesRaise h v w.env = true
  · simp only [hraise, if_true, reduceCtorEq, IsEmpty.forall_iff, implies_true, Except.error.injEq,
      forall_eq', true_and]
    exact ⟨Frame.refl w, .compilerUnread hraise (by simpa using he)⟩
  simp only [hraise, Bool.false_eq_true, if_false, Except.ok.injEq, forall_eq', reduceCtorEq,
    IsEmpty.forall_iff, implies_true, and_true, wpE_ite, wpE_pure, wpE_pure_bind]
  cases hp : Prerequisites h v w.env
  · exact ⟨fun _ => ⟨Frame.refl w, .checksFail hp (by simpa using he)⟩, fun h' => absurd rfl h'⟩
  refine ⟨fun h' => absurd h' (by decide), fun _ => ?_⟩
  refine wpE_seq _ (resolveConan_wpE h w) ?_
  rintro r w₂ e₂ ⟨he₂, hw₂, hobj, hni, hx⟩
  obtain ⟨ins, o, rfl⟩ : ∃ ins o, w₂ = { w with stdin := ins, obj := o } := ⟨_, _, hw₂⟩
  have hf₂ : Frame h w { w with stdin := ins, obj := o } :=
    ⟨by rcases hobj with ⟨rfl, -⟩ | rfl <;> rfl, by rcases hobj with ⟨rfl, -⟩ | rfl <;> rfl,
      fun _ _ => rfl, fun hi => (hni hi).1, TreeFrame.refl _ _⟩
  refine ⟨fun _ hr => ?_, fun ex hex => ⟨hf₂, .interrupted hp (by simpa using ⟨he, he₂⟩) rfl
    (hx ex hex).1 (hx ex hex).2⟩⟩
  subst hr
  simp only [wpE_obj_bind, wpE_ite, wpE_pure_bind]
  simp only at hobj hni hf₂
  by_cases hc : o.args.useConan = true
  · obtain ⟨rfl, hu⟩ : o = w.obj ∧ ConanUsable h w.env := by
      rcases hobj with ⟨rfl, hu⟩ | rfl
      · exact ⟨rfl, hu hc trivial⟩
      · cases hc
    refine ⟨fun _ => ?_, fun h' => absurd hc h'⟩
    refine wpE_seq _ (installWithConan_wpE h _) ?_
    rintro r w₃ e₃ ⟨⟨c, v', sp, p, m, hobj₃⟩, henv₃, hstdin₃, hend⟩
    have hf₃ : Frame h w w₃ :=
      hf₂.trans ⟨by rw [hobj₃], by rw [hobj₃], henv₃, hstdin₃, hend.treeFrame⟩
    have ha : w₃.obj.args = w.obj.args := by rw [hobj₃]
    have hcase : RunCase h v w (conanExit r) w₃ (e ++ (e₂ ++ e₃)) := by
      rw [← List.append_assoc]
      exact .conan hp hc hu ha (by simpa using ⟨he, he₂⟩) hend
    refine ⟨fun b hb => ?_, fun ex hex => ⟨hf₃, by subst hex; exact hcase⟩⟩
    subst hb
    cases b
    · simp only [wpE_ite, wpE_pure, Bool.not_false, if_true, List.append_nil]
      exact ⟨hf₃, hcase⟩
    · simp only [wpE_ite, wpE_pure, wpE_pure_bind, Bool.not_true, Bool.false_eq_true, if_false]
      rw [wpE_bind, installSystem_of_useConan h _ (ha ▸ hc)]
      simp only [wpE_pure, List.append_nil, Except.ok.injEq, forall_eq', reduceCtorEq, IsEmpty.forall_iff,
        implies_true, and_true]
      exact fun _ _ => ⟨hf₃, hcase⟩
  · refine ⟨fun h' => absurd h' hc, fun _ => ?_⟩
    refine wpE_seq _ (installSystem_wpE h _) ?_
    rintro r w₃ e₃ ⟨hw₃, he₃, hx₃, hni₃⟩
    obtain ⟨ins', rfl⟩ : ∃ ins', w₃ = { w with stdin := ins', obj := o } := ⟨_, hw₃⟩
    have hf₃ : Frame h w { w with stdin := ins', obj := o } :=
      hf₂.trans ⟨rfl, rfl, fun _ _ => rfl, fun hi => by simpa using (hni₃ hi).1, TreeFrame.refl _ _⟩
    refine ⟨fun _ _ => ?_, fun ex hex => ⟨hf₃, .interrupted hp (by simpa using ⟨he, he₂, he₃⟩) rfl
      (hx₃ ex hex).1 (hf₂.interactive ▸ (hx₃ ex hex).2)⟩⟩
    simp only [wpE_pure, List.append_nil]
    have hpm : o.packageManager = w.obj.packageManager := by rcases hobj with ⟨rfl, -⟩ | rfl <;> rfl
    refine ⟨hf₃, .system hp (by simpa using ⟨he, he₂, he₃⟩) rfl (by simpa using hc) ?_ ?_⟩
    · rcases hobj with ⟨rfl, -⟩ | rfl
      exacts [.inl rfl, .inr rfl]
    · intro hi hsys pm hpm' hsp
      obtain ⟨cmd, hcmd, rfl⟩ :=
        (hni₃ (hf₂.interactive.trans hi)).2.2 hsys (by simpa using hc) pm (hpm.trans hpm') hsp
      exact ⟨cmd, e ++ e₂, hcmd, by simp⟩

/-!
## What a run's `conan install` and exit code say
-/

@[simp] theorem conanExit_ok (b : Bool) : conanExit (.ok b) = .ok (if b then 0 else 1) := rfl

@[simp] theorem conanExit_error (ex : PyExc) : conanExit (.error ex) = .error ex := rfl

variable {h}

theorem ConanCommandFor.isConanInstall {a : Args} {cmd : List String} (hc : ConanCommandFor h a cmd) :
    IsConanInstall cmd := by
  obtain ⟨g, p, c, -, -, -, rfl⟩ := hc
  simp [IsConanInstall, conanInstallCmd]

theorem ConanCommandFor.userProfile {a : Args} {cmd : List String} (hc : ConanCommandFor h a cmd)
    (hn : a.profile ≠ "") (hd : a.profile ≠ "default") (hf : h.fileExists (profilePath h a.profile) = true) :
    ∃ g c, cmd = conanInstallCmd h a.buildType g ["-pr", profilePath h a.profile] c := by
  obtain ⟨g, p, c, -, -, hpu, rfl⟩ := hc
  rw [hpu ⟨hn, hd, hf⟩]
  exact ⟨g, c, by simp [profileArgs, profilePath_ne_default]⟩

theorem eq_of_mem_runsOf {e₁ : List Effect} {c cmd : List String} (he : ConanFree e₁)
    (hm : cmd ∈ runsOf (e₁ ++ [.run c])) (hi : IsConanInstall cmd) : cmd = c := by
  simp only [runsOf_append, List.mem_append, runsOf_cons, runsOf_nil, List.append_nil,
    List.mem_singleton] at hm
  exact hm.resolve_left fun hm => he cmd hm hi

theorem RunCase.conanInstall {v : PyVersion} {w w' : World DependencyInstaller} {r : Except PyExc Int}
    {e : List Effect} (hcase : RunCase h v w r w' e) {cmd : List String} (hm : cmd ∈ runsOf e)
    (hi : IsConanInstall cmd) :
    Prerequisites h v w.env = true ∧ w.obj.args.useConan = true ∧ ConanUsable h w.env ∧
      h.rc profileDetect = 0 ∧ h.fileExists (conanfilePath h) = true ∧ ConanCommandFor h w.obj.args cmd ∧
      ∃ e₁, e = e₁ ++ [.run cmd] ∧ .run profileDetect ∈ e₁ ∧ ConanFree e₁ := by
  cases hcase with
  | checksFail _ he | compilerUnread _ he | interrupted _ he | system _ he => exact absurd hi (he cmd hm)
  | conan hp hc hu _ he₀ hend =>
    rcases hend with ⟨he₁, -⟩ | ⟨c, e₁, hcf, hrc, hf, hpd, he₁, rfl, -, -⟩
    · exact absurd hi (conanFree_append.2 ⟨he₀, he₁⟩ cmd hm)
    · rw [← List.append_assoc] at hm ⊢
      obtain rfl := eq_of_mem_runsOf (conanFree_append.2 ⟨he₀, he₁⟩) hm hi
      exact ⟨hp, hc, hu, hrc, hf, hcf, _, rfl, List.mem_append_right _ hpd, conanFree_append.2 ⟨he₀, he₁⟩⟩

theorem RunCase.outcome {v : PyVersion} {w w' : World DependencyInstaller} {r : Except PyExc Int}
    {e : List Effect} (hcase : RunCase h v w r w' e) :
    r = .ok 0 ∨ r = .ok 1 ∨ ∃ ex, r = .error ex ∧
      (ex.interrupts = true ∧ w.obj.interactive = true ∨ ex = .keyError "PATH" ∧ h.isWindows = true ∨
        ex = .indexError ∧ compilerParseFails h w.env = true) := by
  cases hcase with
  | checksFail => exact .inr (.inl rfl)
  | compilerUnread hp =>
    refine .inr (.inr ⟨_, rfl, .inr (.inr ⟨rfl, ?_⟩)⟩)
    simp only [PrerequisitesRaise, Bool.and_eq_true] at hp
    exact hp.2
  | interrupted _ _ _ hx hi => exact .inr (.inr ⟨_, rfl, .inl ⟨hx, hi⟩⟩)
  | system => exact .inl rfl
  | conan _ _ _ _ _ hend =>
    rcases hend with ⟨-, -, ⟨rfl, -⟩ | ⟨ex, rfl, hex⟩⟩ | ⟨c, e₁, -, -, -, -, -, rfl, rfl, -⟩
    · exact .inr (.inl rfl)
    · exact .inr (.inr ⟨ex, rfl, hex.elim .inl (.inr ∘ .inl)⟩)
    · by_cases hrc : h.rc c = 0 <;> simp [hrc]

variable (h)

theorem installConanDependencies_true_runs_conan (w : World DependencyInstaller) :
    wpE (installConanDependencies h) (fun r w' e => r = .ok true →
      ∃ g, .run (conanCommand h w.obj g) ∈ e ∧ h.rc (conanCommand h w.obj g) = 0 ∧
        (w'.tree.find? (getConanDir h.system w.obj.args.buildType)).map Workspace.conanToolchain =
          some true) w := by
  refine (installConanDependencies_wpE h w).mono fun r w' e ⟨_, _, _, hend⟩ hr => ?_
  rcases hend with ⟨-, -, ⟨rfl, -⟩ | ⟨ex, rfl, -⟩⟩ | ⟨g, e₁, -, -, -, rfl, rfl, ht⟩
  · cases hr
  · cases hr
  · have hrc : h.rc (conanCommand h w.obj g) = 0 := by simpa using hr
    exact ⟨g, by simp, hrc, ht ▸ toolchain_afterConan h _ _ hrc⟩

theorem run_conanInstall_guarded (v : PyVersion) (w : World DependencyInstaller) :
    wpE (run h v) (fun _ _ e => ∀ cmd ∈ runsOf e, IsConanInstall cmd →
      Prerequisites h v w.env = true ∧ w.obj.args.useConan = true ∧ ConanUsable h w.env ∧
      h.rc profileDetect = 0 ∧ h.fileExists (conanfilePath h) = true ∧ ConanCommandFor h w.obj.args cmd ∧
      ∃ e₁, e = e₁ ++ [.run cmd] ∧ .run profileDetect ∈ e₁ ∧ ConanFree e₁) w :=
  (run_wpE h v w).mono fun _ _ _ ⟨_, hcase⟩ _ hm hi => hcase.conanInstall hm hi

theorem run_conanInstall_userProfile (v : PyVersion) (w : World DependencyInstaller) :
    wpE (run h v) (fun _ _ e => ∀ cmd ∈ runsOf e, IsConanInstall cmd →
      w.obj.args.profile ≠ "" → w.obj.args.profile ≠ "default" →
      h.fileExists (profilePath h w.obj.args.profile) = true →
      ∃ g c, cmd = conanInstallCmd h w.obj.args.buildType g ["-pr", profilePath h w.obj.args.profile] c) w :=
  (run_wpE h v w).mono fun _ _ _ ⟨_, hcase⟩ _ hm hi => (hcase.conanInstall hm hi).2.2.2.2.2.1.userProfile

theorem run_success_leaves_toolchain (v : PyVersion) (w : World DependencyInstaller) :
    wpE (run h v) (fun r w' e => r = .ok 0 → w'.obj.args.useConan = true →
      (w'.tree.find? (getConanDir h.system w.obj.args.buildType)).map Workspace.conanToolchain = some true ∧
      ∃ cmd ∈ runsOf e, IsConanInstall cmd ∧ h.rc cmd = 0) w := by
  refine (run_wpE h v w).mono fun r w' e ⟨_, hcase⟩ hr hc => ?_
  cases hcase with
  | checksFail => simp at hr
  | compilerUnread => cases hr
  | interrupted => cases hr
  | system _ _ _ hc' => simp [hc'] at hc
  | conan _ _ _ _ _ hend =>
    rcases hend with ⟨-, -, ⟨rfl, -⟩ | ⟨ex, rfl, -⟩⟩ | ⟨c, e₁, hcf, -, -, -, -, rfl, rfl, ht⟩
    · simp at hr
    · cases hr
    · have hrc : h.rc c = 0 := by
        by_contra hne
        simp [hne] at hr
      exact ⟨ht ▸ toolchain_afterConan h _ _ hrc, c, by simp, hcf.isConanInstall, hrc⟩

theorem run_exit_one (v : PyVersion) (w : World DependencyInstaller) :
    wpE (run h v) (fun r w' e => r = .ok 1 →
      Prerequisites h v w.env = false ∨
      (w'.obj.args.useConan = true ∧ (h.rc profileDetect ≠ 0 ∨ h.fileExists (conanfilePath h) = false ∨
        ∃ cmd ∈ runsOf e, IsConanInstall cmd ∧ h.rc cmd ≠ 0))) w := by
  refine (run_wpE h v w).mono fun r w' e ⟨_, hcase⟩ hr => ?_
  cases hcase with
  | checksFail hp => exact .inl hp
  | compilerUnread => cases hr
  | interrupted => cases hr
  | system => simp at hr
  | conan _ hc _ ha _ hend =>
    refine .inr ⟨ha ▸ hc, ?_⟩
    rcases hend with ⟨-, -, ⟨-, hf⟩ | ⟨ex, rfl, -⟩⟩ | ⟨c, e₁, hcf, -, -, -, -, rfl, rfl, -⟩
    · exact hf.elim .inl (.inr ∘ .inl)
    · cases hr
    · have hrc : h.rc c ≠ 0 := fun h0 => by simp [h0] at hr
      exact .inr (.inr ⟨c, by simp, hcf.isConanInstall, hrc⟩)

theorem run_falls_back_to_system (v : PyVersion) (w : World DependencyInstaller)
    (hi : w.obj.interactive = false) (hc : w.obj.args.useConan = true)
    (hp : Prerequisites h v w.env = true) (hv : compilerParseFails h w.env = false)
    (hu : ¬ConanUsable h w.env) :
    wpE (run h v) (fun r w' e => r = .ok 0 ∧ ConanFree e ∧ w'.obj.args.useConan = false ∧
      w'.obj.args.useSystem = true ∧ ∀ pm, w.obj.packageManager = some pm → systemPackages pm ≠ [] →
        ∃ cmd e₀, installCommand pm (systemPackageList h w.env pm) = some cmd ∧
          e = e₀ ++ aptUpdate pm ++ [.run cmd]) w := by
  refine (run_wpE h v w).mono fun r w' e ⟨_, hcase⟩ => ?_
  cases hcase with
  | checksFail hp' => simp [hp] at hp'
  | compilerUnread hp' => simp [PrerequisitesRaise, hv] at hp'
  | interrupted _ _ _ _ hi' => simp [hi] at hi'
  | conan _ _ hu' => exact absurd hu' hu
  | system _ he _ hc' ha hs =>
    have hsys : w'.obj.args.useSystem = true := by
      rcases ha with ha | ha <;> rw [ha] at hc' ⊢
      simp [hc] at hc'
    exact ⟨rfl, he, hc', hsys, hs hi hsys⟩

theorem run_falls_back_to_system_apt :
    let h : Host := { Host.ofTools .linux ["cmake", "git", "g++", "apt-get"] with
      rc := fun argv => if argv = pipInstallConan then 1 else 0
      stdout := fun _ => "g++ (GCC) 13.2.0" }
    let w : World DependencyInstaller :=
      ⟨init {
          useConan := true, useSystem := false, noInteractive := true, installConan := false,
          profile := "default", compiler := none, buildType := "Release", generator := none }
        (some "apt"), [], ⟨[], by decide⟩, []⟩
    (w.obj.interactive = false ∧ w.obj.args.useConan = true ∧ Prerequisites h ⟨3, 12⟩ w.env = true ∧
      compilerParseFails h w.env = false ∧ ¬ConanUsable h w.env) ∧
    wpE (run h ⟨3, 12⟩) (fun r w' e => r = .ok 0 ∧ ConanFree e ∧ w'.obj.args.useConan = false ∧
      w'.obj.args.useSystem = true ∧ ∀ pm, w.obj.packageManager = some pm → systemPackages pm ≠ [] →
        ∃ cmd e₀, installCommand pm (systemPackageList h w.env pm) = some cmd ∧
          e = e₀ ++ aptUpdate pm ++ [.run cmd]) w :=
  ⟨⟨rfl, rfl, by decide, by decide, by decide⟩,
    run_falls_back_to_system _ _ _ rfl rfl (by decide) (by decide) (by decide)⟩

example :
    let h : Host := { Host.ofTools .linux ["cmake", "git", "g++"] with stdout := fun _ => "g++" }
    let w : World DependencyInstaller :=
      ⟨init (Args.ofNamespace parser.defaults) none, [], ⟨[], by decide⟩, []⟩
    Prerequisites h ⟨3, 12⟩ w.env = true ∧ (run h ⟨3, 12⟩ w).result = .error .indexError := by
  decide

end InstallDeps
end HeliosBuild
