import HeliosBuild.InstallDeps.Installer

/-!
# What each step of the installer does

One statement per method of `DependencyInstaller`, over every run of it
(`Py.wpE`), returning or raising: its result, what it changes of the world,
and the commands it starts.  The results about `run` and `main` are assembled
from these without unfolding a step again.
-/

namespace HeliosBuild
namespace InstallDeps

open Configure Py DependencyInstaller

variable {σ : Type}

/-- `conan install`, the one command of the installer that builds dependencies. -/
def IsConanInstall (argv : List String) : Prop := argv.take 2 = ["conan", "install"]

instance : DecidablePred IsConanInstall := fun _ => inferInstanceAs (Decidable (_ = _))

/-- No `conan install` among the effects. -/
def ConanFree (e : List Effect) : Prop := ∀ cmd ∈ runsOf e, ¬IsConanInstall cmd

@[simp] theorem conanFree_nil : ConanFree [] := by simp [ConanFree]

@[simp] theorem conanFree_append {a b : List Effect} :
    ConanFree (a ++ b) ↔ ConanFree a ∧ ConanFree b := by
  simp only [ConanFree, runsOf_append, List.mem_append, or_imp, forall_and]

@[simp] theorem conanFree_cons {e : Effect} {rest : List Effect} :
    ConanFree (e :: rest) ↔ (∀ argv, e = .run argv → ¬IsConanInstall argv) ∧ ConanFree rest := by
  cases e <;> simp [ConanFree]

@[simp] theorem conanFree_ite {c : Prop} [Decidable c] {a b : List Effect} :
    ConanFree (if c then a else b) ↔ (c → ConanFree a) ∧ (¬c → ConanFree b) := by
  split <;> simp_all

theorem not_isConanInstall {x y : String} {rest : List String} (hy : y ≠ "install") :
    ¬IsConanInstall (x :: y :: rest) := by
  simp [IsConanInstall, hy]

/-!
# Questions and checks
-/

theorem askLoop_error (default : Bool) (ins : List InputEvent) {ex : PyExc}
    (h : (askLoop default ins).1 = .error ex) : ex.interrupts = true := by
  induction ins with
  | nil => cases h; rfl
  | cons ev rest ih =>
    cases ev with
    | eof => cases h; rfl
    | interrupt => cases h; rfl
    | line s =>
      simp only [askLoop] at h
      split_ifs at h <;> first | cases h | exact ih h

theorem askLoop_cases (default : Bool) (ins : List InputEvent) :
    (askLoop default ins).1 = .ok true ∨ (askLoop default ins).1 = .ok false ∨
      ∃ ex, (askLoop default ins).1 = .error ex ∧ ex.interrupts = true := by
  cases hl : (askLoop default ins).1 with
  | error ex => exact .inr (.inr ⟨ex, rfl, askLoop_error default ins hl⟩)
  | ok b => cases b <;> simp

@[simp] theorem wpE_askYesNo (default interactive : Bool)
    (Q : Except PyExc Bool → World σ → List Effect → Prop) {w : World σ} :
    wpE (askYesNo default interactive) Q w ↔
      if interactive then Q (askLoop default w.stdin).1 { w with stdin := (askLoop default w.stdin).2 } []
      else Q (.ok default) w [] := by
  cases interactive
  · rfl
  · rfl

theorem askYesNo_wpE (default interactive : Bool) (w : World σ) :
    wpE (askYesNo default interactive) (fun r w' e => e = [] ∧ w' = { w with stdin := w'.stdin } ∧
      (interactive = false → w' = w ∧ r = .ok default) ∧
      ∀ ex, r = .error ex → ex.interrupts = true ∧ interactive = true) w := by
  cases interactive
  · simp
  · simpa using fun ex => askLoop_error default w.stdin

variable (h : Host) (w : World σ)

@[simp] theorem wpE_checkTool (tool : String) (Q : Except PyExc Bool → World σ → List Effect → Prop) :
    wpE (checkTool h tool) Q w ↔
      Q (.ok (h.which w.env tool)) w (if h.which w.env tool then [.run [tool, "--version"]] else []) := by
  cases hw : h.which w.env tool <;> simp [checkTool, hw]

@[simp] theorem wpE_versionRuns (tool : String) (Q : Except PyExc Bool → World σ → List Effect → Prop) :
    wpE (versionRuns h tool) Q w ↔
      Q (.ok (h.which w.env tool && h.rc [tool, "--version"] = 0)) w
        (if h.which w.env tool then [.run [tool, "--version"]] else []) := by
  cases hw : h.which w.env tool <;> simp [versionRuns, hw]

/-- What `check_compiler` finds: `g++` or `clang++` answering `--version`, `clang-cl`, or `cl`. -/
def compilerFound (env : Env) : Bool :=
  (h.which env "g++" && h.rc ["g++", "--version"] = 0) ||
    (h.which env "clang++" && h.rc ["clang++", "--version"] = 0) ||
    h.which env "clang-cl" || (h.which env "cl" || h.which env "cl.exe")

/-- The prerequisites `run` checks, in the environment it starts in. -/
def Prerequisites (v : PyVersion) (env : Env) : Bool :=
  checkPythonVersion v && h.which env "cmake" && h.which env "git" && compilerFound h env

/-- A compiler that answers `--version` with a text `check_compiler` cannot read a version from. -/
def versionUnreadable (env : Env) (tool : String) (version : String → Except PyExc String) : Bool :=
  h.which env tool && h.rc [tool, "--version"] = 0 && !(version (h.stdout [tool, "--version"])).toBool

/-- `check_compiler` raises `IndexError`: `g++` or `clang++` answers with no version to read. -/
def compilerParseFails (env : Env) : Bool :=
  versionUnreadable h env "g++" gxxVersion || versionUnreadable h env "clang++" clangxxVersion

/-- `check_prerequisites` gets to `check_compiler`, which raises. -/
def PrerequisitesRaise (v : PyVersion) (env : Env) : Bool :=
  checkPythonVersion v && h.which env "cmake" && h.which env "git" && compilerParseFails h env

theorem gxxVersion_error {out : String} {e : PyExc} (he : gxxVersion out = .error e) :
    e = .indexError := by
  unfold gxxVersion at he
  split at he <;> cases he
  rfl

theorem clangxxVersion_error {out : String} {e : PyExc} (he : clangxxVersion out = .error e) :
    e = .indexError := by
  unfold clangxxVersion at he
  repeat' split at he
  all_goals cases he
  all_goals rfl

theorem wpE_compilerAnswers (tool : String) {version : String → Except PyExc String}
    (hv : ∀ {out e}, version out = .error e → e = .indexError)
    (Q : Except PyExc Bool → World σ → List Effect → Prop) :
    wpE (compilerAnswers h tool version) Q w ↔
      Q (if versionUnreadable h w.env tool version then .error .indexError
          else .ok (h.which w.env tool && h.rc [tool, "--version"] = 0)) w
        (if h.which w.env tool then [.run [tool, "--version"]] else []) := by
  simp only [compilerAnswers, wpE_bind, wpE_versionRuns, versionUnreadable]
  by_cases hw : h.which w.env tool = true
  · by_cases hrc : h.rc [tool, "--version"] = 0
    · obtain ⟨_, hx⟩ | ⟨_, hx⟩ : (∃ v, version (h.stdout [tool, "--version"]) = .ok v) ∨
          ∃ e, version (h.stdout [tool, "--version"]) = .error e := by
        cases version (h.stdout [tool, "--version"]) <;> simp
      · simp [hw, hrc, hx, Except.toBool]
      · simp [hw, hrc, hx, Except.toBool, hv hx]
    · simp [hw, hrc]
  · simp [hw]

theorem checkCompiler_wpE : wpE (checkCompiler h) (fun r w' e =>
    r = (if compilerParseFails h w.env then .error .indexError else .ok (compilerFound h w.env)) ∧
      w' = w ∧ ConanFree e) w := by
  simp only [checkCompiler, wpE_bind, wpE_compilerAnswers h w _ gxxVersion_error,
    wpE_compilerAnswers h w _ clangxxVersion_error, wpE_checkCommand, wpE_ite, wpE_pure,
    compilerFound, compilerParseFails]
  cases versionUnreadable h w.env "g++" gxxVersion <;>
    cases versionUnreadable h w.env "clang++" clangxxVersion <;> cases h.which w.env "cl" <;>
    simp [not_isConanInstall]

theorem checkPrerequisites_wpE (v : PyVersion) : wpE (checkPrerequisites h v) (fun r w' e =>
    r = (if PrerequisitesRaise h v w.env then .error .indexError else .ok (Prerequisites h v w.env)) ∧
      w' = w ∧ ConanFree e) w := by
  simp only [checkPrerequisites, checkCMake, checkGit, Prerequisites, PrerequisitesRaise, wpE_bind,
    wpE_checkTool, wpE_ite, wpE_pure]
  cases checkPythonVersion v <;> cases h.which w.env "cmake" <;> cases h.which w.env "git" <;>
    simp [not_isConanInstall]
  all_goals exact (checkCompiler_wpE h w).mono fun r w' e ⟨hr, hw, he⟩ => ⟨hr, hw, by simp [he, not_isConanInstall]⟩

/-!
# Conan and the profile
-/

/-- Conan answers `--version`, or `pip` installs it. -/
def ConanUsable (env : Env) : Prop :=
  (h.which env "conan" = true ∧ h.rc ["conan", "--version"] = 0) ∨ h.rc pipInstallConan = 0

instance (env : Env) : Decidable (ConanUsable h env) := inferInstanceAs (Decidable (_ ∨ _))

theorem installConan_wpE (w : World DependencyInstaller) : wpE (installConan h) (fun r w' e =>
    w' = { w with stdin := w'.stdin } ∧ ConanFree e ∧ (r = .ok true → ConanUsable h w.env) ∧
    (w.obj.interactive = false → w' = w ∧ r = .ok (decide (ConanUsable h w.env))) ∧
    ∀ ex, r = .error ex → ex.interrupts = true ∧ w.obj.interactive = true) w := by
  simp only [installConan, wpE_bind, wpE_versionRuns, wpE_ite, wpE_runCmd, wpE_pure, wpE_obj,
    wpE_askYesNo]
  cases hv : (h.which w.env "conan" && h.rc ["conan", "--version"] = 0)
  · have hv' : ¬(h.which w.env "conan" = true ∧ h.rc ["conan", "--version"] = 0) := by simpa using hv
    rcases askLoop_cases true w.stdin with hl | hl | ⟨ex, hl, hex⟩ <;>
      cases hi : w.obj.args.installConan <;> cases hint : w.obj.interactive <;>
      simp [*, ConanUsable, pipInstallConan, not_isConanInstall]
  · simp_all [ConanUsable, not_isConanInstall]

@[simp] theorem wpE_plainClang (Q : Except PyExc Bool → World σ → List Effect → Prop) :
    wpE (CompilerDetector.plainClang h) Q w ↔
      Q (.ok (h.which w.env "clang" && h.which w.env "clang++")) w [] := by
  cases hc : h.which w.env "clang" <;> simp [CompilerDetector.plainClang, hc]

@[simp] theorem wpE_detectGcc (Q : Except PyExc Bool → World σ → List Effect → Prop) :
    wpE (CompilerDetector.detectGcc h) Q w ↔
      Q (.ok (h.which w.env "gcc" && h.which w.env "g++")) w [] := by
  cases hc : h.which w.env "gcc" <;> simp [CompilerDetector.detectGcc, hc]

theorem profileCompiler_wpE (a : Args) : wpE (profileCompiler h a) (fun r w' e =>
    w' = w ∧ e = [] ∧ ∃ cv, r = .ok cv) w := by
  unfold profileCompiler detectCompiler
  split_ifs <;> simp

/-- The profiles `select_conan_profile` knows by name. -/
def platformProfiles : List String := ["msvc-ninja", "clang-cl-windows", "clang-windows", "clang-native"]

/-- What `select_conan_profile` may return for a `--profile` value: `default`, or an existing file of `conan-profiles/`, named by `--profile` or a profile the script knows. -/
def ProfileChoice (profile p : String) : Prop :=
  p = "default" ∨ (h.fileExists p = true ∧
    ∃ name, p = profilePath h name ∧ (name = profile ∨ name ∈ platformProfiles))

theorem platformProfile_exists {compiler p : String} {variant : Option String}
    (hp : platformProfile h compiler variant = some p) :
    h.fileExists p = true ∧ ∃ name ∈ platformProfiles, p = profilePath h name := by
  unfold platformProfile existingProfile at hp
  split_ifs at hp <;> cases hp <;> simp_all [platformProfiles]

theorem selectConanProfile_wpE (w : World DependencyInstaller) : wpE (selectConanProfile h) (fun r w' e =>
    e = [] ∧ (∃ c v, w' = { w with obj := { w.obj with detectedCompiler := c, detectedCompilerVariant := v } }) ∧
    ∃ p, r = .ok p ∧ ProfileChoice h w.obj.args.profile p ∧
      (w.obj.args.profile ≠ "" ∧ w.obj.args.profile ≠ "default" ∧
        h.fileExists (profilePath h w.obj.args.profile) = true → p = profilePath h w.obj.args.profile)) w := by
  simp only [selectConanProfile, wpE_obj_bind, wpE_ite, wpE_pure]
  refine ⟨fun ⟨_, _, hf⟩ => ⟨trivial, ⟨_, _, rfl⟩, _, rfl, .inr ⟨hf, _, rfl, .inl rfl⟩, fun _ => rfl⟩,
    fun hu => ?_⟩
  rw [wpE_pure_bind]
  refine wpE_seq _ (profileCompiler_wpE h w _) ?_
  rintro r w' e ⟨rfl, rfl, ⟨c, v⟩, rfl⟩
  simp only [Except.ok.injEq, forall_eq', wpE_modifyObj_bind, wpE_ite, wpE_pure, reduceCtorEq,
    IsEmpty.forall_iff, implies_true, and_true]
  refine ⟨fun _ => ⟨rfl, ⟨_, _, rfl⟩, _, rfl, .inl rfl, fun h' => absurd h' hu⟩,
    fun _ => ⟨rfl, ⟨_, _, rfl⟩, _, rfl, ?_, fun h' => absurd h' hu⟩⟩
  cases hp : platformProfile h (c.getD "") v with
  | none => exact .inl rfl
  | some p =>
    obtain ⟨hf, name, hn, rfl⟩ := platformProfile_exists h hp
    exact .inr ⟨hf, name, rfl, .inr hn⟩

theorem setupConanProfile_wpE (w : World DependencyInstaller) : wpE (setupConanProfile h) (fun r w' e =>
    e = [.run profileDetect] ∧ r = .ok (decide (h.rc profileDetect = 0)) ∧
    (∃ c v sp, w' = { w with obj :=
      { w.obj with detectedCompiler := c, detectedCompilerVariant := v, selectedProfile := sp } }) ∧
    (h.rc profileDetect = 0 → ∃ p, w'.obj.selectedProfile = some p ∧ ProfileChoice h w.obj.args.profile p ∧
      (w.obj.args.profile ≠ "" ∧ w.obj.args.profile ≠ "default" ∧
        h.fileExists (profilePath h w.obj.args.profile) = true → p = profilePath h w.obj.args.profile))) w := by
  simp only [setupConanProfile, wpE_runCmd_bind, wpE_ite, wpE_pure, wpE_pure_bind]
  refine ⟨fun hrc => ⟨trivial, by simp [hrc], ⟨_, _, _, rfl⟩, fun h0 => absurd h0 hrc⟩, fun hrc => ?_⟩
  refine wpE_seq _ (selectConanProfile_wpE h w) ?_
  rintro r w' e ⟨rfl, ⟨c, v, rfl⟩, p, rfl, hp, hu⟩
  simp only [Except.ok.injEq, forall_eq', wpE_modifyObj_bind, wpE_pure, reduceCtorEq,
    IsEmpty.forall_iff, implies_true, and_true]
  exact ⟨rfl, by simpa using hrc, ⟨c, v, some p, rfl⟩, fun _ => ⟨p, rfl, hp, hu⟩⟩

/-!
# The `clang-cl` path and the system packages
-/

theorem prependPath_wpE (d : String) : wpE (prependPath h d : Py σ Unit) (fun r w' e =>
    PathFrame h w w' ∧ e = [] ∧ ∀ ex, r = .error ex → ex = .keyError "PATH") w := by
  simp only [prependPath, wpE_world_bind]
  split
  · simp [PathFrame.refl]
  · simp only [wpE_modify]
    exact ⟨⟨rfl, fun k hk => by simp [hk]⟩, trivial, by simp⟩

theorem addClangClDir_wpE (ds : List String) (w : World σ) :
    wpE (CompilerDetector.addClangClDir h ds) (fun r w' e =>
      PathFrame h w w' ∧ e = [] ∧ ∀ ex, r = .error ex → ex = .keyError "PATH") w := by
  induction ds generalizing w with
  | nil => simp [CompilerDetector.addClangClDir, PathFrame.refl]
  | cons d rest ih =>
    unfold CompilerDetector.addClangClDir
    by_cases hf : h.fileExists (d ++ "/clang-cl.exe") = true
    · simp only [hf, ite_true]
      refine wpE_seq _ (prependPath_wpE h w d) ?_
      rintro r w' e ⟨hpf, rfl, herr⟩
      refine ⟨fun _ _ => ?_, fun ex hex => ⟨hpf, rfl, fun _ h' => by cases h'; exact herr ex hex⟩⟩
      simp only [wpE_checkCommand_bind, wpE_ite, wpE_pure]
      exact ⟨fun _ => ⟨hpf, rfl, by simp⟩,
        fun _ => (ih w').mono fun r w'' e ⟨h₂, he, hx⟩ => ⟨hpf.trans h₂, by simpa using he, hx⟩⟩
    · simpa [hf] using ih w

theorem setupClangClPath_wpE : wpE (CompilerDetector.setupClangClPath h : Py σ Bool) (fun r w' e =>
    PathFrame h w w' ∧ e = [] ∧ ∀ ex, r = .error ex → ex = .keyError "PATH" ∧ h.isWindows = true) w := by
  unfold CompilerDetector.setupClangClPath
  cases hw : h.isWindows
  · simp [PathFrame.refl]
  · simp only [Bool.not_true, wpE_ite, wpE_pure_bind, wpE_checkCommand_bind, wpE_pure]
    refine ⟨fun h' => absurd h' (by decide), fun _ => ⟨fun _ => by simp [PathFrame.refl],
      fun _ => (addClangClDir_wpE h _ w).mono fun r w' e ⟨hp, he, hx⟩ => ⟨hp, he, fun ex hex => ⟨hx ex hex, trivial⟩⟩⟩⟩

theorem setupClangClIfUsed_wpE (s : DependencyInstaller) : wpE (setupClangClIfUsed h s : Py σ Unit)
    (fun r w' e => PathFrame h w w' ∧ e = [] ∧
      ∀ ex, r = .error ex → ex = .keyError "PATH" ∧ h.isWindows = true) w := by
  have hset : wpE (CompilerDetector.setupClangClPath h >>= fun _ => pure () : Py σ Unit) (fun r w' e =>
      PathFrame h w w' ∧ e = [] ∧ ∀ ex, r = .error ex → ex = .keyError "PATH" ∧ h.isWindows = true) w :=
    wpE_seq _ (setupClangClPath_wpE h w) fun r w' e ⟨hp, he, hx⟩ =>
      ⟨fun _ _ => by simpa using ⟨hp, he⟩, fun ex hex => ⟨hp, he, fun _ h' => by cases h'; exact hx ex hex⟩⟩
  unfold setupClangClIfUsed
  split_ifs
  · exact hset
  · exact hset
  · simp [PathFrame.refl]

theorem queryPackages_wpE (pm : String) (l : List (String × String)) :
    wpE (queryPackages h (packageQuery pm) l : Py σ StrDict) (fun r w' e =>
      w' = w ∧ ConanFree e ∧ ∃ d, r = .ok d ∧ ∀ p ∈ d, p ∈ l) w := by
  have hq : ∀ pkg, ¬IsConanInstall (packageQuery pm pkg) := fun pkg => by
    unfold packageQuery; split_ifs <;> exact not_isConanInstall (by decide)
  induction l with
  | nil => simp [queryPackages]
  | cons p rest ih =>
    simp only [queryPackages, wpE_runCmd_bind]
    refine wpE_seq _ ih ?_
    rintro r w' e ⟨rfl, he, d, rfl, hd⟩
    simp only [Except.ok.injEq, forall_eq', wpE_pure, reduceCtorEq, IsEmpty.forall_iff,
      implies_true, and_true]
    refine ⟨trivial, by simp [hq, he], _, rfl, ?_⟩
    split_ifs <;> simp_all

theorem concurrentqueue_not_checked (pm : String) : ∀ p ∈ packagesToCheck pm, p.1 ≠ "concurrentqueue" := by
  unfold packagesToCheck
  split <;> simp

theorem checkSystemPackages_wpE (w : World DependencyInstaller) : wpE (checkSystemPackages h) (fun r w' e =>
    w' = w ∧ ConanFree e ∧ ∃ d, r = .ok d ∧ ∀ p ∈ d, p.1 ≠ "concurrentqueue") w := by
  simp only [checkSystemPackages, wpE_obj_bind]
  split
  · simp
  · next pm _ =>
    exact (queryPackages_wpE h w pm _).mono fun r w' e ⟨hw, he, d, hr, hd⟩ =>
      ⟨hw, he, d, hr, fun p hp => concurrentqueue_not_checked pm p (hd p hp)⟩

/-!
# What a run may change

The installer changes `PATH` (for `clang-cl`), its own attributes, the unread
input when it asks, and in the build tree only the workspace of its build
type: it may create the directory, and `conan install` may write its files
there.
-/

/-- How the installer may change the build tree: only the workspace `k`, which it may create and in which `conan install` may write its files. -/
def TreeFrame (k : WsKey) (t t' : Tree) : Prop :=
  (∀ k', k' ≠ k → t'.find? k' = t.find? k') ∧
    (t'.find? k = t.find? k ∨ t'.find? k = some ((t.find? k).getD .empty) ∨
      t'.find? k = some (conanGenerate h ((t.find? k).getD .empty)))

@[simp] theorem conanGenerate_conanGenerate (ws : Workspace) :
    conanGenerate h (conanGenerate h ws) = conanGenerate h ws := by
  simp [conanGenerate]

namespace TreeFrame

variable {h}

theorem refl (k : WsKey) (t : Tree) : TreeFrame h k t t := ⟨fun _ _ => rfl, .inl rfl⟩

theorem trans {k : WsKey} {t₁ t₂ t₃ : Tree} (h₁ : TreeFrame h k t₁ t₂) (h₂ : TreeFrame h k t₂ t₃) :
    TreeFrame h k t₁ t₃ := by
  refine ⟨fun k' hk => (h₂.1 k' hk).trans (h₁.1 k' hk), ?_⟩
  rcases h₁.2 with e₁ | e₁ | e₁ <;> rcases h₂.2 with e₂ | e₂ | e₂ <;> simp_all

variable (h)

theorem mkdir (k : WsKey) (t : Tree) : TreeFrame h k t (t.mkdir k) :=
  ⟨fun _ hk => Tree.find?_mkdir_ne t hk, .inr (.inl (Tree.find?_mkdir_self t k))⟩

theorem generate (k : WsKey) (t : Tree) :
    TreeFrame h k t ((t.mkdir k).update k (conanGenerate h)) := by
  refine ⟨fun k' hk => ?_, .inr (.inr ?_)⟩
  · rw [Tree.find?_update, if_neg hk, Tree.find?_mkdir_ne t hk]
  · rw [Tree.find?_update, if_pos rfl, Tree.find?_mkdir_self]
    rfl

end TreeFrame

structure Frame (w w' : World DependencyInstaller) : Prop where
  buildType : w'.obj.args.buildType = w.obj.args.buildType
  interactive : w'.obj.interactive = w.obj.interactive
  env : ∀ k, k ≠ environKey h.isWindows "PATH" → w'.env.get? k = w.env.get? k
  stdin : w.obj.interactive = false → w'.stdin = w.stdin
  tree : TreeFrame h (getConanDir h.system w.obj.args.buildType) w.tree w'.tree

namespace Frame

variable {h} {w₁ w₂ w₃ : World DependencyInstaller}

theorem refl (w : World DependencyInstaller) : Frame h w w :=
  ⟨rfl, rfl, fun _ _ => rfl, fun _ => rfl, TreeFrame.refl _ _⟩

theorem trans (h₁ : Frame h w₁ w₂) (h₂ : Frame h w₂ w₃) : Frame h w₁ w₃ where
  buildType := h₂.buildType.trans h₁.buildType
  interactive := h₂.interactive.trans h₁.interactive
  env k hk := (h₂.env k hk).trans (h₁.env k hk)
  stdin hi := (h₂.stdin (h₁.interactive.trans hi)).trans (h₁.stdin hi)
  tree := h₁.tree.trans (h₁.buildType ▸ h₂.tree)

theorem of_pathFrame (hp : PathFrame h w₁ w₂) : Frame h w₁ w₂ := by
  rw [hp.rest]
  exact ⟨rfl, rfl, hp.env, fun _ => rfl, TreeFrame.refl _ _⟩

theorem of_stdin {ins : List InputEvent} (hi : w₁.obj.interactive = false → ins = w₁.stdin) :
    Frame h w₁ { w₁ with stdin := ins } :=
  ⟨rfl, rfl, fun _ _ => rfl, hi, TreeFrame.refl _ _⟩

theorem of_obj {o : DependencyInstaller} (hb : o.args.buildType = w₁.obj.args.buildType)
    (hi : o.interactive = w₁.obj.interactive) : Frame h w₁ { w₁ with obj := o } :=
  ⟨hb, hi, fun _ _ => rfl, fun _ => rfl, TreeFrame.refl _ _⟩

end Frame

/-!
# The Conan installation
-/

theorem askMixedMode_wpE (d : StrDict) (interactive : Bool) :
    wpE (askMixedMode d interactive : Py σ Bool) (fun r w' e =>
      e = [] ∧ w' = { w with stdin := w'.stdin } ∧ (interactive = false → w' = w) ∧
        ∀ ex, r = .error ex → ex.interrupts = true ∧ interactive = true) w := by
  unfold askMixedMode
  split_ifs with hc
  · have hi : interactive = true := by simp_all
    exact (askYesNo_wpE true true w).mono fun r w' e ⟨he, hw, _, hx⟩ =>
      ⟨he, hw, fun h' => absurd (hi ▸ h') (by decide), fun ex h' => ⟨(hx ex h').1, hi⟩⟩
  · simp

theorem truthy_getD {o : Option String} (ho : truthy o = true) : o.getD "" ≠ "" := by
  cases o <;> simp_all [truthy]

theorem conanGenerator_wpE (g : Option String) : wpE (conanGenerator h g : Py σ String) (fun r w' e =>
    w' = w ∧ e = [] ∧ ∃ s, r = .ok s ∧ s ≠ "") w := by
  unfold conanGenerator
  by_cases hg : truthy g = true
  · simpa [hg] using truthy_getD hg
  · simp only [hg, ite_false, wpE_ite, wpE_pure_bind, wpE_checkCommand_bind, wpE_pure]
    split_ifs <;> simp

@[simp] theorem wpE_mkdirOutputFolder (k : WsKey) (Q : Except PyExc Unit → World σ → List Effect → Prop) :
    wpE (mkdirOutputFolder h k : Py σ Unit) Q w ↔ Q (.ok ()) { w with tree := w.tree.mkdir k }
      (if (w.tree.find? k).isNone then [.mkdir (wsPath h.projectRoot k)] else []) := by
  simp only [mkdirOutputFolder, wpE_world_bind, wpE_ite, wpE_bind, wpE_emit, wpE_modify, wpE_pure]
  cases hf : w.tree.find? k with
  | none => simp [hf]
  | some ws =>
    rw [Tree.mkdir_of_isSome (by simp [hf])]
    simp [hf]

theorem findVsPath_wpE : wpE (CompilerDetector.findVsPath h : Py σ String) (fun r w' e =>
    w' = w ∧ ConanFree e ∧ ∃ p, r = .ok p) w := by
  simp only [CompilerDetector.findVsPath, wpE_world_bind]
  split_ifs <;> simp [CompilerDetector.vswhereArgs, not_isConanInstall]

theorem msvcEnvironment_wpE (env : Env) : wpE (msvcEnvironment h env : Py σ Env) (fun r w' e =>
    w' = w ∧ ConanFree e ∧ ∃ env', r = .ok env') w := by
  simp only [msvcEnvironment, wpE_checkCommand_bind, wpE_ite, wpE_pure, wpE_pure_bind]
  refine ⟨fun _ => by simp, fun _ => wpE_seq _ (findVsPath_wpE h w) ?_⟩
  rintro r w' e ⟨rfl, he, p, rfl⟩
  simp only [Except.ok.injEq, forall_eq', reduceCtorEq, IsEmpty.forall_iff, implies_true, and_true,
    wpE_ite, wpE_pure, wpE_pure_bind, wpE_bind, wpE_shellCmd]
  simp [he]

theorem setupMsvcEnvironment_wpE (w : World DependencyInstaller) : wpE (setupMsvcEnvironment h)
    (fun r w' e => ConanFree e ∧ (∃ env, r = .ok env) ∧
      ∃ m, w' = { w with obj := { w.obj with msvcEnv := m } }) w := by
  simp only [setupMsvcEnvironment, wpE_obj_bind]
  split
  · exact ⟨by simp, ⟨_, rfl⟩, _, rfl⟩
  · simp only [wpE_pure_bind, wpE_world_bind, wpE_ite, wpE_pure]
    refine ⟨fun _ => ⟨by simp, ⟨_, rfl⟩, _, rfl⟩, fun _ => wpE_seq _ (msvcEnvironment_wpE h w _) ?_⟩
    rintro r w' e ⟨rfl, he, env', rfl⟩
    simp only [Except.ok.injEq, forall_eq', reduceCtorEq, IsEmpty.forall_iff, implies_true, and_true,
      wpE_modifyObj_bind, wpE_pure]
    exact ⟨by simpa using he, ⟨_, rfl⟩, _, rfl⟩

@[simp] theorem wpE_conanInstall (cmd : List String) (k : WsKey)
    (Q : Except PyExc Bool → World σ → List Effect → Prop) :
    wpE (conanInstall h cmd k : Py σ Bool) Q w ↔
      Q (.ok (decide (h.rc cmd = 0)))
        (if h.rc cmd = 0 then { w with tree := w.tree.update k (conanGenerate h) } else w) [.run cmd] := by
  by_cases hrc : h.rc cmd = 0 <;> simp [conanInstall, hrc]

def afterConan (cmd : List String) (k : WsKey) (t : Tree) : Tree :=
  if h.rc cmd = 0 then (t.mkdir k).update k (conanGenerate h) else t.mkdir k

theorem treeFrame_afterConan (cmd : List String) (k : WsKey) (t : Tree) :
    TreeFrame h k t (afterConan h cmd k t) := by
  unfold afterConan
  split
  · exact TreeFrame.generate h k t
  · exact TreeFrame.mkdir h k t

theorem toolchain_afterConan {cmd : List String} (k : WsKey) (t : Tree) (hrc : h.rc cmd = 0) :
    ((afterConan h cmd k t).find? k).map Workspace.conanToolchain = some true := by
  simp [afterConan, hrc, Tree.find?_update, conanGenerate]

theorem runConanInstall_wpE (s : DependencyInstaller) (g : String) (w : World DependencyInstaller) :
    wpE (runConanInstall h s g) (fun r w' e =>
      (∃ m, w'.obj = { w.obj with msvcEnv := m }) ∧ w'.env = w.env ∧ w'.stdin = w.stdin ∧
      w'.tree = afterConan h (conanCommand h s g) (getConanDir h.system s.args.buildType) w.tree ∧
      (∃ e₁, e = e₁ ++ [.run (conanCommand h s g)] ∧ ConanFree e₁) ∧
      r = .ok (decide (h.rc (conanCommand h s g) = 0))) w := by
  simp only [runConanInstall, wpE_bind, wpE_mkdirOutputFolder, Except.ok.injEq, forall_eq', reduceCtorEq,
    IsEmpty.forall_iff, implies_true, and_true, wpE_ite, wpE_pure, wpE_pure_bind, wpE_conanInstall,
    true_implies, forall_const, afterConan]
  have hmk : ConanFree (if (w.tree.find? (getConanDir h.system s.args.buildType)).isNone = true then
      [Effect.mkdir (wsPath h.projectRoot (getConanDir h.system s.args.buildType))] else []) := by
    split <;> simp
  refine ⟨fun hw => (setupMsvcEnvironment_wpE h _).mono ?_, fun _ => ?_⟩
  · rintro r w' e ⟨he, ⟨env, rfl⟩, m, rfl⟩
    simp only [Except.ok.injEq, forall_eq', reduceCtorEq, IsEmpty.forall_iff, implies_true, and_true,
      wpE_pure_bind, wpE_conanInstall, true_implies, forall_const, List.nil_append, ← List.append_assoc]
    by_cases hrc : h.rc (conanCommand h s g) = 0
    · rw [if_pos hrc, if_pos hrc]
      exact ⟨⟨m, rfl⟩, rfl, rfl, rfl, _, rfl, conanFree_append.2 ⟨hmk, he⟩⟩
    · rw [if_neg hrc, if_neg hrc]
      exact ⟨⟨m, rfl⟩, rfl, rfl, rfl, _, rfl, conanFree_append.2 ⟨hmk, he⟩⟩
  · by_cases hrc : h.rc (conanCommand h s g) = 0
    · rw [if_pos hrc, if_pos hrc]
      exact ⟨⟨_, rfl⟩, rfl, rfl, rfl, _, by simp, hmk⟩
    · rw [if_neg hrc, if_neg hrc]
      exact ⟨⟨_, rfl⟩, rfl, rfl, rfl, _, by simp, hmk⟩

theorem missing_isEmpty {d : StrDict} (hd : ∀ p ∈ d, p.1 ≠ "concurrentqueue") :
    (requiredDeps.filter fun dep => !(d.any fun p => p.1 = dep)).isEmpty = false := by
  have hm : "concurrentqueue" ∈ requiredDeps.filter fun dep => !(d.any fun p => p.1 = dep) :=
    List.mem_filter.2 ⟨by simp [requiredDeps], by simpa using hd⟩
  cases hl : requiredDeps.filter fun dep => !(d.any fun p => p.1 = dep) with
  | nil => simp [hl] at hm
  | cons _ _ => rfl

def ConanDepsEnd (w : World DependencyInstaller) (r : Except PyExc Bool) (t : Tree) (e : List Effect) :
    Prop :=
  (ConanFree e ∧ t = w.tree ∧
    (r = .ok false ∧ h.fileExists (conanfilePath h) = false ∨
      ∃ ex, r = .error ex ∧
        (ex.interrupts = true ∧ w.obj.interactive = true ∨ ex = .keyError "PATH" ∧ h.isWindows = true))) ∨
  ∃ g e₁, g ≠ "" ∧ h.fileExists (conanfilePath h) = true ∧ ConanFree e₁ ∧
    e = e₁ ++ [.run (conanCommand h w.obj g)] ∧ r = .ok (decide (h.rc (conanCommand h w.obj g) = 0)) ∧
    t = afterConan h (conanCommand h w.obj g) (getConanDir h.system w.obj.args.buildType) w.tree

theorem installConanDependencies_wpE (w : World DependencyInstaller) :
    wpE (installConanDependencies h) (fun r w' e =>
      (∃ p m, w'.obj = { w.obj with usingMixedMode := p, msvcEnv := m }) ∧
      (∀ k, k ≠ environKey h.isWindows "PATH" → w'.env.get? k = w.env.get? k) ∧
      (w.obj.interactive = false → w'.stdin = w.stdin) ∧ ConanDepsEnd h w r w'.tree e) w := by
  simp only [installConanDependencies, wpE_obj_bind]
  refine wpE_seq _ (setupClangClIfUsed_wpE h w w.obj) ?_
  rintro r w₁ e ⟨hp, rfl, herr⟩
  obtain ⟨env₁, rfl⟩ : ∃ env₁, w₁ = { w with env := env₁ } := ⟨_, hp.rest⟩
  refine ⟨fun _ _ => ?_, fun ex hex =>
    ⟨⟨_, _, rfl⟩, hp.env, fun _ => rfl, .inl ⟨by simp, rfl, .inr ⟨ex, rfl, .inr (herr ex hex)⟩⟩⟩⟩
  refine wpE_seq _ (checkSystemPackages_wpE h _) ?_
  rintro r w₂ e₂ ⟨rfl, he₂, d, rfl, hd⟩
  simp only [Except.ok.injEq, forall_eq', reduceCtorEq, IsEmpty.forall_iff, implies_true, and_true,
    missing_isEmpty hd, wpE_ite, Bool.false_eq_true, false_implies, not_false_eq_true, true_implies,
    true_and, List.nil_append, wpE_pure_bind]
  refine wpE_seq _ (askMixedMode_wpE _ d w.obj.interactive) ?_
  rintro r w₃ e₃ ⟨rfl, hw₃, hni, hx⟩
  obtain ⟨ins, rfl⟩ : ∃ ins, w₃ = { w with env := env₁, stdin := ins } := ⟨_, hw₃⟩
  have hins : w.obj.interactive = false → ins = w.stdin := fun hi => by
    simpa using congrArg World.stdin (hni hi)
  refine ⟨fun _ _ => ?_, fun ex hex =>
    ⟨⟨_, _, rfl⟩, hp.env, hins, .inl ⟨by simpa using he₂, rfl, .inr ⟨ex, rfl, .inl (hx ex hex)⟩⟩⟩⟩
  simp only [wpE_ite, wpE_pure, wpE_pure_bind, List.append_nil]
  refine ⟨fun hf => ⟨⟨_, _, rfl⟩, hp.env, hins, .inl ⟨he₂, rfl, .inl ⟨rfl, by simpa using hf⟩⟩⟩, fun hf => ?_⟩
  have hf' : h.fileExists (conanfilePath h) = true := by simpa using hf
  refine wpE_seq _ (conanGenerator_wpE h _ _) ?_
  rintro r w₄ e₄ ⟨rfl, rfl, g, rfl, hg⟩
  simp only [Except.ok.injEq, forall_eq', reduceCtorEq, IsEmpty.forall_iff, implies_true, and_true,
    List.append_nil]
  refine wpE_seq _ (runConanInstall_wpE h w.obj g _) ?_
  rintro r w₅ e₅ ⟨⟨m, hm⟩, henv, hstdin, htree, ⟨e₁, rfl, he₁⟩, rfl⟩
  have hpath : ∀ k, k ≠ environKey h.isWindows "PATH" → w₅.env.get? k = w.env.get? k :=
    fun k hk => henv ▸ hp.env k hk
  have hend : ∀ r', r' = Except.ok (decide (h.rc (conanCommand h w.obj g) = 0)) →
      ConanDepsEnd h w r' w₅.tree (e₂ ++ (e₁ ++ [.run (conanCommand h w.obj g)])) := by
    rintro _ rfl
    exact .inr ⟨g, e₂ ++ e₁, hg, hf', by simp [he₂, he₁], by simp, rfl, htree⟩
  simp only [Except.ok.injEq, forall_eq', reduceCtorEq, IsEmpty.forall_iff, implies_true, and_true,
    wpE_ite, wpE_pure, wpE_pure_bind, wpE_modifyObj_bind, List.append_nil, List.nil_append]
  have hstdin' : w.obj.interactive = false → w₅.stdin = w.stdin := fun hi => hstdin.trans (hins hi)
  by_cases hrc : h.rc (conanCommand h w.obj g) = 0
  · have hb : decide (h.rc (conanCommand h w.obj g) = 0) = true := decide_eq_true hrc
    simp only [hb, Bool.not_true, Bool.false_eq_true, false_implies, true_and, not_false_eq_true,
      true_implies]
    exact ⟨⟨_, m, by rw [hm]⟩, hpath, hstdin', hend _ (by rw [hb])⟩
  · have hb : decide (h.rc (conanCommand h w.obj g) = 0) = false := decide_eq_false hrc
    simp only [hb, Bool.not_false, not_true_eq_false, false_implies, and_true, true_implies]
    exact ⟨⟨_, m, hm⟩, hpath, hstdin', hend _ (by rw [hb])⟩

/-!
# The Conan installation of `run`
-/

theorem profilePath_ne_default (name : String) : profilePath h name ≠ "default" := by
  intro he
  have hl := congrArg String.length he
  simp only [profilePath, String.length_append] at hl
  have : "/conan-profiles/".length = 16 := rfl
  have : "default".length = 7 := rfl
  omega

def ConanCommandFor (a : Args) (cmd : List String) : Prop :=
  ∃ g p c, g ≠ "" ∧ ProfileChoice h a.profile p ∧
    (a.profile ≠ "" ∧ a.profile ≠ "default" ∧ h.fileExists (profilePath h a.profile) = true →
      p = profilePath h a.profile) ∧
    cmd = conanInstallCmd h a.buildType g (profileArgs (some p) a.profile) c

def ConanEnd (w : World DependencyInstaller) (r : Except PyExc Bool) (t : Tree) (e : List Effect) : Prop :=
  (ConanFree e ∧ t = w.tree ∧
    (r = .ok false ∧ (h.rc profileDetect ≠ 0 ∨ h.fileExists (conanfilePath h) = false) ∨
      ∃ ex, r = .error ex ∧
        (ex.interrupts = true ∧ w.obj.interactive = true ∨ ex = .keyError "PATH" ∧ h.isWindows = true))) ∨
  ∃ cmd e₁, ConanCommandFor h w.obj.args cmd ∧ h.rc profileDetect = 0 ∧
    h.fileExists (conanfilePath h) = true ∧ .run profileDetect ∈ e₁ ∧ ConanFree e₁ ∧
    e = e₁ ++ [.run cmd] ∧ r = .ok (decide (h.rc cmd = 0)) ∧
    t = afterConan h cmd (getConanDir h.system w.obj.args.buildType) w.tree

theorem installWithConan_wpE (w : World DependencyInstaller) : wpE (installWithConan h) (fun r w' e =>
    (∃ c v sp p m, w'.obj = { w.obj with
      detectedCompiler := c, detectedCompilerVariant := v, selectedProfile := sp,
      usingMixedMode := p, msvcEnv := m }) ∧
    (∀ k, k ≠ environKey h.isWindows "PATH" → w'.env.get? k = w.env.get? k) ∧
    (w.obj.interactive = false → w'.stdin = w.stdin) ∧ ConanEnd h w r w'.tree e) w := by
  simp only [installWithConan]
  refine wpE_seq _ (setupConanProfile_wpE h w) ?_
  rintro r w₁ e ⟨rfl, rfl, ⟨c, v, sp, rfl⟩, hsel⟩
  simp only [Except.ok.injEq, forall_eq', reduceCtorEq, IsEmpty.forall_iff, implies_true, and_true,
    wpE_ite, wpE_pure]
  by_cases hrc : h.rc profileDetect = 0
  · obtain ⟨p, hp, hpc, hpu⟩ := hsel hrc
    simp only at hp
    subst hp
    have hb : decide (h.rc profileDetect = 0) = true := decide_eq_true hrc
    simp only [hb, Bool.not_true, Bool.false_eq_true, false_implies, true_and, not_false_eq_true,
      true_implies]
    refine (installConanDependencies_wpE h _).mono ?_
    rintro r w' e ⟨⟨mm, m, hobj⟩, henv, hstdin, hend⟩
    refine ⟨⟨c, v, some p, mm, m, hobj⟩, henv, hstdin, ?_⟩
    rcases hend with ⟨he, ht, ⟨rfl, hf⟩ | ⟨ex, rfl, hex⟩⟩ | ⟨g, e₁, hg, hf, he₁, rfl, rfl, ht⟩
    · exact .inl ⟨by simp [he, profileDetect, not_isConanInstall], ht, .inl ⟨rfl, .inr hf⟩⟩
    · exact .inl ⟨by simp [he, profileDetect, not_isConanInstall], ht, .inr ⟨ex, rfl, hex⟩⟩
    · exact .inr ⟨_, .run profileDetect :: e₁, ⟨g, p, _, hg, hpc, hpu, rfl⟩, hrc, hf, by simp,
        by simp [he₁, profileDetect, not_isConanInstall], rfl, rfl, ht⟩
  · have hb : decide (h.rc profileDetect = 0) = false := decide_eq_false hrc
    simp only [hb, Bool.not_false, not_true_eq_false, false_implies, and_true, true_implies]
    exact ⟨⟨c, v, sp, _, _, rfl⟩, trivial, trivial,
      .inl ⟨by simp [profileDetect, not_isConanInstall], rfl, .inl ⟨rfl, .inl hrc⟩⟩⟩

theorem resolveConan_wpE (w : World DependencyInstaller) : wpE (resolveConan h) (fun r w' e =>
    ConanFree e ∧ w' = { w with stdin := w'.stdin, obj := w'.obj } ∧
    (w'.obj = w.obj ∧ (w.obj.args.useConan = true → r = .ok () → ConanUsable h w.env) ∨
      w'.obj = { w.obj with args := { w.obj.args with useConan := false, useSystem := true } }) ∧
    (w.obj.interactive = false → w'.stdin = w.stdin ∧ r = .ok () ∧
      (w.obj.args.useConan = true → ¬ConanUsable h w.env →
        w'.obj.args.useConan = false ∧ w'.obj.args.useSystem = true)) ∧
    ∀ ex, r = .error ex → ex.interrupts = true ∧ w.obj.interactive = true) w := by
  simp only [resolveConan, wpE_obj_bind, wpE_ite, wpE_pure]
  cases hc : w.obj.args.useConan
  · simp
  · simp only [if_true, not_true_eq_false, false_implies, and_true, true_implies]
    refine wpE_seq _ (installConan_wpE h w) ?_
    rintro r w₁ e ⟨hw₁, he, hok, hni, hx⟩
    obtain ⟨ins, rfl⟩ : ∃ ins, w₁ = { w with stdin := ins } := ⟨_, hw₁⟩
    refine ⟨fun b hb => ?_, fun ex hex => ⟨he, rfl, .inl ⟨rfl, fun h' => by cases h'⟩,
      fun hi => by simp [(hni hi).2] at hex, fun _ h' => by cases h'; exact hx ex hex⟩⟩
    subst hb
    cases b
    · simp only [wpE_ite, wpE_modifyObj, wpE_pure, Bool.not_false, if_true]
      exact ⟨by simpa using he, trivial, .inr trivial,
        fun hi => ⟨congrArg World.stdin (hni hi).1, trivial, fun _ => ⟨trivial, trivial⟩⟩, fun _ h' => by cases h'⟩
    · have hu := hok rfl
      simp only [wpE_ite, wpE_pure, Bool.not_true, Bool.false_eq_true, if_false]
      exact ⟨by simpa using he, trivial, .inl ⟨trivial, fun _ => hu⟩,
        fun hi => ⟨congrArg World.stdin (hni hi).1, trivial, fun hn => absurd hu hn⟩, fun _ h' => by cases h'⟩

/-!
# The system packages
-/

def systemPackageList (env : Env) (pm : String) : List String :=
  systemPackages pm ++
    if h.system = .linux ∧ h.which env "g++" = true then (tbbPackage pm).toList else []

theorem withTbb_wpE (pm : String) : wpE (withTbb h pm (systemPackages pm) : Py σ (List String))
    (fun r w' e => w' = w ∧ e = [] ∧ r = .ok (systemPackageList h w.env pm)) w := by
  cases ht : tbbPackage pm <;> by_cases hs : h.system = .linux <;> cases hg : h.which w.env "g++" <;>
    simp [withTbb, needsSystemTbb, systemPackageList, ht, hs, hg]

theorem not_isConanInstall_installCommand {pm : String} {pkgs cmd : List String}
    (hc : installCommand pm pkgs = some cmd) : ¬IsConanInstall cmd := by
  unfold installCommand at hc
  split_ifs at hc <;> cases hc <;> simp [IsConanInstall]

theorem installCommand_isSome {pm : String} (hs : systemPackages pm ≠ []) (pkgs : List String) :
    (installCommand pm pkgs).isSome := by
  unfold systemPackages at hs
  split at hs <;> first | exact absurd rfl hs | simp [installCommand]

/-- The `sudo apt-get update` that `install_system_dependencies` runs first for apt. -/
def aptUpdate (pm : String) : List Effect :=
  if pm = "apt" then [.run ["sudo", "apt-get", "update"]] else []

@[simp] theorem wpE_installPackages (pm : String) (l : List String)
    (Q : Except PyExc Bool → World σ → List Effect → Prop) :
    wpE (installPackages pm l : Py σ Bool) Q w ↔
      Q (.ok true) w (aptUpdate pm ++ ((installCommand pm l).map Effect.run).toList) := by
  unfold installPackages aptUpdate
  cases hc : installCommand pm l <;> split_ifs <;> simp

theorem installSystemDependencies_wpE (w : World DependencyInstaller) :
    wpE (installSystemDependencies h) (fun r w' e =>
      w' = { w with stdin := w'.stdin } ∧ ConanFree e ∧ (∀ b, r = .ok b → b = true) ∧
      (∀ ex, r = .error ex → ex.interrupts = true ∧ w.obj.interactive = true) ∧
      (w.obj.interactive = false → w' = w ∧ r = .ok true ∧
        ∀ pm, w.obj.packageManager = some pm → systemPackages pm ≠ [] →
          ∃ cmd, installCommand pm (systemPackageList h w.env pm) = some cmd ∧
            e = aptUpdate pm ++ [.run cmd])) w := by
  simp only [installSystemDependencies, wpE_obj_bind]
  cases hpm : w.obj.packageManager with
  | none => simp
  | some pm =>
    simp only [wpE_ite, wpE_pure, wpE_pure_bind]
    refine ⟨fun hs => by simp only [List.isEmpty_iff] at hs; simp [hs], fun hs => ?_⟩
    refine wpE_seq _ (withTbb_wpE h w pm) ?_
    rintro r w₁ e ⟨hw₁, rfl, rfl⟩
    subst w₁
    simp only [Except.ok.injEq, forall_eq', reduceCtorEq, IsEmpty.forall_iff, implies_true, and_true,
      List.nil_append]
    refine wpE_seq _ (askYesNo_wpE true w.obj.interactive w) ?_
    rintro r w₂ e ⟨rfl, hw₂, hni, hx⟩
    obtain ⟨ins, rfl⟩ : ∃ ins, w₂ = { w with stdin := ins } := ⟨_, hw₂⟩
    refine ⟨fun b hb => ?_, fun ex hex => ⟨rfl, by simp, ?_, ?_, ?_⟩⟩
    rotate_left
    · rintro _ ⟨⟩
    · rintro _ ⟨⟩
      exact hx ex hex
    · intro hi
      simp [(hni hi).2] at hex
    subst hb
    have hs' : systemPackages pm ≠ [] := by simpa [List.isEmpty_iff] using hs
    obtain ⟨cmd, hc⟩ := Option.isSome_iff_exists.1 (installCommand_isSome hs' (systemPackageList h w.env pm))
    cases b
    · have hint : w.obj.interactive = true := by
        by_contra hf
        simpa using (hni (by simpa using hf)).2
      simp [hint]
    · simp only [wpE_ite, wpE_pure_bind, wpE_installPackages, hc, Bool.not_true, Bool.false_eq_true, if_false]
      refine ⟨trivial, by simp [aptUpdate, not_isConanInstall, not_isConanInstall_installCommand hc], by simp, by simp,
        fun hi => ⟨(hni hi).1, trivial, ?_⟩⟩
      rintro _ ⟨⟩ _
      exact ⟨cmd, hc, by simp⟩

theorem installSystem_wpE (w : World DependencyInstaller) : wpE (installSystem h) (fun r w' e =>
    w' = { w with stdin := w'.stdin } ∧ ConanFree e ∧
    (∀ ex, r = .error ex → ex.interrupts = true ∧ w.obj.interactive = true) ∧
    (w.obj.interactive = false → w' = w ∧ r = .ok () ∧
      (w.obj.args.useSystem = true → w.obj.args.useConan = false →
        ∀ pm, w.obj.packageManager = some pm → systemPackages pm ≠ [] →
          ∃ cmd, installCommand pm (systemPackageList h w.env pm) = some cmd ∧
            e = aptUpdate pm ++ [.run cmd]))) w := by
  simp only [installSystem, wpE_obj_bind]
  split_ifs with hm
  · refine wpE_seq _ (installSystemDependencies_wpE h w) ?_
    rintro r w' e ⟨hw, he, -, hx, hni⟩
    refine ⟨fun _ _ => ?_, fun ex hex => ⟨hw, he, fun _ h' => by cases h'; exact hx ex hex,
      fun hi => by simp [(hni hi).2.1] at hex⟩⟩
    simp only [wpE_pure, List.append_nil]
    refine ⟨hw, he, fun _ h' => (nomatch h'), fun hi => ⟨(hni hi).1, trivial, fun _ _ pm hpm hs => ?_⟩⟩
    exact (hni hi).2.2 pm hpm hs
  · simp only [wpE_pure]
    refine ⟨trivial, by simp, fun _ h' => (nomatch h'), fun _ => ⟨trivial, trivial, fun hs hc => ?_⟩⟩
    simp [hs, hc] at hm

theorem installSystem_of_useConan (w : World DependencyInstaller) (hc : w.obj.args.useConan = true)
    (Q : Except PyExc Unit → World DependencyInstaller → List Effect → Prop) :
    wpE (installSystem h) Q w ↔ Q (.ok ()) w [] := by
  simp [installSystem, hc]

end InstallDeps
end HeliosBuild
