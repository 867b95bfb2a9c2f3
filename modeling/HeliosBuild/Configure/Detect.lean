import HeliosBuild.Configure.Config

/-!
# Host probing in `configure.py`

The detectors of `CompilerDetector` and `BuildSystemSelector`: which
compilers, generators and Visual Studio installations the host offers.  They
ask `shutil.which`, look for files at fixed installation paths and run
`vswhere.exe`.  `_setup_clang_cl_path`, which `detect_clang` calls on
Windows, also puts a directory holding `clang-cl.exe` in front of `PATH`.

Paths are written with `/` between components.
-/

namespace HeliosBuild
namespace Configure

variable {σ : Type}

/-- `os.pathsep`. -/
def pathSep (h : Host) : String := if h.isWindows then ";" else ":"

/-- `os.environ.get(k, default)`. -/
def environGet (h : Host) (env : Env) (k default : String) : String :=
  (env.get? (environKey h.isWindows k)).getD default

/-- `os.environ["PATH"] = dir + os.pathsep + os.environ["PATH"]`. -/
def prependPath (h : Host) (dir : String) : Py σ Unit := do
  let w ← Py.world
  match w.env.get? (environKey h.isWindows "PATH") with
  | none => Py.raise (.keyError "PATH")
  | some p =>
      Py.modify fun w =>
        { w with env := w.env.set (environKey h.isWindows "PATH") (dir ++ pathSep h ++ p) }

def pathParts (s : String) : List String :=
  (PyStr.splitBy (fun c => c = '/' || c = '\\') s).filter (· ≠ "")

namespace CompilerDetector

def vsPaths : List String :=
  ["C:/Program Files/Microsoft Visual Studio/2022/Community",
   "C:/Program Files/Microsoft Visual Studio/2022/Professional",
   "C:/Program Files/Microsoft Visual Studio/2022/Enterprise",
   "C:/Program Files (x86)/Microsoft Visual Studio/2019/Community",
   "C:/Program Files (x86)/Microsoft Visual Studio/2019/Professional",
   "C:/Program Files (x86)/Microsoft Visual Studio/2019/Enterprise"]

def llvmPaths : List String :=
  ["C:/Program Files/LLVM/bin", "C:/Program Files (x86)/LLVM/bin"]

def clangClDirs (h : Host) : List String :=
  ((vsPaths.filter h.fileExists).flatMap fun vs =>
    [vs ++ "/VC/Tools/Llvm/x64/bin", vs ++ "/VC/Tools/Llvm/bin"]) ++ llvmPaths

def addClangClDir (h : Host) : List String → Py σ Bool
  | [] => pure false
  | d :: rest => do
      if h.fileExists (d ++ "/clang-cl.exe") then
        prependPath h d
        if ← Py.checkCommand h "clang-cl" then
          return true
      addClangClDir h rest

/-- `CompilerDetector._setup_clang_cl_path`. -/
def setupClangClPath (h : Host) : Py σ Bool := do
  if !h.isWindows then
    return true
  if ← Py.checkCommand h "clang-cl" then
    return true
  addClangClDir h (clangClDirs h)

def vswhereArgs (exe : String) : List String :=
  [exe, "-latest", "-products", "*", "-requires",
   "Microsoft.VisualStudio.Component.VC.Tools.x86.x64", "-property", "installationPath"]

/-- `Path(base) / "Microsoft Visual Studio" / "Installer" / "vswhere.exe"`. -/
def installerPath (base : String) : String :=
  base ++ "/Microsoft Visual Studio/Installer/vswhere.exe"

def vsVersionOf (vsPath : String) : Option String :=
  (pathParts vsPath).find? fun part => part = "2022" || part = "2019" || part = "2017"

/-- `CompilerDetector.detect_msvc`. -/
def detectMsvc (h : Host) : Py σ (Bool × Option String) := do
  if !h.isWindows then
    return (false, none)
  let w ← Py.world
  let vswhere := installerPath (environGet h w.env "ProgramFiles(x86)" "C:\\Program Files (x86)")
  if h.fileExists vswhere then
    Py.runCmd (vswhereArgs vswhere)
    if let some out := h.vswhere vswhere then
      let vsPath := PyStr.strip out
      if vsPath ≠ "" && h.fileExists (vsPath ++ "/VC/Auxiliary/Build/vcvarsall.bat") then
        return (true, vsVersionOf vsPath)
  if ← Py.checkCommand h "cl" then
    return (true, none)
  return (false, none)

/-- `CompilerDetector.detect_gcc`. -/
def detectGcc (h : Host) : Py σ Bool := do
  if ← Py.checkCommand h "gcc" then Py.checkCommand h "g++" else return false

/-- `check_command("clang") and check_command("clang++")`. -/
def plainClang (h : Host) : Py σ Bool := do
  if ← Py.checkCommand h "clang" then Py.checkCommand h "clang++" else return false

def detectClang (h : Host) : Py σ (Bool × Option String) := do
  if h.isWindows then
    let mut hasClangCl ← Py.checkCommand h "clang-cl"
    if !hasClangCl then
      let _ ← setupClangClPath h
      hasClangCl ← Py.checkCommand h "clang-cl"
    let hasClang ← plainClang h
    if hasClangCl && hasClang then
      return (true, some "clang-cl")
    else if hasClangCl then
      return (true, some "clang-cl")
    else if hasClang then
      return (true, some "clang")
    return (false, none)
  else
    if ← plainClang h then
      return (true, some "clang")
    return (false, none)

end CompilerDetector

namespace BuildSystemSelector

def detectNinja (h : Host) : Py σ Bool := Py.checkCommand h "ninja"

def detectMake (h : Host) : Py σ Bool := do
  if ← Py.checkCommand h "make" then return true else Py.checkCommand h "mingw32-make"

def detectMsbuild (h : Host) : Py σ (Bool × Option String) := do
  if !h.isWindows then
    return (false, none)
  let (hasMsvc, vsVersion) ← CompilerDetector.detectMsvc h
  if !hasMsvc then
    return (false, none)
  match vsVersion with
  | some "2022" => return (true, some "Visual Studio 17 2022")
  | some "2019" => return (true, some "Visual Studio 16 2019")
  | some "2017" => return (true, some "Visual Studio 15 2017")
  | _ =>
      if ← Py.checkCommand h "msbuild" then
        return (true, some "Visual Studio 17 2022")
      return (false, none)

end BuildSystemSelector

/-!
# What the detectors do to the world

Every detector leaves the world as it found it, except that on Windows
`detect_clang` may put an LLVM directory in front of `PATH`.  What they report
is what `shutil.which` answers in the environment they end in.
-/

section Specs

open Py CompilerDetector BuildSystemSelector

variable (h : Host) (w : World σ)

theorem prependPath_wp (d : String) :
    wp (prependPath h d : Py σ Unit) (fun _ w' => ∃ env, w' = { w with env := env }) w := by
  simp only [prependPath, wp_bind, wp_world]
  split <;> simp

theorem addClangClDir_wp (ds : List String) :
    wp (addClangClDir h ds) (fun _ w' => ∃ env, w' = { w with env := env }) w := by
  induction ds generalizing w with
  | nil => simp [addClangClDir]
  | cons d rest ih =>
    simp only [addClangClDir, wp_bind, wp_ite, wp_pure, wp_checkCommand]
    refine ⟨fun _ => (prependPath_wp h w d).mono ?_, fun _ => ih w⟩
    rintro _ _ ⟨env, rfl⟩
    exact ⟨fun _ => ⟨env, rfl⟩, fun _ => (ih _).mono fun _ _ ⟨env', hw⟩ => ⟨env', hw⟩⟩

theorem setupClangClPath_wp :
    wp (setupClangClPath h : Py σ Bool) (fun _ w' => ∃ env, w' = { w with env := env }) w := by
  simp only [setupClangClPath, wp_bind, wp_ite, wp_pure, wp_checkCommand]
  exact ⟨fun _ => ⟨w.env, rfl⟩, fun _ => ⟨fun _ => ⟨w.env, rfl⟩, fun _ => addClangClDir_wp h w _⟩⟩

theorem detectMsvc_wp : wp (detectMsvc h) (fun _ w' => w' = w) w := by
  simp only [detectMsvc, wp_bind, wp_world, wp_ite, wp_pure, wp_runCmd, wp_checkCommand]
  split <;> simp

theorem detectGcc_wp :
    wp (detectGcc h) (fun r w' => w' = w ∧ r = (h.which w.env "gcc" && h.which w.env "g++")) w := by
  simp only [detectGcc, wp_bind, wp_checkCommand]
  split <;> simp_all

theorem plainClang_wp :
    wp (plainClang h) (fun r w' => w' = w ∧ r = (h.which w.env "clang" && h.which w.env "clang++"))
      w := by
  simp only [plainClang, wp_bind, wp_checkCommand]
  split <;> simp_all

theorem detectClang_wp : wp (detectClang h) (fun r w' =>
    (∃ env, w' = { w with env := env }) ∧ (h.isWindows = false → w' = w) ∧
    ((r = (true, some "clang-cl") ∧ h.isWindows = true ∧ h.which w'.env "clang-cl" = true) ∨
      (r = (true, some "clang") ∧ h.which w'.env "clang" = true ∧ h.which w'.env "clang++" = true) ∨
      r = (false, none))) w := by
  simp only [detectClang, plainClang, wp_bind, wp_ite, wp_pure, wp_checkCommand]
  refine ⟨fun hwin => ⟨fun _ => (setupClangClPath_wp h w).mono ?_, fun _ => ?_⟩, fun hwin => ?_⟩
  · rintro _ _ ⟨env, rfl⟩
    simp_all
  · simp_all
  · simp_all

theorem detectNinja_wp : wp (detectNinja h) (fun r w' => w' = w ∧ r = h.which w.env "ninja") w := by
  simp [detectNinja]

theorem detectMake_wp :
    wp (detectMake h) (fun r w' => w' = w ∧ r = (h.which w.env "make" || h.which w.env "mingw32-make"))
      w := by
  simp only [detectMake, wp_bind, wp_checkCommand]
  split <;> simp_all

theorem detectMsbuild_wp : wp (detectMsbuild h) (fun r w' => w' = w ∧
    (r.1 = true → (∃ v, (detectMsvc h w).result = .ok (true, v)) ∧
      r.2 ∈ [some "Visual Studio 17 2022", some "Visual Studio 16 2019",
        some "Visual Studio 15 2017"])) w := by
  simp only [detectMsbuild, wp_bind, wp_ite, wp_pure, wp_checkCommand]
  refine ⟨fun _ => by simp, fun _ => (wp.and (wp_result _) (detectMsvc_wp h w)).mono ?_⟩
  rintro ⟨found, v⟩ _ ⟨⟨hres, -⟩, rfl⟩
  cases found
  · simp
  · simp only [Bool.not_true, wp_ite]
    split <;> simp_all

end Specs

/-!
# Frames of every run

The results above are about the runs that return.  The frame conditions below
hold of every run, the ones that raise included: each detector but
`detect_clang` leaves the world as it is, and `detect_clang` changes at most
the binding of `PATH`.
-/

structure PathFrame (h : Host) (w w' : World σ) : Prop where
  rest : w' = { w with env := w'.env }
  env : ∀ k, k ≠ environKey h.isWindows "PATH" → w'.env.get? k = w.env.get? k

namespace PathFrame

variable {h : Host}

theorem refl (w : World σ) : PathFrame h w w := ⟨rfl, fun _ _ => rfl⟩

theorem trans {w₁ w₂ w₃ : World σ} (h₁ : PathFrame h w₁ w₂) (h₂ : PathFrame h w₂ w₃) :
    PathFrame h w₁ w₃ where
  rest := by rw [h₂.rest, h₁.rest]
  env k hk := (h₂.env k hk).trans (h₁.env k hk)

end PathFrame

section Frames

open Py CompilerDetector BuildSystemSelector

variable (h : Host)

theorem keeps_prependPath (d : String) : Keeps (PathFrame h) (prependPath h d : Py σ Unit) := by
  refine Keeps.bind (R := PathFrame h) PathFrame.trans (Keeps.of_state PathFrame.refl fun _ => rfl)
    fun _ => ?_
  split
  · exact Keeps.of_state PathFrame.refl fun _ => rfl
  · intro w
    refine ⟨rfl, fun k hk => ?_⟩
    show (w.env.set _ _).get? k = _
    rw [StrDict.get?_set, if_neg hk]

theorem keeps_detectMsvc : Keeps (· = ·) (detectMsvc h : Py σ (Bool × Option String)) := by
  unfold detectMsvc
  repeat' first
    | with_reducible apply Keeps.ite
    | with_reducible apply Keeps.eq_bind
    | split
    | exact Keeps.eq_of_state fun _ => rfl
    | intro

theorem keeps_detectGcc : Keeps (· = ·) (detectGcc h : Py σ Bool) :=
  Keeps.eq_bind (Keeps.eq_of_state fun _ => rfl) fun _ =>
    Keeps.ite (Keeps.eq_of_state fun _ => rfl) (Keeps.eq_of_state fun _ => rfl)

theorem keeps_plainClang : Keeps (· = ·) (plainClang h : Py σ Bool) :=
  Keeps.eq_bind (Keeps.eq_of_state fun _ => rfl) fun _ =>
    Keeps.ite (Keeps.eq_of_state fun _ => rfl) (Keeps.eq_of_state fun _ => rfl)

theorem keeps_detectNinja : Keeps (· = ·) (detectNinja h : Py σ Bool) :=
  Keeps.eq_of_state fun _ => rfl

theorem keeps_detectMake : Keeps (· = ·) (detectMake h : Py σ Bool) :=
  Keeps.eq_bind (Keeps.eq_of_state fun _ => rfl) fun _ =>
    Keeps.ite (Keeps.eq_of_state fun _ => rfl) (Keeps.eq_of_state fun _ => rfl)

theorem keeps_detectMsbuild : Keeps (· = ·) (detectMsbuild h : Py σ (Bool × Option String)) := by
  unfold detectMsbuild
  repeat' first
    | with_reducible exact keeps_detectMsvc h
    | with_reducible apply Keeps.ite
    | with_reducible apply Keeps.eq_bind
    | split
    | exact Keeps.eq_of_state fun _ => rfl
    | intro

theorem keeps_addClangClDir (ds : List String) :
    Keeps (PathFrame h) (addClangClDir h ds : Py σ Bool) := by
  induction ds with
  | nil => exact Keeps.of_state PathFrame.refl fun _ => rfl
  | cons d rest ih =>
    unfold addClangClDir
    repeat' first
      | with_reducible exact ih
      | with_reducible exact keeps_prependPath h d
      | with_reducible apply Keeps.ite
      | with_reducible apply Keeps.bind (R := PathFrame h) PathFrame.trans
      | exact Keeps.of_state PathFrame.refl fun _ => rfl
      | intro

theorem keeps_setupClangClPath : Keeps (PathFrame h) (setupClangClPath h : Py σ Bool) := by
  unfold setupClangClPath
  repeat' first
    | with_reducible exact keeps_addClangClDir h _
    | with_reducible apply Keeps.ite
    | with_reducible apply Keeps.bind (R := PathFrame h) PathFrame.trans
    | exact Keeps.of_state PathFrame.refl fun _ => rfl
    | intro

theorem keeps_detectClang : Keeps (PathFrame h) (detectClang h : Py σ (Bool × Option String)) := by
  unfold detectClang
  repeat' first
    | with_reducible exact Keeps.of_eq PathFrame.refl (keeps_plainClang h)
    | with_reducible exact keeps_setupClangClPath h
    | with_reducible apply Keeps.ite
    | with_reducible apply Keeps.bind (R := PathFrame h) PathFrame.trans
    | exact Keeps.of_state PathFrame.refl fun _ => rfl
    | intro

theorem keeps_detectClang_of_not_windows (hw : h.isWindows = false) :
    Keeps (· = ·) (detectClang h : Py σ (Bool × Option String)) := by
  unfold detectClang
  rw [if_neg (by simp [hw])]
  repeat' first
    | with_reducible exact keeps_plainClang h
    | with_reducible apply Keeps.ite
    | with_reducible apply Keeps.eq_bind
    | exact Keeps.eq_of_state fun _ => rfl
    | intro

theorem detectClang_state_of_resolves (w : World σ) (hc : h.which w.env "clang-cl" = true) :
    (detectClang h w).state = w := by
  cases hw : h.isWindows
  · exact (keeps_detectClang_of_not_windows h hw w).symm
  · have hcl : (checkCommand h "clang-cl" w).result = .ok true := by simp [checkCommand, hc]
    unfold detectClang
    rw [if_pos hw, (Py.bind_ok hcl).2.1, if_neg (by decide)]
    refine Eq.symm ((show Keeps (· = ·) _ from ?_) w)
    repeat' first
      | with_reducible exact keeps_plainClang h
      | with_reducible apply Keeps.ite
      | with_reducible apply Keeps.eq_bind
      | exact Keeps.eq_of_state fun _ => rfl
      | intro

end Frames

end Configure
end HeliosBuild
