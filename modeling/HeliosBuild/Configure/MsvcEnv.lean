import HeliosBuild.Configure.Detect

/-!
# Importing the Visual Studio environment

`CompilerDetector.setup_msvc_environment` makes `cl.exe` (or, for
`clang-cl`, `mt.exe`) resolvable for a Ninja build with an MSVC-compatible
compiler: it finds a Visual Studio installation, runs its developer script
followed by `set`, and copies every `NAME=VALUE` line of the output into
`os.environ`.  The same import loop, into a copy of the environment, serves
the Conan environment script of `CMakeBuilder.configure`.
-/

namespace HeliosBuild
namespace Configure

variable {σ : Type}

/-- `os.environ[key] = value`; `putenv` refuses an empty name. -/
def environSet (h : Host) (key value : String) : Py σ Unit :=
  if key = "" then Py.raise .valueError
  else Py.modify fun w => { w with env := w.env.set (environKey h.isWindows key) value }

/-- The loop importing `<script> && set` output into `os.environ`. -/
def importEnviron (h : Host) : List String → Py σ Unit
  | [] => pure ()
  | line :: rest => do
      if PyStr.contains line "=" then
        let (key, value) := PyStr.partition line '='
        environSet h key value
      importEnviron h rest

/-- The same loop into a plain dictionary, such as `os.environ.copy()`. -/
def importDict (d : StrDict) : List String → StrDict
  | [] => d
  | line :: rest =>
      if PyStr.contains line "=" then
        let (key, value) := PyStr.partition line '='
        importDict (d.set key value) rest
      else importDict d rest

/-!
# The import as an overlay

Read back by name, the environment an import loop leaves is the old one with
the captured assignments laid over it: a name takes the text after the first
`=` of the last line assigning it, and every other name keeps its binding.
The loop into `os.environ` stores names as the platform compares them; a
plain dictionary stores them as they are written.
-/

/-- The body of the import loops for one line, storing the name as `norm` makes it. -/
def importLine (norm : String → String) (d : StrDict) (line : String) : StrDict :=
  if PyStr.contains line "=" then d.set (norm (PyStr.partition line '=').1) (PyStr.partition line '=').2
  else d

/-- The value the captured lines give the name `k` when names are compared after `norm`: the text after the first `=` of the last line assigning it. -/
def lastAssign (norm : String → String) (k : String) : List String → Option String
  | [] => none
  | line :: rest =>
      (lastAssign norm k rest).or
        (if PyStr.contains line "=" ∧ norm k = norm (PyStr.partition line '=').1 then
          some (PyStr.partition line '=').2 else none)

section Overlay

variable (norm : String → String)

theorem importDict_eq_foldl (d : StrDict) (out : List String) :
    importDict d out = out.foldl (importLine id) d := by
  induction out generalizing d with
  | nil => rfl
  | cons line rest ih =>
    by_cases hc : PyStr.contains line "=" <;> simp [importDict, importLine, hc, ih]

theorem get?_foldl_importLine (out : List String) (d : StrDict) (k : String) :
    (out.foldl (importLine norm) d).get? (norm k) = (lastAssign norm k out).or (d.get? (norm k)) := by
  induction out generalizing d with
  | nil => rfl
  | cons line rest ih =>
    rw [List.foldl_cons, ih, lastAssign, importLine]
    by_cases hc : PyStr.contains line "=" = true
    · rw [if_pos hc, StrDict.get?_set]
      by_cases hk : norm k = norm (PyStr.partition line '=').1 <;>
        cases lastAssign norm k rest <;> simp [hc, hk]
    · simp [hc]

theorem nodup_foldl_importLine (out : List String) {d : StrDict} (hd : (d.map Prod.fst).Nodup) :
    ((out.foldl (importLine norm) d).map Prod.fst).Nodup := by
  induction out generalizing d with
  | nil => exact hd
  | cons line rest ih =>
    refine ih ?_
    unfold importLine
    split
    · exact StrDict.nodup_set hd _ _
    · exact hd

end Overlay

/-- What `os.environ` holds: each name once, stored in the form the platform compares names in. -/
def EnvironKeys (windows : Bool) (env : Env) : Prop :=
  (env.map Prod.fst).Nodup ∧ ∀ q ∈ env.map Prod.fst, environKey windows q = q

instance (windows : Bool) (env : Env) : Decidable (EnvironKeys windows env) := by
  unfold EnvironKeys; infer_instance

theorem environKeys_foldl_importLine (windows : Bool) (out : List String) {env : Env}
    (he : EnvironKeys windows env) :
    EnvironKeys windows (out.foldl (importLine (environKey windows)) env) := by
  induction out generalizing env with
  | nil => exact he
  | cons line rest ih =>
    refine ih ⟨(nodup_foldl_importLine _ [line] he.1), fun q hq => ?_⟩
    simp only [List.foldl, importLine] at hq
    split at hq
    · rw [StrDict.map_fst_set] at hq
      split at hq
      · exact he.2 q hq
      · rcases List.mem_append.1 hq with hq | hq
        · exact he.2 q hq
        · rw [List.mem_singleton.1 hq, environKey_environKey]
    · exact he.2 q hq

/-- The developer scripts looked for under a Visual Studio installation. -/
def vcvarsCandidates (vsPath : String) : List String :=
  [vsPath ++ "/VC/Auxiliary/Build/vcvarsall.bat", vsPath ++ "/Common7/Tools/VsDevCmd.bat",
   vsPath ++ "/Common7/Tools/vcvars64.bat"]

def vcvarsCommand (vcvars : String) : String :=
  if PyStr.startswith (PyStr.lower ((pathParts vcvars).getLast?.getD "")) "vsdevcmd" then
    "\"" ++ vcvars ++ "\" && set"
  else "\"" ++ vcvars ++ "\" amd64 && set"

namespace CompilerDetector

def toolsReady (h : Host) (c : BuildConfig) : Cfg Bool := do
  if c.compiler = some "clang-cl" then
    return (← Py.checkCommand h "mt") || (← Py.checkCommand h "mt.exe")
  else
    Py.checkCommand h "cl"

def findVsPath (h : Host) : Py σ String := do
  let w ← Py.world
  let primary := installerPath (environGet h w.env "ProgramFiles(x86)" "C:\\Program Files (x86)")
  let fallback := installerPath (environGet h w.env "ProgramFiles" "C:\\Program Files")
  let vswhere := if !h.fileExists primary && h.fileExists fallback then fallback else primary
  let mut vsPath := ""
  if h.fileExists vswhere then
    Py.runCmd (vswhereArgs vswhere)
    vsPath := ((h.vswhere vswhere).map PyStr.strip).getD ""
  if vsPath = "" then
    vsPath := (vsPaths.find? h.fileExists).getD ""
  return vsPath

def importDeveloperEnv (h : Host) (c : BuildConfig) (vsPath : String) : Cfg Bool := do
  match (vcvarsCandidates vsPath).find? h.fileExists with
  | none => return false
  | some vcvars =>
    let cmd := vcvarsCommand vcvars
    Py.shellCmd cmd
    match h.shell cmd with
    | none => return false
    | some out =>
      importEnviron h out
      toolsReady h c

/-- `CompilerDetector.setup_msvc_environment`. -/
def setupMsvcEnvironment (h : Host) : Cfg Bool := do
  if !h.isWindows then
    return true
  let c ← config
  if truthy c.buildSystem && !PyStr.contains (pyFormat c.buildSystem) "Ninja" then
    return true
  if !(c.compiler = some "msvc" || c.compiler = some "cl" || c.compiler = some "clang-cl") then
    return true
  if ← toolsReady h c then
    return true
  let vsPath ← findVsPath h
  if vsPath = "" then
    return false
  importDeveloperEnv h c vsPath

end CompilerDetector

/-!
# What the bootstrap changes

Setting up the Visual Studio environment changes `os.environ` and nothing
else of the world: it leaves it as it was, or as the import loop leaves it
over what one shell command printed.  It returns `True` at once where the
platform, the generator or the compiler needs no Visual Studio environment,
or where the tools it checks for already resolve.  Its final check is the same
test, on the environment the import leaves, so a call that returned `True`
leaves a world on which the next call takes that fast path.
-/

def toolsResolve (h : Host) (c : BuildConfig) (env : Env) : Bool :=
  if c.compiler = some "clang-cl" then h.which env "mt" || h.which env "mt.exe" else h.which env "cl"

def MsvcFastPath (h : Host) (w : World BuildConfig) : Prop :=
  h.isWindows = false ∨
    (truthy w.obj.buildSystem && !PyStr.contains (pyFormat w.obj.buildSystem) "Ninja") = true ∨
    (w.obj.compiler = some "msvc" || w.obj.compiler = some "cl" || w.obj.compiler = some "clang-cl") = false ∨
    toolsResolve h w.obj w.env = true

section Specs

open Py CompilerDetector

variable (h : Host)

theorem importEnviron_foldl (out : List String) (w : World σ) :
    wp (importEnviron h out)
      (fun _ w' => w' = { w with env := out.foldl (importLine (environKey h.isWindows)) w.env }) w := by
  induction out generalizing w with
  | nil => simp [importEnviron]
  | cons line rest ih =>
    simp only [importEnviron, environSet, wp_bind, wp_ite, wp_pure, wp_modify]
    refine ⟨fun hc => ⟨fun _ => wp_raise _, fun _ => ?_⟩, fun hc => ?_⟩
    · simpa [importLine, hc] using ih _
    · simpa [importLine, hc] using ih w

theorem CompilerDetector.toolsReady_apply (c : BuildConfig) (w : World BuildConfig) :
    toolsReady h c w = (pure (toolsResolve h c w.env) : Cfg Bool) w := by
  unfold toolsReady toolsResolve
  split <;> rfl

@[simp] theorem CompilerDetector.wp_toolsReady (c : BuildConfig) (w : World BuildConfig)
    (Q : Bool → World BuildConfig → Prop) : wp (toolsReady h c) Q w ↔ Q (toolsResolve h c w.env) w := by
  unfold wp
  rw [toolsReady_apply]
  exact wp_pure _

theorem CompilerDetector.findVsPath_wp (w : World σ) : wp (findVsPath h) (fun _ w' => w' = w) w := by
  simp only [findVsPath, wp_bind, wp_world, wp_ite, wp_pure, wp_runCmd]
  simp

theorem CompilerDetector.importDeveloperEnv_spec (c : BuildConfig) (vsPath : String)
    (w : World BuildConfig) :
    wp (importDeveloperEnv h c vsPath) (fun r w' => (r = true → toolsResolve h c w'.env = true) ∧
      (w' = w ∨ ∃ cmd out, h.shell cmd = some out ∧
        w' = { w with env := out.foldl (importLine (environKey h.isWindows)) w.env })) w := by
  simp only [importDeveloperEnv]
  split
  · simp
  · simp only [wp_bind, wp_shellCmd]
    split
    · simp
    · rename_i out hout
      simp only [wp_bind, wp_toolsReady]
      exact (importEnviron_foldl h _ w).mono fun _ _ hw => ⟨id, Or.inr ⟨_, out, hout, hw⟩⟩

theorem CompilerDetector.setupMsvcEnvironment_spec (w : World BuildConfig) :
    wp (setupMsvcEnvironment h) (fun r w' => (r = true → MsvcFastPath h w') ∧
      (w' = w ∨ ∃ cmd out, h.shell cmd = some out ∧
        w' = { w with env := out.foldl (importLine (environKey h.isWindows)) w.env })) w := by
  simp only [setupMsvcEnvironment, wp_bind, wp_ite, wp_pure, wp_config, wp_toolsReady]
  refine ⟨fun hw => ⟨fun _ => Or.inl (by simpa using hw), Or.inl trivial⟩,
    fun _ => ⟨fun hb => ⟨fun _ => Or.inr (Or.inl hb), Or.inl trivial⟩,
      fun _ => ⟨fun hc => ⟨fun _ => Or.inr (Or.inr (Or.inl (by simpa using hc))), Or.inl trivial⟩,
        fun _ => ⟨fun ht => ⟨fun _ => Or.inr (Or.inr (Or.inr ht)), Or.inl trivial⟩,
          fun _ => (findVsPath_wp h w).mono ?_⟩⟩⟩⟩
  rintro _ w₁ rfl
  refine ⟨fun _ => by simp, fun _ => (importDeveloperEnv_spec h _ _ _).mono fun _ w' ⟨hr, hw'⟩ =>
    ⟨fun hrt => Or.inr (Or.inr (Or.inr ?_)), hw'⟩⟩
  rcases hw' with rfl | ⟨_, _, _, rfl⟩ <;> exact hr hrt

theorem CompilerDetector.setupMsvcEnvironment_wp (w : World BuildConfig) :
    wp (setupMsvcEnvironment h) (fun _ w' => ∃ env, w' = { w with env := env }) w :=
  (setupMsvcEnvironment_spec h w).mono fun _ _ ⟨_, hw⟩ =>
    hw.elim (fun hw => ⟨w.env, hw⟩) fun ⟨_, _, _, hw⟩ => ⟨_, hw⟩

theorem CompilerDetector.setupMsvcEnvironment_fast (w : World BuildConfig) (hf : MsvcFastPath h w) :
    setupMsvcEnvironment h w = (pure true : Cfg Bool) w := by
  cases hw : h.isWindows
  · simp [setupMsvcEnvironment, hw]
  simp only [MsvcFastPath, hw, Bool.true_eq_false, false_or, Bool.and_eq_true, Bool.not_eq_true',
    Bool.or_eq_false_iff, decide_eq_false_iff_not] at hf
  rcases hf with hf | hf | hf <;>
    simp [setupMsvcEnvironment, hw, hf, Py.bind_apply, Py.andThen, config, Py.obj, toolsReady_apply,
      Py.ite_apply]

theorem setupMsvcEnvironment_idempotent (w : World BuildConfig)
    (hr : (setupMsvcEnvironment h w).result = .ok true) :
    MsvcFastPath h (setupMsvcEnvironment h w).state ∧
      (setupMsvcEnvironment h (setupMsvcEnvironment h w).state).result = .ok true ∧
      (setupMsvcEnvironment h (setupMsvcEnvironment h w).state).state = (setupMsvcEnvironment h w).state ∧
      (setupMsvcEnvironment h (setupMsvcEnvironment h w).state).effects = [] := by
  have hf := (setupMsvcEnvironment_spec h w true hr).1 rfl
  rw [setupMsvcEnvironment_fast h _ hf]
  exact ⟨hf, rfl, rfl, rfl⟩

theorem setupMsvcEnvironment_idempotent_vs2022 :
    let vs := "C:/Program Files/Microsoft Visual Studio/2022/Community"
    let h : Host := { Host.ofTools .windows [] with
      which := fun env cmd => cmd = "cl" && env.get? "PATH" = some "C:\\VS\\bin"
      fileExists := fun p => p = vs || p = vs ++ "/VC/Auxiliary/Build/vcvarsall.bat"
      shell := fun _ => some ["PATH=C:\\VS\\bin", "INCLUDE=C:\\VS\\include"] }
    let w : World BuildConfig :=
      ⟨{ BuildConfig.init with compiler := some "msvc" }, [], ⟨[], by decide⟩, []⟩
    (setupMsvcEnvironment h w).result = .ok true ∧
      MsvcFastPath h (setupMsvcEnvironment h w).state ∧
      (setupMsvcEnvironment h (setupMsvcEnvironment h w).state).result = .ok true ∧
      (setupMsvcEnvironment h (setupMsvcEnvironment h w).state).state = (setupMsvcEnvironment h w).state ∧
      (setupMsvcEnvironment h (setupMsvcEnvironment h w).state).effects = [] :=
  ⟨by decide, setupMsvcEnvironment_idempotent _ _ (by decide)⟩

theorem importDict_overlay (d : StrDict) (out : List String) (hd : (d.map Prod.fst).Nodup) :
    ((importDict d out).map Prod.fst).Nodup ∧
      (∀ k, (importDict d out).get? k = (lastAssign id k out).or (d.get? k)) ∧
      ∀ k, (importDict (importDict d out) out).get? k = (importDict d out).get? k := by
  have hget : ∀ d k, (importDict d out).get? k = (lastAssign id k out).or (d.get? k) := fun d k => by
    rw [importDict_eq_foldl]
    exact get?_foldl_importLine id out d k
  refine ⟨by rw [importDict_eq_foldl]; exact nodup_foldl_importLine id out hd, hget d, fun k => ?_⟩
  rw [hget, hget, ← Option.or_assoc, Option.or_self]

theorem importDict_overlay_path :
    ([("PATH", "C:\\Windows")].map Prod.fst).Nodup ∧
    ((importDict [("PATH", "C:\\Windows")] ["INCLUDE=C:\\VS\\include", "PATH=C:\\VS\\bin;C:\\Windows"]).map
        Prod.fst).Nodup ∧
      (∀ k, (importDict [("PATH", "C:\\Windows")] ["INCLUDE=C:\\VS\\include", "PATH=C:\\VS\\bin;C:\\Windows"]).get? k =
        (lastAssign id k ["INCLUDE=C:\\VS\\include", "PATH=C:\\VS\\bin;C:\\Windows"]).or
          (StrDict.get? [("PATH", "C:\\Windows")] k)) ∧
      ∀ k, (importDict (importDict [("PATH", "C:\\Windows")] ["INCLUDE=C:\\VS\\include", "PATH=C:\\VS\\bin;C:\\Windows"])
          ["INCLUDE=C:\\VS\\include", "PATH=C:\\VS\\bin;C:\\Windows"]).get? k =
        (importDict [("PATH", "C:\\Windows")] ["INCLUDE=C:\\VS\\include", "PATH=C:\\VS\\bin;C:\\Windows"]).get? k :=
  ⟨by decide, importDict_overlay _ _ (by decide)⟩

theorem importEnviron_overlay (out : List String) (w : World σ) (hw : EnvironKeys h.isWindows w.env) :
    wp (importEnviron h out) (fun _ w' => w' = { w with env := w'.env } ∧ EnvironKeys h.isWindows w'.env ∧
      (∀ k, w'.env.get? (environKey h.isWindows k) =
        (lastAssign (environKey h.isWindows) k out).or (w.env.get? (environKey h.isWindows k))) ∧
      wp (importEnviron h out) (fun _ w'' => w'' = { w' with env := w''.env } ∧
        ∀ k, w''.env.get? (environKey h.isWindows k) = w'.env.get? (environKey h.isWindows k)) w') w := by
  refine (importEnviron_foldl h out w).mono fun _ w' hw' => ?_
  subst hw'
  refine ⟨rfl, environKeys_foldl_importLine _ _ hw, get?_foldl_importLine _ _ _, ?_⟩
  refine (importEnviron_foldl h out _).mono fun _ w'' hw'' => ?_
  subst hw''
  exact ⟨rfl, fun k => by simp only [get?_foldl_importLine, ← Option.or_assoc, Option.or_self]⟩

theorem importEnviron_overlay_windows :
    let w : World Unit := ⟨(), [("PATH", "C:\\Windows")], ⟨[], by decide⟩, []⟩
    EnvironKeys true w.env ∧
      wp (importEnviron (Host.ofTools .windows []) ["Path=C:\\VS\\bin;C:\\Windows"]) (fun _ w' =>
        w' = { w with env := w'.env } ∧ EnvironKeys true w'.env ∧
        (∀ k, w'.env.get? (environKey true k) =
          (lastAssign (environKey true) k ["Path=C:\\VS\\bin;C:\\Windows"]).or (w.env.get? (environKey true k))) ∧
        wp (importEnviron (Host.ofTools .windows []) ["Path=C:\\VS\\bin;C:\\Windows"]) (fun _ w'' =>
          w'' = { w' with env := w''.env } ∧
          ∀ k, w''.env.get? (environKey true k) = w'.env.get? (environKey true k)) w') w :=
  ⟨by decide, importEnviron_overlay (Host.ofTools .windows []) _ _ (by decide)⟩

end Specs

end Configure
end HeliosBuild
