import HeliosBuild.Tools.Paths
import HeliosBuild.InstallDeps.Installer

/-!
# `conanfile.py`

The Conan recipe of the engine.  Conan calls its methods: `set_version`
reads the version from `project(... VERSION x.y.z` in `CMakeLists.txt`,
`config_options` and `configure` drop `fPIC` where it does not apply,
`requirements` lists the packages, `validate` rejects configurations, and
`generate` hands the options to CMake.  Conan itself is not modelled: each
method is a function of the settings and options it reads.

The results show that every version `set_version` sets has the form
`N.N.N`, that `validate` accepts exactly the settings that are not GCC on
Windows and whose `cppstd` `int()` reads as at least 23 (so also `98`, while
`gnu23` makes it raise `ValueError`), and that it accepts the `cppstd` that
`install_deps.py` passes to `conan install`, on every platform but GCC on
Windows.
-/

namespace HeliosBuild
namespace HeliosEngineConan

/-!
## Settings and options
-/

structure Settings where
  os : String
  compiler : String
  cppstd : Option String
  deriving DecidableEq, Repr

structure Options where
  shared : Bool
  fPIC : Option Bool
  coreOnly : Bool
  withTests : Bool
  withExamples : Bool
  enableProfiling : Bool
  enableLto : Bool
  enableUnityBuild : Bool
  deriving DecidableEq, Repr

/-- `default_options` for the recipe's own options. -/
def defaultOptions : Options where
  shared := false
  fPIC := some true
  coreOnly := false
  withTests := false
  withExamples := false
  enableProfiling := false
  enableLto := true
  enableUnityBuild := false

/-- `config_options()`: no `fPIC` on Windows. -/
def configOptions (s : Settings) (o : Options) : Options :=
  if s.os = "Windows" then { o with fPIC := none } else o

/-- `configure()`: no `fPIC` for a shared library. -/
def configure (o : Options) : Options :=
  if o.shared then { o with fPIC := none } else o

/-- `export_sources()`: the patterns copied from the recipe folder. -/
def exportSources (o : Options) : List String :=
  ["CMakeLists.txt", "cmake/*", "src/*", "third-party/*"] ++
    (if o.withTests then ["tests/*"] else []) ++ (if o.withExamples then ["examples/*"] else [])

/-!
## `set_version`

`re.search(r"project\([^)]*VERSION\s+(\d+\.\d+\.\d+)", content)`.  On a
`str` pattern `\d` is any Unicode decimal digit (category Nd), the digits
`int()` reads; `\s` is `str.isspace`.
-/

/-- `\d+\.\d+\.\d+` at the start of `cs`: the text it matches. -/
def versionAt (cs : List Char) : Option (List Char) :=
  let a := cs.takeWhile Unicode.isDecimal
  match cs.drop a.length with
  | '.' :: r =>
    let b := r.takeWhile Unicode.isDecimal
    match r.drop b.length with
    | '.' :: r' =>
      let c := r'.takeWhile Unicode.isDecimal
      if a ≠ [] ∧ b ≠ [] ∧ c ≠ [] then some (a ++ '.' :: b ++ '.' :: c) else none
    | _ => none
  | _ => none

/-- `VERSION\s+(\d+\.\d+\.\d+)` at the start of `cs`: the group. -/
def versionClause (cs : List Char) : Option (List Char) :=
  if "VERSION".toList.isPrefixOf cs then
    let ws := (cs.drop 7).takeWhile PyStr.isSpace
    if ws = [] then none else versionAt ((cs.drop 7).drop ws.length)
  else none

def matchProject (cs : List Char) : Option (List Char) :=
  if "project(".toList.isPrefixOf cs then
    let body := cs.drop 8
    ((List.range ((body.takeWhile (· ≠ ')')).length + 1)).reverse.filterMap fun j =>
      versionClause (body.drop j)).head?
  else none

/-- `re.search(...)`: the group of the leftmost match. -/
def searchVersion : List Char → Option (List Char)
  | [] => none
  | c :: rest =>
    match matchProject (c :: rest) with
    | some v => some v
    | none => searchVersion rest

/-- `set_version()`, from the text of `CMakeLists.txt` in the recipe folder, `none` where that file does not exist. -/
def setVersion (cmakeLists : Option String) : String :=
  match cmakeLists with
  | some content =>
    match searchVersion content.toList with
    | some v => ⟨v⟩
    | none => "0.1.0"
  | none => "0.1.0"

def IsVersion (v : String) : Prop :=
  match PyStr.splitBy (· == '.') v with
  | [a, b, c] => ∀ p ∈ [a, b, c], p ≠ "" ∧ ∀ x ∈ p.toList, Unicode.isDecimal x
  | _ => False

instance : DecidablePred IsVersion := fun v => by
  unfold IsVersion
  split <;> infer_instance

theorem isVersion_append {a b c : List Char} (ha : a ≠ [] ∧ ∀ x ∈ a, Unicode.isDecimal x)
    (hb : b ≠ [] ∧ ∀ x ∈ b, Unicode.isDecimal x) (hc : c ≠ [] ∧ ∀ x ∈ c, Unicode.isDecimal x) :
    IsVersion ⟨a ++ '.' :: b ++ '.' :: c⟩ := by
  have hdot : Unicode.isDecimal '.' = false := by decide
  have hnd : ∀ l : List Char, (∀ x ∈ l, Unicode.isDecimal x) → ∀ x ∈ l, (x == '.') = false :=
    fun l hl x hx => beq_eq_false_iff_ne.2 fun he => by
      subst he
      exact absurd (hl _ hx) (by rw [hdot]; decide)
  have hsplit : PyStr.splitBy (· == '.') ⟨a ++ '.' :: b ++ '.' :: c⟩ = [⟨a⟩, ⟨b⟩, ⟨c⟩] := by
    simp only [PyStr.splitBy, String.toList, List.append_assoc, List.cons_append]
    rw [Tools.splitCharsBy_append_sep (p := (· == '.')) (c := '.') rfl,
      Tools.splitCharsBy_append_sep (p := (· == '.')) (c := '.') rfl,
      Tools.splitCharsBy_of_forall (hnd a ha.2), Tools.splitCharsBy_of_forall (hnd b hb.2),
      Tools.splitCharsBy_of_forall (hnd c hc.2)]
    rfl
  unfold IsVersion
  rw [hsplit]
  simp only [List.mem_cons, List.not_mem_nil, or_false]
  rintro p (rfl | rfl | rfl)
  exacts [⟨by simpa [String.ext_iff] using ha.1, ha.2⟩, ⟨by simpa [String.ext_iff] using hb.1, hb.2⟩,
    ⟨by simpa [String.ext_iff] using hc.1, hc.2⟩]

theorem isVersion_of_versionAt {cs v : List Char} (h : versionAt cs = some v) : IsVersion ⟨v⟩ := by
  dsimp only [versionAt] at h
  split at h
  · split at h
    · split_ifs at h with hne
      cases h
      exact isVersion_append ⟨hne.1, fun x hx => List.mem_takeWhile_imp hx⟩
        ⟨hne.2.1, fun x hx => List.mem_takeWhile_imp hx⟩ ⟨hne.2.2, fun x hx => List.mem_takeWhile_imp hx⟩
    · cases h
  · cases h

theorem isVersion_of_searchVersion {cs v : List Char} (h : searchVersion cs = some v) :
    IsVersion ⟨v⟩ := by
  induction cs with
  | nil => cases h
  | cons c rest ih =>
    unfold searchVersion at h
    split at h
    · rename_i hm
      cases h
      unfold matchProject at hm
      split_ifs at hm
      obtain ⟨j, hj, hv⟩ := List.mem_filterMap.1 (List.mem_of_mem_head? hm)
      dsimp only [versionClause] at hv
      split_ifs at hv
      exact isVersion_of_versionAt hv
    · exact ih h

example : setVersion (some "project(Helios VERSION 0.4.2 LANGUAGES CXX)") = "0.4.2" ∧
    setVersion (some "project(Helios VERSION 0.4.2 DESCRIPTION \"VERSION 1.0.0\")") = "1.0.0" := by
  decide

example : setVersion (some "project(Helios VERSION ٠.٤.٢)") = "٠.٤.٢" := by decide

/-!
## Requirements, validation and generation
-/

structure Requirement where
  ref : String
  transitiveHeaders : Bool
  deriving DecidableEq, Repr

def Requirement.name (r : Requirement) : String := PyStr.beforeFirst r.ref '/'

def requirements (o : Options) : List Requirement :=
  [⟨"boost/[>=1.82 <2]", true⟩, ⟨"spdlog/[>=1.14 <2]", true⟩, ⟨"stduuid/[>=1.2 <2]", false⟩,
    ⟨"concurrentqueue/[>=1.0 <2]", false⟩, ⟨"taskflow/[>=3.10 <3.11]", true⟩] ++
    if o.withTests then [⟨"doctest/[>=2.4 <3]", false⟩] else []

inductive ValidateError
  | invalidConfiguration (msg : String)
  | valueError
  deriving DecidableEq, Repr

def validate (s : Settings) : Except ValidateError Unit := do
  if s.os = "Windows" ∧ s.compiler = "gcc" then
    throw (.invalidConfiguration "GCC is not supported on Windows for Helios Engine")
  if let some v := s.cppstd then
    if v ≠ "" then
      match PyStr.toInt v with
      | none => throw .valueError
      | some n =>
        if n < 23 then throw (.invalidConfiguration "Helios Engine requires C++23 or higher")
  pure ()

theorem validate_outcomes (s : Settings) :
    (validate s = .ok () ↔ ¬ (s.os = "Windows" ∧ s.compiler = "gcc") ∧
      ∀ v ∈ s.cppstd, v ≠ "" → ∃ n, PyStr.toInt v = some n ∧ 23 ≤ n) ∧
    (validate s = .error .valueError ↔ ¬ (s.os = "Windows" ∧ s.compiler = "gcc") ∧
      ∃ v ∈ s.cppstd, v ≠ "" ∧ PyStr.toInt v = none) := by
  obtain ⟨os, compiler, cppstd⟩ := s
  by_cases hw : os = "Windows" ∧ compiler = "gcc"
  · simp [validate, hw, throw, throwThe, MonadExceptOf.throw]
  · cases cppstd with
    | none => simp [validate, hw, pure, Except.pure]
    | some v =>
      by_cases hv : v = ""
      · simp [validate, hw, hv, pure, Except.pure]
      · cases hn : PyStr.toInt v with
        | none => simp [validate, hw, hv, hn, throw, throwThe, MonadExceptOf.throw]
        | some n =>
          by_cases h23 : n < 23
          · simp [validate, hw, hv, hn, h23, throw, throwThe, MonadExceptOf.throw]
          · simp [validate, hw, hv, hn, h23, pure, Except.pure]
            omega

example : validate ⟨"Linux", "gcc", some "98"⟩ = .ok () ∧
    validate ⟨"Linux", "gcc", some "gnu23"⟩ = .error .valueError := by decide

/-!
## The settings `install_deps.py` hands to the recipe

`install_deps.py` runs `conan install` with `-s compiler.cppstd=23`; Conan
reads the `-s` arguments of its command line over the profile's settings and
hands them to `validate`.  Conan is not modelled beyond that reading.
-/

/-- The `key=value` arguments of `-s` on a `conan install` command line, in order: `-s` and the
other options the command uses (`-c`, `-pr`, `--output-folder`) take the next argument as their
value, and anything else stands alone. -/
def cliSettings : List String → List String
  | "-s" :: kv :: rest => kv :: cliSettings rest
  | o :: v :: rest =>
    if o = "-c" ∨ o = "-pr" ∨ o = "--output-folder" then cliSettings rest else cliSettings (v :: rest)
  | _ => []

/-- The value the command line gives the setting `key`: its last `-s key=value`. -/
def settingValue (key : String) (argv : List String) : Option String :=
  ((cliSettings argv).reverse.find? fun kv => PyStr.startswith kv (key ++ "=")).map
    fun kv => ⟨kv.toList.drop (key.length + 1)⟩

theorem cliSettings_pair {o v : String} (rest : List String) (ho : o = "-c" ∨ o = "-pr" ∨ o = "--output-folder") :
    cliSettings (o :: v :: rest) = cliSettings rest := by
  rcases ho with rfl | rfl | rfl <;> simp [cliSettings]

theorem cliSettings_single {o : String} (rest : List String) (ho : o ∉ ["-s", "-c", "-pr", "--output-folder"]) :
    cliSettings (o :: rest) = cliSettings rest := by
  simp only [List.mem_cons, List.not_mem_nil, or_false, not_or] at ho
  cases rest with
  | nil => simp [cliSettings]
  | cons v rest => simp [cliSettings, ho]

theorem cliSettings_profileArgs (selected : Option String) (profile : String) (rest : List String) :
    cliSettings (InstallDeps.profileArgs selected profile ++ rest) = cliSettings rest := by
  unfold InstallDeps.profileArgs
  split_ifs <;> simp [cliSettings_pair]

theorem cliSettings_conanInstallCmd (h : Host) (buildType generator : String) (profile : List String)
    (clangCl : Bool) (hroot : h.projectRoot ∉ ["-s", "-c", "-pr", "--output-folder"])
    (hprofile : ∀ rest, cliSettings (profile ++ rest) = cliSettings rest) :
    cliSettings (InstallDeps.DependencyInstaller.conanInstallCmd h buildType generator profile clangCl) =
      ["build_type=" ++ buildType, "compiler.cppstd=23"] := by
  unfold InstallDeps.DependencyInstaller.conanInstallCmd
  have hgen : ∀ rest, cliSettings ((if generator ≠ "" then
      ["-c", "tools.cmake.cmaketoolchain:generator=" ++ generator] else []) ++ rest) = cliSettings rest := by
    intro rest
    split_ifs <;> simp [cliSettings_pair]
  have hcl : ∀ rest, cliSettings ((if clangCl then InstallDeps.clangClConfs else []) ++ rest) =
      cliSettings rest := by
    intro rest
    split_ifs <;> simp [InstallDeps.clangClConfs, cliSettings_pair]
  simp only [List.cons_append, List.append_assoc]
  rw [cliSettings_single _ (by decide), cliSettings_single _ (by decide), cliSettings_single _ hroot]
  simp only [cliSettings, List.cons.injEq, true_and]
  rw [List.nil_append, hgen, hprofile, hcl, cliSettings_pair _ (by decide)]
  simp [cliSettings]

def generate (o : Options) : List (String × Bool) :=
  [("HELIOS_BUILD_CORE_ONLY", o.coreOnly), ("HELIOS_BUILD_TESTS", o.withTests),
   ("HELIOS_BUILD_EXAMPLES", o.withExamples), ("HELIOS_ENABLE_PROFILING", o.enableProfiling),
   ("HELIOS_ENABLE_LTO", o.enableLto), ("HELIOS_ENABLE_UNITY_BUILD", o.enableUnityBuild),
   ("HELIOS_USE_CONAN", true)]

def packageId (o : Options) : Bool × Option Bool × Bool × Bool × Bool × Bool :=
  (o.shared, o.fPIC, o.coreOnly, o.enableProfiling, o.enableLto, o.enableUnityBuild)

def systemLibs (s : Settings) : List String :=
  if s.os = "Linux" then ["pthread", "dl", "m"]
  else if s.os = "Windows" then ["dbghelp", "ole32", "shell32"]
  else []

end HeliosEngineConan
end HeliosBuild
