import HeliosBuild.Tools.Format
import HeliosBuild.Python.Argparse

/-!
# `lint.py`

`main` parses its command line, checks that `clang-tidy` answers
`--version`, and resolves the build directory: `--build-dir`, or
`build/<type>/<platform>` below the project root.  It looks there for the
compilation database `compile_commands.json`, first in the directory, then in
four usual subdirectories, then up to three levels down.  It runs
`clang-tidy -p=<that directory>` on every C++ file `find_source_files` finds
under `src/` and `examples/`, and exits 1 when one of the runs failed.

The results characterise every run, show that the search for the
compilation database finds one exactly when there is one at most three
levels below the build directory, and that the files linted are the files
`format.py` formats by default, less those under `tests/`.  As there, the tree
has no permissions and the tool's output is taken to decode.
-/

namespace HeliosBuild
namespace Tools
namespace Lint

open Argparse

def parser : Parser where
  arguments :=
    [⟨["-h", "--help"], "help", .help⟩,
     ⟨["--fix"], "fix", .storeConst true⟩,
     ⟨["--platform"], "platform", .store none⟩,
     ⟨["--type"], "type", .store none⟩,
     ⟨["--build-dir"], "build_dir", .store none⟩]
  defaults := [("fix", .bool false), ("platform", .none), ("type", .none), ("build_dir", .none)]

structure Args where
  fix : Bool
  platform : Option String
  type : Option String
  buildDir : Option String
  deriving DecidableEq, Repr

def Args.ofNamespace (ns : Namespace) : Args where
  fix := ((ns.get "fix").optBool).getD false
  platform := (ns.get "platform").optStr
  type := (ns.get "type").optStr
  buildDir := (ns.get "build_dir").optStr

/-- `parser.parse_args()`. -/
def parseArguments (argv : List String) : Except ParseError Args :=
  (parse parser argv).map Args.ofNamespace

structure Uname where
  sysname : Option String
  sysPlatform : String

def autoPlatform (u : Uname) : String :=
  let uname := PyStr.lower (u.sysname.getD u.sysPlatform)
  if PyStr.startswith uname "linux" then "linux"
  else if PyStr.startswith uname "darwin" then "macos"
  else if PyStr.startswith u.sysPlatform "win" then "windows"
  else "unknown"

/-- `detect_platform(platform_arg)`. -/
def detectPlatform (u : Uname) : Option String → String
  | some p => if p ≠ "" then PyStr.lower p else autoPlatform u
  | none => autoPlatform u

/-- `args.type.lower() if args.type else "release"`. -/
def buildType : Option String → String
  | some t => if t ≠ "" then PyStr.lower t else "release"
  | none => "release"

def resolveBuildDir (root : List String) (u : Uname) (a : Args) : List String :=
  let default := joinPath (joinPath (joinPath root "build") (buildType a.type)) (detectPlatform u a.platform)
  normalize <| match a.buildDir with
    | some s => if s ≠ "" then joinPath root s else default
    | none => default

/-- `common_subdirs`. -/
def commonSubdirs : List String := ["build", "debug", "relwithdebinfo", "release"]

/-- `find_compile_commands(base_dir)`: the first directory, in the order the function tries them, that holds `compile_commands.json`; `none` where it raises `FileNotFoundError`. -/
def findCompileCommands (fs : Fs) (baseDir : List String) : Option (List String) :=
  if fs.pathExists (baseDir ++ ["compile_commands.json"]) then some baseDir
  else match commonSubdirs.find? fun s => fs.pathExists (baseDir ++ [s, "compile_commands.json"]) with
    | some s => some (baseDir ++ [s])
    | none => ((List.range 3).flatMap fun depth =>
        fs.globParents baseDir (depth + 1) "compile_commands.json").head?

/-- `check_clang_tidy()`. -/
def checkClangTidy (h : Host) (env : Env) : Tool Bool := checkTool h env "clang-tidy"

/-- `find_source_files` of `lint.py`. -/
def findSourceFiles (fl : Flavour) (fs : Fs) : List (List String) → List String → List (List String) →
    List (List String) :=
  Tools.findSourceFiles fl fs

def sourceDirs (root : List String) : List (List String) := [root ++ ["src"], root ++ ["examples"]]

/-- `extensions`. -/
def extensions : List String := ["cpp", "h", "hpp", "inl"]

def excludeDirs (root : List String) : List (List String) := [root ++ ["third-party"]]

def lintCommand (p buildDir : List String) (fix : Bool) : List String :=
  ["clang-tidy", "-p=" ++ pathStr buildDir, pathStr p] ++ if fix then ["--fix"] else []

def lintFile (h : Host) (p buildDir : List String) (fix : Bool) : Tool Bool := do
  let rc ← Tool.run h (lintCommand p buildDir fix)
  return rc = 0

def lintAll (h : Host) (buildDir : List String) (fix : Bool) (files : List (List String)) : Tool Bool :=
  files.foldlM (fun hasErrors p => do
    if !(← lintFile h p buildDir fix) then return true else return hasErrors) false

def lintIn (h : Host) (env : Env) (fs : Fs) (buildDir : List String) (fix : Bool) : Tool Int := do
  let root := projectRoot h
  if !(← checkClangTidy h env) then
    return 1
  match findCompileCommands fs buildDir with
  | none => return 1
  | some compileCommandsDir =>
    let sourceFiles := findSourceFiles (pathFlavour h) fs (sourceDirs root) extensions (excludeDirs root)
    if sourceFiles = [] then
      return 0
    let hasErrors ← lintAll h compileCommandsDir fix sourceFiles
    return if hasErrors then 1 else 0

def main (h : Host) (env : Env) (fs : Fs) (u : Uname) (argv : List String) : Tool Int :=
  match parseArguments argv with
  | .error e => Tool.raise (.py (parseExit e))
  | .ok a => lintIn h env fs (resolveBuildDir (projectRoot h) u a) a.fix

/-!
## What a run does
-/

def sourceFiles (fl : Flavour) (fs : Fs) (root : List String) : List (List String) :=
  findSourceFiles fl fs (sourceDirs root) extensions (excludeDirs root)

def versionCommand : List String := ["clang-tidy", "--version"]

theorem foldl_flag {α : Type} (P : α → Bool) (l : List α) (b : Bool) :
    l.foldl (fun b x => if P x then b else true) b = (b || l.any fun x => !P x) := by
  induction l generalizing b with
  | nil => simp
  | cons x rest ih =>
    rw [List.foldl_cons, ih]
    by_cases hx : P x <;> simp [hx]

theorem lintAll_eq (h : Host) (buildDir : List String) (fix : Bool) (files : List (List String)) :
    lintAll h buildDir fix files =
      ⟨.ok (files.any fun p => h.rc (lintCommand p buildDir fix) ≠ 0),
        files.map fun p => lintCommand p buildDir fix⟩ := by
  unfold lintAll
  rw [Tool.foldlM_eq (fun b p => if decide (h.rc (lintCommand p buildDir fix) = 0) then b else true)
    (fun p => [lintCommand p buildDir fix]) (fun b p => ?_), foldl_flag, ← List.map_eq_flatMap]
  · simp
  · by_cases hp : h.rc (lintCommand p buildDir fix) = 0 <;> simp [lintFile, hp]

theorem lintIn_eq (h : Host) (env : Env) (fs : Fs) (buildDir : List String) (fix : Bool) :
    lintIn h env fs buildDir fix =
      if h.which env "clang-tidy" then
        if h.rc versionCommand = 0 then
          match findCompileCommands fs buildDir with
          | none => ⟨.ok 1, [versionCommand]⟩
          | some dir =>
            ⟨.ok (if (sourceFiles (pathFlavour h) fs (projectRoot h)).all
                  (fun p => h.rc (lintCommand p dir fix) = 0) then 0 else 1),
              versionCommand :: (sourceFiles (pathFlavour h) fs (projectRoot h)).map (lintCommand · dir fix)⟩
        else ⟨.ok 1, [versionCommand]⟩
      else ⟨.ok 1, []⟩ := by
  unfold lintIn checkClangTidy versionCommand
  rw [checkTool_eq]
  by_cases hw : h.which env "clang-tidy" <;> simp only [hw, if_true, if_false, Bool.false_eq_true]
  · by_cases hv : h.rc ["clang-tidy", "--version"] = 0
    · cases hc : findCompileCommands fs buildDir with
      | none => simp [hv, hc]
      | some dir =>
        by_cases hf : sourceFiles (pathFlavour h) fs (projectRoot h) = []
        · simp_all [sourceFiles]
        · by_cases ha : ∀ p ∈ sourceFiles (pathFlavour h) fs (projectRoot h), h.rc (lintCommand p dir fix) = 0
          · simp_all [sourceFiles, lintAll_eq]
          · have hex : ∃ p ∈ sourceFiles (pathFlavour h) fs (projectRoot h), ¬ h.rc (lintCommand p dir fix) = 0 := by
              simpa using ha
            simp only [sourceFiles] at hex hf ha
            simp [sourceFiles, lintAll_eq, hf, hv, hc, hex, ha]
    · simp [hv]
  · rfl

theorem lintIn_runs_exit (h : Host) (env : Env) (fs : Fs) (buildDir : List String) (fix : Bool) :
    (lintIn h env fs buildDir fix).runs =
        (if h.which env "clang-tidy" then
          versionCommand ::
            match (if h.rc versionCommand = 0 then findCompileCommands fs buildDir else none) with
            | some dir => (sourceFiles (pathFlavour h) fs (projectRoot h)).map (lintCommand · dir fix)
            | none => []
        else []) ∧
      (∃ n, (lintIn h env fs buildDir fix).result = .ok n ∧ (n = 0 ∨ n = 1)) ∧
      ((lintIn h env fs buildDir fix).result = .ok 0 ↔
        h.which env "clang-tidy" = true ∧ h.rc versionCommand = 0 ∧
        ∃ dir, findCompileCommands fs buildDir = some dir ∧
          ∀ p ∈ sourceFiles (pathFlavour h) fs (projectRoot h), h.rc (lintCommand p dir fix) = 0) := by
  rw [lintIn_eq]
  by_cases hw : h.which env "clang-tidy"
  · by_cases hv : h.rc versionCommand = 0
    · cases hc : findCompileCommands fs buildDir with
      | none => simp [hw, hv, hc]
      | some dir =>
        by_cases ha : ∀ p ∈ sourceFiles (pathFlavour h) fs (projectRoot h), h.rc (lintCommand p dir fix) = 0
        · simpa [hw, hv, hc, ha] using Or.inl ha
        · simp [hw, hv, hc, ha]
    · simp [hw, hv]
  · simp [hw]

/-!
## The search for the compilation database
-/

theorem plain_commonSubdirs : ∀ s ∈ commonSubdirs, s ≠ ".." := by decide

theorem plain_compileCommands {base : List String} (hb : ∀ c ∈ base, c ≠ "..") (rel : List String)
    (hr : ∀ c ∈ rel, c ≠ "..") : ∀ c ∈ base ++ rel ++ ["compile_commands.json"], c ≠ ".." := by
  intro c hc
  simp only [List.mem_append, List.mem_singleton] at hc
  rcases hc with (hc | hc) | rfl
  exacts [hb c hc, hr c hc, by decide]

theorem findCompileCommands_sound (fs : Fs) {base : List String} (hb : ∀ c ∈ base, c ≠ "..")
    {dir : List String} (hd : findCompileCommands fs base = some dir) :
    ∃ rel, dir = base ++ rel ∧ rel.length ≤ 3 ∧ (fs.kind? (dir ++ ["compile_commands.json"])).isSome := by
  have hplain := plain_compileCommands hb
  unfold findCompileCommands at hd
  split_ifs at hd with h₁
  · cases hd
    have he := @Fs.pathExists_plain fs _ (hplain [] (by simp))
    rw [List.append_nil] at he
    exact ⟨[], by simp, by simp, he ▸ h₁⟩
  split at hd
  · next s hs =>
    cases hd
    have hsm := plain_commonSubdirs s (List.mem_of_find?_eq_some hs)
    refine ⟨[s], rfl, by simp, ?_⟩
    have := List.find?_some hs
    rw [Fs.pathExists_plain (by simpa using hplain [s] (by simpa using hsm))] at this
    simpa using this
  · obtain ⟨depth, hdep, hmem⟩ := List.mem_flatMap.1 (List.mem_of_mem_head? hd)
    by_cases hk : (fs.kind? base).isSome
    · rw [Fs.globParents_plain hb hk] at hmem
      obtain ⟨rel, hrel, rfl⟩ := List.mem_map.1 hmem
      obtain ⟨hrel, hk'⟩ := List.mem_filter.1 hrel
      obtain ⟨hl, -⟩ := Fs.length_of_mem_globDirs hrel
      exact ⟨rel, rfl, by simp at hdep; omega, by simpa using hk'⟩
    · simp [Fs.globParents_absent hb hk] at hmem

theorem findCompileCommands_isSome (fs : Fs) {base : List String} (hb : ∀ c ∈ base, c ≠ "..") :
    (findCompileCommands fs base).isSome ↔
      ∃ rel : List String, rel.length ≤ 3 ∧ (fs.kind? (base ++ rel ++ ["compile_commands.json"])).isSome := by
  constructor
  · intro hs
    obtain ⟨dir, hd⟩ := Option.isSome_iff_exists.1 hs
    obtain ⟨rel, rfl, hl, hk⟩ := findCompileCommands_sound fs hb hd
    exact ⟨rel, hl, hk⟩
  · rintro ⟨rel, hl, hk⟩
    have hplain := plain_compileCommands hb
    unfold findCompileCommands
    split_ifs with h₁
    · rfl
    split
    · rfl
    cases rel with
    | nil =>
      have he := @Fs.pathExists_plain fs _ (hplain [] (by simp))
      rw [List.append_nil] at he hk
      exact absurd (he ▸ hk) h₁
    | cons a rel' =>
      have hbase : (fs.kind? base).isSome := Fs.kind?_isSome_of_append (by simpa using hk)
      have hdirs : ∀ i, 0 < i → i ≤ (a :: rel').length →
          fs.kind? (base ++ (a :: rel').take i) = some .dir := fun i hi hil =>
        Fs.kind?_dir_of_append (q := (a :: rel').drop i ++ ["compile_commands.json"])
          (by rw [List.append_assoc, ← List.append_assoc ((a :: rel').take i), List.take_append_drop,
            ← List.append_assoc]; exact hk) (by simp)
      have hin : base ++ a :: rel' ∈ fs.globParents base (rel'.length + 1) "compile_commands.json" := by
        rw [Fs.globParents_plain hb hbase]
        exact List.mem_map.2 ⟨a :: rel', List.mem_filter.2 ⟨Fs.mem_globDirs hdirs, by simpa using hk⟩, rfl⟩
      have hne : (List.range 3).flatMap (fun depth =>
          fs.globParents base (depth + 1) "compile_commands.json") ≠ [] :=
        List.ne_nil_of_mem (List.mem_flatMap.2 ⟨rel'.length, List.mem_range.2 (by simp at hl; omega), hin⟩)
      exact List.head?_isSome.2 hne

theorem sourceDirs_eq (root : List String) :
    sourceDirs root = ["src", "examples"].map fun n => root ++ [n] := rfl

theorem sourceFiles_eq_format (h : Host) (fs : Fs) :
    sourceFiles (pathFlavour h) fs (projectRoot h) =
      (Format.sourceFiles (pathFlavour h) fs (projectRoot h) []).filter
        fun p => !(projectRoot h ++ ["tests"]).isPrefixOf p := by
  -- what `rglob` finds below one source directory, less the excluded files
  let part := fun d => if fs.pathExists d then Format.extensions.flatMap fun ext =>
    (fs.rglob (pathFlavour h) d ("." ++ ext)).filter
      fun p => !excluded (pathFlavour h) (Format.excludeDirs (projectRoot h)) p else []
  have hbelow : ∀ d, ∀ x ∈ part d, d <+: x := fun d x hx => by
    simp only [part] at hx
    split at hx
    · obtain ⟨ext, -, hx⟩ := List.mem_flatMap.1 hx
      exact Fs.prefix_of_mem_rglob (List.mem_filter.1 hx).1
    · simp at hx
  have hkeep : ∀ n, n ≠ "tests" → (part (projectRoot h ++ [n])).filter
      (fun p => !(projectRoot h ++ ["tests"]).isPrefixOf p) = part (projectRoot h ++ [n]) := fun n hn =>
    List.filter_eq_self.2 fun x hx => by
      obtain ⟨r, rfl⟩ := hbelow _ x hx
      have : ¬ (projectRoot h ++ ["tests"]) <+: projectRoot h ++ [n] ++ r := fun hp => by
        rw [List.append_assoc, List.prefix_append_right_inj] at hp
        exact hn (List.cons_prefix_cons.1 hp).1.symm
      simpa only [Bool.not_eq_true'] using Bool.eq_false_iff.2 (mt List.isPrefixOf_iff_prefix.1 this)
  have hdrop : (part (projectRoot h ++ ["tests"])).filter
      (fun p => !(projectRoot h ++ ["tests"]).isPrefixOf p) = [] :=
    List.filter_eq_nil_iff.2 fun x hx => by simp [List.isPrefixOf_iff_prefix.2 (hbelow _ x hx)]
  simp only [part] at hkeep hdrop
  rw [sourceFiles, findSourceFiles, findSourceFiles_eq, Format.sourceFiles, if_pos rfl,
    Format.findSourceFiles, findSourceFiles_eq, ← sortPaths_filter]
  congr 1
  simp only [collectSources, sourceDirs, Format.sourceDirs, List.flatMap_cons, List.flatMap_nil,
    List.append_nil, List.filter_append, show extensions = Format.extensions from rfl,
    show excludeDirs = Format.excludeDirs from rfl]
  rw [hkeep "src" (by decide), hdrop, hkeep "examples" (by decide), List.nil_append]

end Lint
end Tools
end HeliosBuild
