import HeliosBuild.Tools.Shared

/-!
# `format.py`

`main` checks that `clang-format` answers `--version`, then takes the files
to format.  These are the source files among the paths of the command line,
or, when there are none, every C++ file `find_source_files` finds under
`src/`, `tests/` and `examples/`.  It runs `clang-format` on each file, with
`--dry-run --Werror` under `--check` and with `-i` otherwise, and exits 1
when one of the runs failed.

The results say which files a run formats and with which commands, when it
exits 0, and that the order in which directories list their entries changes
nothing (on Windows, where the tree has no two entries equal up to case).
They also show that the paths given by hand never reach a file under
`third-party/` unless an absolute path holds a `..`.  With paths that yield no
file, `main` does not warn and return 0: the warning reads `source_dirs`,
which only the default branch assigns, and raises `NameError`.  The tree has
no permissions and `clang-format`'s output is taken to decode, so
`PermissionError` and `UnicodeDecodeError` are not among a run's exceptions.
-/

namespace HeliosBuild
namespace Tools
namespace Format

/-- `extensions`. -/
def extensions : List String := ["cpp", "h", "hpp", "inl"]

/-- `exclude_dirs`. -/
def excludeDirs (root : List String) : List (List String) := [root ++ ["third-party"]]

def sourceDirs (root : List String) : List (List String) :=
  [root ++ ["src"], root ++ ["tests"], root ++ ["examples"]]

/-- `check_clang_format()`. -/
def checkClangFormat (h : Host) (env : Env) : Tool Bool := checkTool h env "clang-format"

/-- `find_source_files` of `format.py`. -/
def findSourceFiles (fl : Flavour) (fs : Fs) : List (List String) → List String → List (List String) →
    List (List String) :=
  Tools.findSourceFiles fl fs

def formatCommand (p : List String) (checkOnly : Bool) : List String :=
  if checkOnly then ["clang-format", "-style=file", "--dry-run", "--Werror", pathStr p]
  else ["clang-format", "-style=file", "-i", pathStr p]

/-- `format_file(file_path, check_only)`: `True` when `clang-format` returns 0. -/
def formatFile (h : Host) (p : List String) (checkOnly : Bool) : Tool Bool := do
  let rc ← Tool.run h (formatCommand p checkOnly)
  return rc = 0

/-- `path.suffix[1:]`: what follows the last `.` of the name, when that dot is neither the first nor the last character of the name. -/
def suffixExt (p : List String) : String :=
  let name := (p.getLast?.getD "").toList
  let after := (name.reverse.takeWhile (· ≠ '.')).length
  if 0 < after ∧ after + 1 < name.length then ⟨name.drop (name.length - after)⟩ else ""

example : suffixExt ["src", "a.tar.cpp"] = "cpp" ∧ suffixExt ["src", ".cpp"] = "" ∧
    suffixExt ["src", "Makefile"] = "" := by decide

def argPath (root : List String) (s : String) : List String :=
  if (parsePath s).1 then (parsePath s).2 else normalize (root ++ (parsePath s).2)

/-- `sorted(set(source_files))` after the loop over the paths of the command line. -/
def collectPaths (fl : Flavour) (fs : Fs) (root : List String) (paths : List String) : List (List String) :=
  sortPaths fl <| uniquePaths fl <| paths.foldl (fun sourceFiles s =>
    let path := argPath root s
    if !fs.pathExists path then sourceFiles
    else if fs.isFile path then
      if suffixExt path ∈ extensions ∧ !excluded fl (excludeDirs root) path then sourceFiles ++ [path]
      else sourceFiles
    else if fs.isDir path then sourceFiles ++ findSourceFiles fl fs [path] extensions (excludeDirs root)
    else sourceFiles) []

def formatAll (h : Host) (checkOnly : Bool) (files : List (List String)) : Tool (List (List String)) :=
  files.foldlM (fun failed p => do
    if !(← formatFile h p checkOnly) then return failed ++ [p] else return failed) []

/-- `main()`, from the parsed `--check` and `paths`. -/
def main (h : Host) (env : Env) (fs : Fs) (check : Bool) (paths : List String) : Tool Int := do
  let root := projectRoot h
  let fl := pathFlavour h
  if !(← checkClangFormat h env) then
    return 1
  let (sourceFiles, sourceDirs?) :=
    if paths ≠ [] then (collectPaths fl fs root paths, none)
    else (findSourceFiles fl fs (sourceDirs root) extensions (excludeDirs root), some (sourceDirs root))
  if sourceFiles = [] then
    match sourceDirs? with
    | none => Tool.raise (.nameError "source_dirs")
    | some _ => return 0
  let failed ← formatAll h check sourceFiles
  return if failed = [] then 0 else 1

/-!
## What a run does
-/

def sourceFiles (fl : Flavour) (fs : Fs) (root : List String) (paths : List String) : List (List String) :=
  if paths = [] then findSourceFiles fl fs (sourceDirs root) extensions (excludeDirs root)
  else collectPaths fl fs root paths

/-- `clang-format --version`. -/
def versionCommand : List String := ["clang-format", "--version"]

theorem formatAll_eq (h : Host) (checkOnly : Bool) (files : List (List String)) :
    formatAll h checkOnly files =
      ⟨.ok (files.filter fun p => h.rc (formatCommand p checkOnly) ≠ 0),
        files.map fun p => formatCommand p checkOnly⟩ := by
  unfold formatAll
  rw [Tool.foldlM_eq (fun failed p =>
      if decide (h.rc (formatCommand p checkOnly) = 0) then failed else failed ++ [p])
    (fun p => [formatCommand p checkOnly]) (fun failed p => ?_), foldl_append_unless,
    ← List.map_eq_flatMap]
  · simp
  · by_cases hp : h.rc (formatCommand p checkOnly) = 0 <;> simp [formatFile, hp]

theorem main_eq (h : Host) (env : Env) (fs : Fs) (check : Bool) (paths : List String) :
    main h env fs check paths =
      if h.which env "clang-format" then
        if h.rc versionCommand = 0 then
          if sourceFiles (pathFlavour h) fs (projectRoot h) paths = [] then
            ⟨if paths = [] then .ok 0 else .error (.nameError "source_dirs"), [versionCommand]⟩
          else
            ⟨.ok (if (sourceFiles (pathFlavour h) fs (projectRoot h) paths).all
                  (fun p => h.rc (formatCommand p check) = 0) then 0 else 1),
              versionCommand :: (sourceFiles (pathFlavour h) fs (projectRoot h) paths).map (formatCommand · check)⟩
        else ⟨.ok 1, [versionCommand]⟩
      else ⟨.ok 1, []⟩ := by
  unfold main checkClangFormat
  rw [checkTool_eq]
  by_cases hw : h.which env "clang-format" <;> simp only [hw, if_true, if_false, Bool.false_eq_true]
  · by_cases hv : h.rc versionCommand = 0
    · by_cases hp : paths = [] <;> by_cases hf : sourceFiles (pathFlavour h) fs (projectRoot h) paths = [] <;>
        simp_all [sourceFiles, versionCommand, formatAll_eq]
    · simp_all [versionCommand]
  · rfl

theorem main_runs_exit (h : Host) (env : Env) (fs : Fs) (check : Bool) (paths : List String) :
    (main h env fs check paths).runs =
        (if h.which env "clang-format" then
          versionCommand :: if h.rc versionCommand = 0 then
            (sourceFiles (pathFlavour h) fs (projectRoot h) paths).map (formatCommand · check) else []
        else []) ∧
      (∀ n, (main h env fs check paths).result = .ok n → n = 0 ∨ n = 1) ∧
      ((main h env fs check paths).result = .ok 0 ↔
        h.which env "clang-format" = true ∧ h.rc versionCommand = 0 ∧
          (sourceFiles (pathFlavour h) fs (projectRoot h) paths = [] → paths = []) ∧
          ∀ p ∈ sourceFiles (pathFlavour h) fs (projectRoot h) paths, h.rc (formatCommand p check) = 0) := by
  rw [main_eq]
  by_cases hw : h.which env "clang-format"
  · by_cases hv : h.rc versionCommand = 0
    · by_cases hf : sourceFiles (pathFlavour h) fs (projectRoot h) paths = []
      · by_cases hp : paths = []
        · subst hp; simp [hw, hv, hf]
        · simp [hw, hv, hf, hp]
      · by_cases ha : ∀ p ∈ sourceFiles (pathFlavour h) fs (projectRoot h) paths, h.rc (formatCommand p check) = 0
        · simpa [hw, hv, hf, ha] using Or.inl ha
        · simp [hw, hv, hf, ha]
    · simp [hw, hv]
  · simp [hw]

theorem main_raises_iff (h : Host) (env : Env) (fs : Fs) (check : Bool) (paths : List String)
    (e : ToolExc) :
    (main h env fs check paths).result = .error e ↔
      e = .nameError "source_dirs" ∧ h.which env "clang-format" = true ∧ h.rc versionCommand = 0 ∧
        paths ≠ [] ∧ collectPaths (pathFlavour h) fs (projectRoot h) paths = [] := by
  rw [main_eq]
  by_cases hw : h.which env "clang-format"
  · by_cases hv : h.rc versionCommand = 0
    · by_cases hf : sourceFiles (pathFlavour h) fs (projectRoot h) paths = []
      · by_cases hp : paths = []
        · subst hp; simp [hw, hv, hf]
        · have hc : collectPaths (pathFlavour h) fs (projectRoot h) paths = [] := by simpa [sourceFiles, hp] using hf
          simp [hw, hv, hf, hp, hc, eq_comm]
      · simp only [hw, hv, hf, if_true, if_false, reduceCtorEq, false_iff]
        exact fun ⟨_, _, _, hp, hc⟩ => hf (by simp [sourceFiles, hp, hc])
    · simp [hw, hv]
  · simp [hw]

example : (main (Host.ofTools .linux ["clang-format"]) [] ⟨[], by decide, by decide, by decide⟩ false
    ["missing.cpp"]).result = .error (.nameError "source_dirs") := by decide

/-!
## Which files a run takes
-/

theorem sourceDirs_eq (root : List String) :
    sourceDirs root = ["src", "tests", "examples"].map fun n => root ++ [n] := rfl

theorem plain_named {root : List String} (hr : ∀ c ∈ root, c ≠ "..") {names : List String}
    (hn : ∀ n ∈ names, n ≠ "..") : ∀ d ∈ names.map (fun n => root ++ [n]), ∀ c ∈ d, c ≠ ".." := by
  simp only [List.mem_map]
  rintro _ ⟨n, hnm, rfl⟩ c hc
  rcases List.mem_append.1 hc with hc | hc
  · exact hr c hc
  · exact (List.mem_singleton.1 hc) ▸ hn n hnm

theorem plain_sourceDirs {root : List String} (hr : ∀ c ∈ root, c ≠ "..") :
    ∀ d ∈ sourceDirs root, ∀ c ∈ d, c ≠ ".." :=
  sourceDirs_eq root ▸ @plain_named root hr ["src", "tests", "examples"] (by decide)

/-- Below `root/n`, no path begins with `root/m` for a name `m` that compares otherwise. -/
theorem not_prefix_of_below {fl : Flavour} {root x : List String} {n m : String}
    (hb : Fs.below (root ++ [n]) x = true) (hnm : fl.casefold n ≠ fl.casefold m) :
    ¬ fl.casefoldParts (root ++ [m]) <+: fl.casefoldParts x := fun hp => by
  obtain ⟨r, rfl⟩ := (Fs.below_iff.1 hb).1
  simp only [Flavour.casefoldParts_append, List.append_assoc, List.prefix_append_right_inj] at hp
  exact hnm (List.cons_prefix_cons.1 hp).1.symm

theorem apart_named {fl : Flavour} {root : List String} {n m : String} (h : fl.casefold n ≠ fl.casefold m) :
    Apart fl (root ++ [n]) (root ++ [m]) := by
  simp only [Apart, Flavour.casefoldParts_append, List.prefix_append_right_inj]
  exact ⟨fun hp => h (List.cons_prefix_cons.1 hp).1, fun hp => h (List.cons_prefix_cons.1 hp).1.symm⟩

theorem of_mem_findSourceFiles_named {fl : Flavour} {fs : Fs} {root : List String}
    (hr : ∀ c ∈ root, c ≠ "..") {names : List String} (hn : ∀ n ∈ names, n ≠ "..")
    {exts : List String} {excl : List (List String)} {x : List String}
    (hx : x ∈ Tools.findSourceFiles fl fs (names.map fun n => root ++ [n]) exts excl) :
    (∃ k, (x, k) ∈ fs.entries) ∧ (∃ n ∈ names, Fs.below (root ++ [n]) x = true) ∧
      ∃ ext ∈ exts, Fs.globTail fl ("." ++ ext) x = true := by
  obtain ⟨⟨d, hd, ext, he, hx⟩, -⟩ := mem_findSourceFiles.1 hx
  obtain ⟨n, hnm, rfl⟩ := List.mem_map.1 hd
  obtain ⟨hk, hb, ht⟩ := (Fs.mem_rglobAll_plain (plain_named hr hn _ hd)).1 (mem_of_mem_uniquePaths hx)
  exact ⟨hk, ⟨n, hnm, hb⟩, ext, he, ht⟩

/-- Every file the search looks for is found, or one that compares equal to it. -/
theorem exists_mem_findSourceFiles_named {fl : Flavour} {fs : Fs} {root : List String}
    (hr : ∀ c ∈ root, c ≠ "..") {names : List String}
    (hn : ∀ n ∈ names, n ≠ ".." ∧ fl.casefold n ≠ fl.casefold "third-party") {exts : List String}
    {x : List String} (hk : ∃ k, (x, k) ∈ fs.entries) (hb : ∃ n ∈ names, Fs.below (root ++ [n]) x = true)
    (ht : ∃ ext ∈ exts, Fs.globTail fl ("." ++ ext) x = true) :
    ∃ y ∈ Tools.findSourceFiles fl fs (names.map fun n => root ++ [n]) exts [root ++ ["third-party"]],
      fl.casefoldParts y = fl.casefoldParts x := by
  obtain ⟨n, hnm, hb⟩ := hb
  obtain ⟨ext, he, ht⟩ := ht
  have hplain := plain_named hr (fun n hn' => (hn n hn').1) _ (List.mem_map_of_mem _ hnm)
  obtain ⟨y, hy, hyx⟩ := @exists_mem_uniquePaths fl _ _ ((Fs.mem_rglobAll_plain hplain).2 ⟨hk, hb, ht⟩)
  have hby := ((Fs.mem_rglobAll_plain hplain).1 (mem_of_mem_uniquePaths hy)).2.1
  refine ⟨y, mem_findSourceFiles.2 ⟨⟨_, List.mem_map_of_mem _ hnm, ext, he, hy⟩, ?_⟩, hyx⟩
  simp only [excluded, List.any_cons, List.any_nil, Bool.or_false, relativeTo]
  exact Bool.eq_false_iff.2 (mt List.isPrefixOf_iff_prefix.1 (not_prefix_of_below hby (hn n hnm).2))

theorem nodup_default (h : Host) (fs : Fs) : (sourceFiles (pathFlavour h) fs (projectRoot h) []).Nodup :=
  nodup_findSourceFiles (plain_sourceDirs (dotdot_not_mem_projectRoot h))
    (by simp [sourceDirs, List.prefix_append_right_inj]) (by cases pathFlavour h <;> decide) _

/-- What the default branch looks for: the entries below `src/`, `tests/` and `examples/`
whose names match one of the extensions. -/
def DefaultSource (fl : Flavour) (fs : Fs) (root x : List String) : Prop :=
  (∃ k, (x, k) ∈ fs.entries) ∧ (∃ n ∈ ["src", "tests", "examples"], Fs.below (root ++ [n]) x = true) ∧
    ∃ ext ∈ extensions, Fs.globTail fl ("." ++ ext) x = true

theorem sourceFiles_default (h : Host) (fs : Fs) :
    (sourceFiles (pathFlavour h) fs (projectRoot h) []).Sorted (PathLe (pathFlavour h)) ∧
      (sourceFiles (pathFlavour h) fs (projectRoot h) []).Nodup ∧
      (∀ x ∈ sourceFiles (pathFlavour h) fs (projectRoot h) [],
        DefaultSource (pathFlavour h) fs (projectRoot h) x) ∧
      ∀ x, DefaultSource (pathFlavour h) fs (projectRoot h) x →
        ∃ y ∈ sourceFiles (pathFlavour h) fs (projectRoot h) [],
          (pathFlavour h).casefoldParts y = (pathFlavour h).casefoldParts x := by
  have hr := dotdot_not_mem_projectRoot h
  refine ⟨sorted_findSourceFiles _ _ _ _ _, nodup_default h fs, fun x hx => ?_,
    fun x ⟨hk, hb, ht⟩ => ?_⟩
  · exact of_mem_findSourceFiles_named hr (by decide) hx
  · exact exists_mem_findSourceFiles_named hr (by cases pathFlavour h <;> decide) hk hb ht

def pathFiles (fl : Flavour) (fs : Fs) (root : List String) (s : String) : List (List String) :=
  if !fs.pathExists (argPath root s) then []
  else if fs.isFile (argPath root s) then
    if suffixExt (argPath root s) ∈ extensions ∧ !excluded fl (excludeDirs root) (argPath root s) then
      [argPath root s]
    else []
  else if fs.isDir (argPath root s) then
    findSourceFiles fl fs [argPath root s] extensions (excludeDirs root)
  else []

theorem collectPaths_eq (fl : Flavour) (fs : Fs) (root : List String) (paths : List String) :
    collectPaths fl fs root paths = sortPaths fl (uniquePaths fl (paths.flatMap (pathFiles fl fs root))) := by
  unfold collectPaths
  rw [foldl_eq_append_flatMap (fun acc s => ?_), List.nil_append]
  unfold pathFiles
  by_cases h₁ : fs.pathExists (argPath root s) <;> by_cases h₂ : fs.isFile (argPath root s) <;>
    by_cases h₃ : fs.isDir (argPath root s) <;> simp [h₁, h₂, h₃] <;> split_ifs <;> simp

theorem plain_argPath (root : List String) {s : String}
    (hs : (parsePath s).1 = true → ∀ c ∈ (parsePath s).2, c ≠ "..") :
    ∀ c ∈ argPath root s, c ≠ ".." := by
  unfold argPath
  split
  · exact hs ‹_›
  · exact dotdot_not_mem_normalize _

theorem sourceFiles_outside_thirdParty (h : Host) (fs : Fs) (paths : List String)
    (hp : ∀ s ∈ paths, (parsePath s).1 = true → ∀ c ∈ (parsePath s).2, c ≠ "..") :
    ∀ x ∈ sourceFiles (pathFlavour h) fs (projectRoot h) paths,
      (∃ k, (x, k) ∈ fs.entries) ∧ ¬ (projectRoot h ++ ["third-party"]) <+: x := by
  have hfound : ∀ dirs, (∀ d ∈ dirs, ∀ c ∈ d, c ≠ "..") →
      ∀ x ∈ findSourceFiles (pathFlavour h) fs dirs extensions (excludeDirs (projectRoot h)),
        (∃ k, (x, k) ∈ fs.entries) ∧ ¬ (projectRoot h ++ ["third-party"]) <+: x := fun dirs hdirs x hx =>
    (entry_of_mem_findSourceFiles hdirs hx).imp_right not_prefix_of_excluded
  intro x hx
  unfold sourceFiles at hx
  split_ifs at hx with hnil
  · exact hfound _ (plain_sourceDirs (dotdot_not_mem_projectRoot h)) x hx
  rw [collectPaths_eq, mem_sortPaths] at hx
  obtain ⟨s, hs, hx⟩ := List.mem_flatMap.1 (mem_of_mem_uniquePaths hx)
  have hplain := plain_argPath (projectRoot h) (hp s hs)
  unfold pathFiles at hx
  split_ifs at hx with h₁ h₂ h₃ h₄
  · simp at hx
  · -- a file named on the command line
    obtain rfl := List.mem_singleton.1 hx
    have hw := Fs.walk_of_pathExists hplain (by simpa using h₁)
    exact ⟨⟨.file, Fs.entry_of_isFile hw h₂⟩, not_prefix_of_excluded (by simpa using h₃.2)⟩
  · simp at hx
  · exact hfound _ (by simpa using hplain) x hx
  · simp at hx

theorem sourceFiles_outside_thirdParty_src :
    (∀ s ∈ ["src", "/src/helios/tests"], (parsePath s).1 = true → ∀ c ∈ (parsePath s).2, c ≠ "..") ∧
      ∀ x ∈ sourceFiles (pathFlavour (Host.ofTools .linux [])) ⟨[], by decide, by decide, by decide⟩
          (projectRoot (Host.ofTools .linux [])) ["src", "/src/helios/tests"],
        (∃ k, (x, k) ∈ (⟨[], by decide, by decide, by decide⟩ : Fs).entries) ∧
          ¬ (projectRoot (Host.ofTools .linux []) ++ ["third-party"]) <+: x :=
  ⟨by decide, sourceFiles_outside_thirdParty _ _ _ (by decide)⟩

theorem pathFiles_congr {fl : Flavour} {fs fs' : Fs} (hfs : fs.entries.Perm fs'.entries) (hd : fs.Distinct fl)
    (root : List String) (s : String) : pathFiles fl fs root s = pathFiles fl fs' root s := by
  have hk : fs.kind? = fs'.kind? := funext (Fs.kind?_congr hfs)
  have hw : fs.walk = fs'.walk := funext fun cur => funext (Fs.walk_congr hfs cur)
  simp only [pathFiles, Fs.pathExists, Fs.isFile, Fs.isDir, hk, hw, findSourceFiles,
    findSourceFiles_congr hfs hd (List.pairwise_singleton _ _)]

theorem main_congr {fs fs' : Fs} (hfs : fs.entries.Perm fs'.entries) (h : Host)
    (hcase : h.system = .windows → fs.Distinct .windows) (env : Env) (check : Bool) (paths : List String) :
    main h env fs check paths = main h env fs' check paths := by
  have hd := distinct_pathFlavour hcase
  have hdirs : (sourceDirs (projectRoot h)).Pairwise (Apart (pathFlavour h)) := by
    simp only [sourceDirs, List.pairwise_cons, List.mem_cons, List.mem_singleton, forall_eq_or_imp,
      forall_eq, List.not_mem_nil, false_imp_iff, implies_true, List.Pairwise.nil, and_true]
    exact ⟨⟨apart_named (by cases pathFlavour h <;> decide), apart_named (by cases pathFlavour h <;> decide)⟩,
      apart_named (by cases pathFlavour h <;> decide)⟩
  have hs : sourceFiles (pathFlavour h) fs (projectRoot h) paths =
      sourceFiles (pathFlavour h) fs' (projectRoot h) paths := by
    simp only [sourceFiles, collectPaths_eq, funext (pathFiles_congr hfs hd _), findSourceFiles,
      findSourceFiles_congr hfs hd hdirs]
  rw [main_eq, main_eq, hs]

theorem main_congr_swapped :
    let fs : Fs := ⟨[(["src"], .dir), (["src", "helios"], .dir), (["src", "helios", "src"], .dir),
      (["src", "helios", "src", "a.cpp"], .file), (["src", "helios", "src", "B.cpp"], .file)],
      by decide, by decide, by decide⟩
    let fs' : Fs := ⟨[(["src", "helios", "src", "B.cpp"], .file), (["src"], .dir),
      (["src", "helios", "src", "a.cpp"], .file), (["src", "helios"], .dir), (["src", "helios", "src"], .dir)],
      by decide, by decide, by decide⟩
    fs.entries.Perm fs'.entries ∧
      ((Host.ofTools .windows ["clang-format"]).system = .windows → fs.Distinct .windows) ∧
      main (Host.ofTools .windows ["clang-format"]) [] fs true [] =
        main (Host.ofTools .windows ["clang-format"]) [] fs' true [] := by
  intro fs fs'
  have hfs : fs.entries.Perm fs'.entries := by decide
  have hcase : (Host.ofTools .windows ["clang-format"]).system = .windows → fs.Distinct .windows := by decide
  exact ⟨hfs, hcase, main_congr hfs _ hcase _ _ _⟩

/-- On Windows the order matters once two entries differ only in case: the `yielded` set of
`rglob` keeps the one listed first. -/
theorem main_runs_case_variants :
    let fs : Fs := ⟨[(["src"], .dir), (["src", "helios"], .dir), (["src", "helios", "src"], .dir),
      (["src", "helios", "src", "a.cpp"], .file), (["src", "helios", "src", "A.cpp"], .file)],
      by decide, by decide, by decide⟩
    let fs' : Fs := ⟨[(["src"], .dir), (["src", "helios"], .dir), (["src", "helios", "src"], .dir),
      (["src", "helios", "src", "A.cpp"], .file), (["src", "helios", "src", "a.cpp"], .file)],
      by decide, by decide, by decide⟩
    fs.entries.Perm fs'.entries ∧
      (main (Host.ofTools .windows ["clang-format"]) [] fs true []).runs =
        [versionCommand, formatCommand ["src", "helios", "src", "a.cpp"] true] ∧
      (main (Host.ofTools .windows ["clang-format"]) [] fs' true []).runs =
        [versionCommand, formatCommand ["src", "helios", "src", "A.cpp"] true] := by
  decide

end Format
end Tools
end HeliosBuild
