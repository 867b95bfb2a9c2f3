import HeliosBuild.Tools.Shared
import HeliosBuild.Python.Argparse

/-!
# `docs.py`

`main` parses its command line and finds the documentation directory:
`--docs-dir`, resolved against the working directory, or `docs/` next to
`scripts/`.  It needs that directory and `doxygen` on `PATH` (`dot` is only
warned about), asks `doxygen --version`, and stops there under
`--check-only`.  Otherwise `build_docs` needs `doxygen/Doxyfile` in that
directory.  Under `--clean` it removes `doxygen/html` with `shutil.rmtree`
and runs nothing else; without it, it runs `doxygen` on the Doxyfile.

This is the one script that changes the file tree, so a run here is a
statement of the tools together with the tree it leaves.  What `doxygen`
writes follows from the Doxyfile, which is not modelled: the caller gives the
tree a `doxygen` run leaves.  The results characterise every run, and show
that the tree changes only without `--check-only`: under `--clean` exactly by
the removal of the output directory and everything below it, after which a
second `--clean` changes nothing, and otherwise only by what `doxygen` writes.
The tree has no permissions and `doxygen`'s output is taken to decode.
-/

namespace HeliosBuild
namespace Tools

/-!
## Removing a directory
-/

namespace Fs

variable (fs : Fs)

def removeBelow (real : List String) : Fs where
  entries := fs.entries.filter fun e => !real.isPrefixOf e.1
  nodup := fs.nodup.sublist ((List.filter_sublist _).map _)
  named e he := fs.named e (List.mem_of_mem_filter he)
  parent e he := by
    obtain ⟨hm, hp⟩ := List.mem_filter.1 he
    refine (fs.parent e hm).imp_right fun hd => List.mem_filter.2 ⟨hd, ?_⟩
    simp only [Bool.not_eq_true', Bool.eq_false_iff, ne_eq, List.isPrefixOf_iff_prefix] at hp ⊢
    exact fun h => hp (h.trans (List.dropLast_prefix _))

/-- `shutil.rmtree(p)`: the tree without the directory `p` leads to and everything below it, or `none` where it raises because `p` does not lead to a directory (`NotADirectoryError` for a file, `FileNotFoundError` for nothing). -/
def rmtree (p : List String) : Option Fs :=
  match fs.walk [] p with
  | some real => if fs.kind? real = some .dir then some (fs.removeBelow real) else none
  | none => none

variable {fs}

theorem mem_removeBelow {real : List String} {e : List String × Kind} :
    e ∈ (fs.removeBelow real).entries ↔ e ∈ fs.entries ∧ ¬ real <+: e.1 := by
  simp [removeBelow, ← Bool.not_eq_true, List.isPrefixOf_iff_prefix]

theorem kind?_removeBelow (real x : List String) :
    (fs.removeBelow real).kind? x = if x ≠ [] ∧ real <+: x then none else fs.kind? x := by
  by_cases hx : x = []
  · subst hx
    rfl
  · apply Option.ext
    intro k
    rw [Option.mem_def, Option.mem_def, kind?_eq_some, mem_removeBelow]
    by_cases hp : real <+: x
    · simp [hx, hp]
    · simp [hx, hp, kind?_eq_some]

theorem kind?_of_removeBelow {real x : List String} {k : Kind}
    (h : (fs.removeBelow real).kind? x = some k) : fs.kind? x = some k := by
  rw [kind?_removeBelow] at h
  split_ifs at h
  exact h

theorem rmtree_eq_some {p : List String} {fs' : Fs} :
    fs.rmtree p = some fs' ↔
      ∃ real, fs.walk [] p = some real ∧ fs.kind? real = some .dir ∧ fs' = fs.removeBelow real := by
  unfold rmtree
  cases hw : fs.walk [] p with
  | none => simp
  | some real =>
    by_cases hd : fs.kind? real = some .dir
    · simp [hd, eq_comm]
    · simp [hd]

theorem rmtree_isSome (p : List String) : (fs.rmtree p).isSome = fs.isDir p := by
  unfold rmtree isDir
  cases hw : fs.walk [] p with
  | none => rfl
  | some real => by_cases hd : fs.kind? real = some .dir <;> simp [hd]

theorem pathExists_of_rmtree {p : List String} {c : String} (hc : c ≠ "..") {fs' : Fs}
    (h : fs.rmtree (p ++ [c]) = some fs') : fs'.pathExists (p ++ [c]) = false := by
  obtain ⟨real, hw, -, rfl⟩ := rmtree_eq_some.1 h
  unfold pathExists
  cases hw' : (fs.removeBelow real).walk [] (p ++ [c]) with
  | none => rfl
  | some r =>
    have hr : r = real := Option.some_inj.1 ((walk_mono (fun _ _ => kind?_of_removeBelow) hw').symm.trans hw)
    subst hr
    have hk := kind?_isSome_of_walk (by simp [kind?]) hw'
    rw [kind?_removeBelow, if_pos ⟨walk_concat_ne_nil hc hw, List.prefix_refl _⟩] at hk
    exact absurd hk (by simp)

theorem pathExists_removeBelow {real p : List String} (hp : ∀ c ∈ p, c ≠ "..") (hnp : ¬ real <+: p) :
    (fs.removeBelow real).pathExists p = fs.pathExists p := by
  rw [pathExists_plain hp, pathExists_plain hp, kind?_removeBelow, if_neg fun h => hnp h.2]

theorem isFile_eq (p : List String) : fs.isFile p = (fs.pathExists p && !fs.isDir p) := by
  unfold isFile isDir pathExists
  cases hw : fs.walk [] p with
  | none => rfl
  | some r =>
    obtain ⟨k, hk⟩ := Option.isSome_iff_exists.1 (kind?_isSome_of_walk (by simp [kind?]) hw)
    cases k <;> simp [hk]

/-- `fs'` keeps the entries of `fs` that are not at or below `real`, in their order. -/
def SameOutside (real : List String) (fs fs' : Fs) : Prop :=
  fs.entries.filter (fun e => !real.isPrefixOf e.1) = fs'.entries.filter fun e => !real.isPrefixOf e.1

instance decidableSameOutside (real : List String) (fs fs' : Fs) : Decidable (SameOutside real fs fs') :=
  inferInstanceAs (Decidable (_ = _))

theorem sameOutside_removeBelow (real : List String) : SameOutside real fs (fs.removeBelow real) := by
  simp only [SameOutside, removeBelow, List.filter_filter, Bool.and_self]

theorem SameOutside.mono {r₁ r₂ : List String} {fs' : Fs} (h : SameOutside r₁ fs fs') (hr : r₂ <+: r₁) :
    SameOutside r₂ fs fs' := by
  have key : ∀ l : List (List String × Kind), (l.filter fun e => !r₁.isPrefixOf e.1).filter
      (fun e => !r₂.isPrefixOf e.1) = l.filter fun e => !r₂.isPrefixOf e.1 := fun l => by
    rw [List.filter_filter]
    refine List.filter_congr fun e _ => ?_
    by_cases h₂ : r₂ <+: e.1
    · simp [List.isPrefixOf_iff_prefix.2 h₂]
    · have h₁ : r₁.isPrefixOf e.1 = false :=
        Bool.eq_false_iff.2 fun h₁ => h₂ (hr.trans (List.isPrefixOf_iff_prefix.1 h₁))
      simp [h₁, Bool.eq_false_iff.2 (mt List.isPrefixOf_iff_prefix.1 h₂)]
  unfold SameOutside
  rw [← key fs.entries, h, key]

theorem SameOutside.kind?_eq {real x : List String} {fs' : Fs} (h : SameOutside real fs fs')
    (hx : ¬ real <+: x) : fs'.kind? x = fs.kind? x := by
  have hmem : ∀ (g : Fs) (k : Kind), (x, k) ∈ g.entries ↔
      (x, k) ∈ g.entries.filter fun e => !real.isPrefixOf e.1 := fun g k => by
    simp [Bool.eq_false_iff.2 (mt List.isPrefixOf_iff_prefix.1 hx)]
  apply Option.ext
  intro k
  rw [Option.mem_def, Option.mem_def, kind?_eq_some, kind?_eq_some, hmem, hmem fs, h]

theorem rglob_of_sameOutside {real d : List String} {fs' : Fs} (h : SameOutside real fs fs')
    (hd : ∀ c ∈ d, c ≠ "..") (hapart : ¬ real <+: d ∧ ¬ d <+: real) (fl : Flavour) (tail : String) :
    fs'.rglob fl d tail = fs.rglob fl d tail := by
  have key : ∀ g : Fs, g.entries.filter (fun e => below d e.1 && globTail fl tail e.1) =
      (g.entries.filter fun e => !real.isPrefixOf e.1).filter
        (fun e => below d e.1 && globTail fl tail e.1) := fun g => by
    rw [List.filter_filter]
    refine List.filter_congr fun e _ => ?_
    by_cases hb : below d e.1 = true
    · have hnr : real.isPrefixOf e.1 = false := Bool.eq_false_iff.2 fun hr => by
        rcases List.prefix_or_prefix_of_prefix (List.isPrefixOf_iff_prefix.1 hr) (below_iff.1 hb).1
          with h' | h'
        exacts [hapart.1 h', hapart.2 h']
      simp [hb, hnr]
    · simp [hb]
  unfold rglob rglobAll
  rw [walk_nil_plain hd, walk_nil_plain hd, h.kind?_eq hapart.1]
  split_ifs
  · show uniquePaths fl (List.map _ (List.filter _ fs'.entries)) =
      uniquePaths fl (List.map _ (List.filter _ fs.entries))
    rw [key fs', key fs, h]
  · rfl

end Fs

theorem findSourceFiles_of_sameOutside {fs fs' : Fs} {real : List String} {dirs : List (List String)}
    (h : fs.SameOutside real fs') (hdirs : ∀ d ∈ dirs, (∀ c ∈ d, c ≠ "..") ∧ ¬ real <+: d ∧ ¬ d <+: real)
    (fl : Flavour) (extensions : List String) (excludeDirs : List (List String)) :
    findSourceFiles fl fs' dirs extensions excludeDirs = findSourceFiles fl fs dirs extensions excludeDirs := by
  rw [findSourceFiles_eq, findSourceFiles_eq]
  congr 1
  refine List.flatMap_congr fun d hd => ?_
  obtain ⟨hplain, hapart⟩ := hdirs d hd
  simp only [Fs.pathExists_plain hplain, h.kind?_eq hapart.1, Fs.rglob_of_sameOutside h hplain hapart]

namespace Docs

open Argparse

/-!
## The script
-/

def parser : Parser where
  arguments :=
    [⟨["-h", "--help"], "help", .help⟩,
     ⟨["--clean"], "clean", .storeConst true⟩,
     ⟨["--check-only"], "check_only", .storeConst true⟩,
     ⟨["--quiet", "-q"], "quiet", .storeConst true⟩,
     ⟨["--verbose", "-v"], "verbose", .storeConst true⟩,
     ⟨["--docs-dir"], "docs_dir", .store none⟩,
     ⟨["--no-color"], "no_color", .storeConst true⟩]
  defaults :=
    [("clean", .bool false), ("check_only", .bool false), ("quiet", .bool false),
     ("verbose", .bool false), ("docs_dir", .none), ("no_color", .bool false)]

structure Args where
  clean : Bool
  checkOnly : Bool
  docsDir : Option String
  deriving DecidableEq, Repr

def Args.ofNamespace (ns : Namespace) : Args where
  clean := ((ns.get "clean").optBool).getD false
  checkOnly := ((ns.get "check_only").optBool).getD false
  docsDir := (ns.get "docs_dir").optStr

/-- `parser.parse_args()`; `type=Path` keeps the string, parsed where it is used. -/
def parseArguments (argv : List String) : Except ParseError Args :=
  (parse parser argv).map Args.ofNamespace

def docsDir (h : Host) (cwd : List String) : Option String → List String
  | some s => normalize (joinPath cwd s)
  | none => (parsePath h.projectRoot).2 ++ ["docs"]

/-- `doxygen_dir / "Doxyfile"`. -/
def doxyfile (docsDir : List String) : List String := docsDir ++ ["doxygen", "Doxyfile"]

/-- `output_dir`, `doxygen_dir / "html"`. -/
def outputDir (docsDir : List String) : List String := docsDir ++ ["doxygen", "html"]

/-- `["doxygen", str(doxyfile)]`; it runs in `doxygen_dir`. -/
def doxygenCommand (docsDir : List String) : List String := ["doxygen", pathStr (doxyfile docsDir)]

/-- `check_dependencies()`: whether nothing required is missing, the missing tools and the warnings. -/
def checkDependencies (h : Host) (env : Env) : Bool × List String × List String :=
  let missing := if h.which env "doxygen" then [] else ["doxygen"]
  let warnings := if h.which env "dot" then [] else ["graphviz (dot) - graphs will not be generated"]
  (missing.length == 0, missing, warnings)

/-- `get_doxygen_version()`: `doxygen --version` with `check=True`, read as whether it gives a version. -/
def getDoxygenVersion (h : Host) (env : Env) : Tool Bool := checkTool h env "doxygen"

/-- `build_docs(docs_dir, clean, quiet)`: whether it succeeded, and the tree it leaves;
`doxygen fs` is the tree that running `doxygen` leaves, with the pages it wrote. -/
def buildDocs (h : Host) (env : Env) (fs : Fs) (doxygen : Fs → Fs) (docsDir : List String)
    (clean : Bool) : Tool (Bool × Fs) := do
  if !fs.pathExists (doxyfile docsDir) then
    return (false, fs)
  if clean then
    if fs.pathExists (outputDir docsDir) then
      return match fs.rmtree (outputDir docsDir) with
        | some fs' => (true, fs')
        | none => (false, fs)
    return (true, fs)
  if !h.which env "doxygen" then
    return (false, fs)
  let rc ← Tool.run h (doxygenCommand docsDir)
  return (rc = 0, doxygen fs)

def docsIn (h : Host) (env : Env) (fs : Fs) (doxygen : Fs → Fs) (docsDir : List String)
    (checkOnly clean : Bool) : Tool (Int × Fs) := do
  if !fs.pathExists docsDir then
    return (1, fs)
  let (depsOk, _, _) := checkDependencies h env
  if !depsOk then
    return (1, fs)
  let _ ← getDoxygenVersion h env
  if checkOnly then
    return (0, fs)
  let (success, fs') ← buildDocs h env fs doxygen docsDir clean
  return (if success then 0 else 1, fs')

def main (h : Host) (env : Env) (fs : Fs) (doxygen : Fs → Fs) (cwd : List String)
    (argv : List String) : Tool (Int × Fs) :=
  match parseArguments argv with
  | .error e => Tool.raise (.py (parseExit e))
  | .ok a => docsIn h env fs doxygen (docsDir h cwd a.docsDir) a.checkOnly a.clean

/-!
## What a run does
-/

def versionCommand : List String := ["doxygen", "--version"]

theorem buildDocs_eq (h : Host) (env : Env) (fs : Fs) (doxygen : Fs → Fs) (d : List String)
    (clean : Bool) :
    buildDocs h env fs doxygen d clean =
      if fs.pathExists (doxyfile d) then
        if clean then
          ⟨.ok (if fs.pathExists (outputDir d) then
              ((fs.rmtree (outputDir d)).isSome, (fs.rmtree (outputDir d)).getD fs)
            else (true, fs)), []⟩
        else if h.which env "doxygen" then
          ⟨.ok (h.rc (doxygenCommand d) = 0, doxygen fs), [doxygenCommand d]⟩
        else ⟨.ok (false, fs), []⟩
      else ⟨.ok (false, fs), []⟩ := by
  unfold buildDocs
  cases fs.pathExists (doxyfile d)
  · rfl
  · cases clean
    · cases h.which env "doxygen" <;> rfl
    · cases fs.pathExists (outputDir d)
      · rfl
      · cases fs.rmtree (outputDir d) <;> rfl

theorem buildDocs_ok (h : Host) (env : Env) (fs : Fs) (doxygen : Fs → Fs) (d : List String)
    (clean : Bool) : ∃ r, (buildDocs h env fs doxygen d clean).result = .ok r := by
  rw [buildDocs_eq]
  split_ifs <;> exact ⟨_, rfl⟩

theorem docsIn_eq (h : Host) (env : Env) (fs : Fs) (doxygen : Fs → Fs) (d : List String)
    (checkOnly clean : Bool) :
    docsIn h env fs doxygen d checkOnly clean =
      if fs.pathExists d ∧ h.which env "doxygen" then
        if checkOnly then ⟨.ok (0, fs), [versionCommand]⟩
        else ⟨(buildDocs h env fs doxygen d clean).result.map fun r => (if r.1 then 0 else 1, r.2),
          versionCommand :: (buildDocs h env fs doxygen d clean).runs⟩
      else ⟨.ok (1, fs), []⟩ := by
  unfold docsIn getDoxygenVersion checkDependencies
  rw [checkTool_eq]
  cases hd : fs.pathExists d
  · rfl
  cases hw : h.which env "doxygen"
  · rfl
  cases checkOnly
  · obtain ⟨r, hr⟩ := buildDocs_ok h env fs doxygen d clean
    simp [Tool.bind_of_ok hr, hr, versionCommand]
    rfl
  · rfl

theorem docsIn_runs_status (h : Host) (env : Env) (fs : Fs) (doxygen : Fs → Fs) (d : List String)
    (checkOnly clean : Bool) :
    (docsIn h env fs doxygen d checkOnly clean).runs =
        (if fs.pathExists d ∧ h.which env "doxygen" then
          versionCommand ::
            if checkOnly = false ∧ clean = false ∧ fs.pathExists (doxyfile d) then [doxygenCommand d]
            else []
        else []) ∧
      ∃ n fs', (docsIn h env fs doxygen d checkOnly clean).result = .ok (n, fs') ∧ (n = 0 ∨ n = 1) ∧
        (n = 0 ↔ fs.pathExists d ∧ h.which env "doxygen" ∧
          (checkOnly ∨ fs.pathExists (doxyfile d) ∧
            if clean then fs.isFile (outputDir d) = false else h.rc (doxygenCommand d) = 0)) := by
  rw [docsIn_eq, buildDocs_eq]
  by_cases hdw : fs.pathExists d = true ∧ h.which env "doxygen" = true
  · obtain ⟨hd, hw⟩ := hdw
    cases checkOnly
    · by_cases hx : fs.pathExists (doxyfile d)
      · cases clean
        · by_cases hr : h.rc (doxygenCommand d) = 0 <;> simp [hd, hw, hx, hr, Except.map]
        · by_cases ho : fs.pathExists (outputDir d) <;>
            by_cases hf : fs.isDir (outputDir d) <;> simp [hd, hw, hx, ho, hf, Fs.isFile_eq, Fs.rmtree_isSome, Except.map]
      · simp [hd, hw, hx, Except.map]
    · simp [hd, hw]
  · simp only [hdw, if_false]
    exact ⟨trivial, 1, fs, rfl, by simp, iff_of_false (by decide) fun ⟨hd, hw, _⟩ => hdw ⟨hd, hw⟩⟩

theorem docsIn_clean_of_absent {h : Host} {env : Env} {fs : Fs} {doxygen : Fs → Fs} {d : List String}
    (hd : fs.pathExists d) (hw : h.which env "doxygen") (hx : fs.pathExists (doxyfile d))
    (ho : fs.pathExists (outputDir d) = false) :
    docsIn h env fs doxygen d false true = ⟨.ok (0, fs), [versionCommand]⟩ := by
  simp [docsIn_eq, buildDocs_eq, hd, hw, hx, ho, Except.map]

theorem clean_exit_zero {h : Host} {env : Env} {fs : Fs} {doxygen : Fs → Fs} {d : List String}
    {fs' : Fs} (hr : (docsIn h env fs doxygen d false true).result = .ok (0, fs')) :
    fs.pathExists d ∧ h.which env "doxygen" ∧ fs.pathExists (doxyfile d) ∧
      (fs.pathExists (outputDir d) = false ∧ fs' = fs ∨ fs.rmtree (outputDir d) = some fs') := by
  rw [docsIn_eq, buildDocs_eq] at hr
  by_cases hdw : fs.pathExists d = true ∧ h.which env "doxygen" = true
  · by_cases hx : fs.pathExists (doxyfile d) = true
    · refine ⟨hdw.1, hdw.2, hx, ?_⟩
      by_cases ho : fs.pathExists (outputDir d) = true
      · cases hm : fs.rmtree (outputDir d) <;> simp [hdw, hx, ho, hm, Except.map] at hr
        exact .inr (hr ▸ rfl)
      · simp [hdw, hx, ho, Except.map] at hr
        exact .inl ⟨by simpa using ho, hr.symm⟩
    · simp [hdw, hx, Except.map] at hr
  · simp [hdw, Except.map] at hr

theorem docsIn_clean_twice {h : Host} {env : Env} {fs : Fs} {doxygen : Fs → Fs} {d : List String}
    (hd : ∀ c ∈ d, c ≠ "..") {fs' : Fs}
    (hr : (docsIn h env fs doxygen d false true).result = .ok (0, fs')) :
    docsIn h env fs' doxygen d false true = ⟨.ok (0, fs'), [versionCommand]⟩ := by
  have hplain : ∀ q : List String, (∀ c ∈ q, c ≠ "..") → ∀ c ∈ d ++ q, c ≠ ".." :=
    fun q hq c hc => (List.mem_append.1 hc).elim (hd c) (hq c)
  obtain ⟨hdx, hw, hx, ⟨ho, rfl⟩ | hm⟩ := clean_exit_zero hr
  · exact docsIn_clean_of_absent hdx hw hx ho
  · have hout : ∀ c ∈ outputDir d, c ≠ ".." := hplain ["doxygen", "html"] (by decide)
    have hdoxy : ∀ c ∈ doxyfile d, c ≠ ".." := hplain ["doxygen", "Doxyfile"] (by decide)
    have hgone := Fs.pathExists_of_rmtree (p := d ++ ["doxygen"]) (c := "html") (by decide)
      (by simpa [outputDir] using hm)
    obtain ⟨real, hwk, -, rfl⟩ := Fs.rmtree_eq_some.1 hm
    have hreal : real = outputDir d := by
      rw [Fs.walk_nil_plain hout] at hwk
      split_ifs at hwk
      exact (Option.some_inj.1 hwk).symm
    subst hreal
    refine docsIn_clean_of_absent ?_ hw ?_ (by simpa [outputDir] using hgone)
    · rw [Fs.pathExists_removeBelow hd fun hp => by
        have := hp.length_le
        simp only [outputDir, List.length_append, List.length_cons, List.length_nil] at this
        omega]
      exact hdx
    · rw [Fs.pathExists_removeBelow hdoxy
        fun hp => by simp [outputDir, doxyfile, List.prefix_append_right_inj] at hp]
      exact hx

theorem docsIn_clean_twice_html :
    let fs : Fs :=
      ⟨[(["src"], .dir), (["src", "helios"], .dir), (["src", "helios", "docs"], .dir),
        (["src", "helios", "docs", "doxygen"], .dir),
        (["src", "helios", "docs", "doxygen", "Doxyfile"], .file),
        (["src", "helios", "docs", "doxygen", "html"], .dir),
        (["src", "helios", "docs", "doxygen", "html", "index.html"], .file)],
        by decide, by decide, by decide⟩
    let fs' := fs.removeBelow ["src", "helios", "docs", "doxygen", "html"]
    (∀ c ∈ ["src", "helios", "docs"], c ≠ "..") ∧
      (docsIn (Host.ofTools .linux ["doxygen"]) [] fs id ["src", "helios", "docs"] false true).result =
        .ok (0, fs') ∧
      docsIn (Host.ofTools .linux ["doxygen"]) [] fs' id ["src", "helios", "docs"] false true =
        ⟨.ok (0, fs'), [versionCommand]⟩ := by
  intro fs fs'
  exact ⟨by decide, rfl,
    @docsIn_clean_twice (Host.ofTools .linux ["doxygen"]) [] fs id _ (by decide) fs' rfl⟩

theorem docsIn_tree {h : Host} {env : Env} {fs : Fs} {doxygen : Fs → Fs} {d : List String}
    {checkOnly clean : Bool} {n : Int} {fs' : Fs}
    (hr : (docsIn h env fs doxygen d checkOnly clean).result = .ok (n, fs')) :
    fs' = fs ∨ checkOnly = false ∧
      (clean = true ∧ n = 0 ∧ fs.rmtree (outputDir d) = some fs' ∨
        clean = false ∧ (docsIn h env fs doxygen d checkOnly clean).runs =
          [versionCommand, doxygenCommand d] ∧ fs' = doxygen fs) := by
  rw [docsIn_eq, buildDocs_eq] at hr ⊢
  by_cases hdw : fs.pathExists d = true ∧ h.which env "doxygen" = true
  · rw [if_pos hdw] at hr ⊢
    cases checkOnly
    · by_cases hx : fs.pathExists (doxyfile d)
      · cases clean
        · -- `doxygen` ran
          simp only [hx, hdw.2, if_true, Bool.false_eq_true, if_false, Except.map, Except.ok.injEq,
            Prod.mk.injEq] at hr ⊢
          exact .inr ⟨trivial, .inr ⟨trivial, trivial, hr.2.symm⟩⟩
        · by_cases ho : fs.pathExists (outputDir d)
          · cases hm : fs.rmtree (outputDir d) <;> simp [hx, ho, hm, Except.map] at hr
            · exact .inl hr.2.symm
            · exact .inr ⟨rfl, .inl ⟨rfl, hr.1.symm, hr.2 ▸ rfl⟩⟩
          · simp [hx, ho, Except.map] at hr
            exact .inl hr.2.symm
      · simp [hx, Except.map] at hr
        exact .inl hr.2.symm
    · simp at hr
      exact .inl hr.2.symm
  · simp [hdw] at hr
    exact .inl hr.2.symm

theorem main_tree {h : Host} {env : Env} {fs : Fs} {doxygen : Fs → Fs} {cwd argv : List String}
    {n : Int} {fs' : Fs} (hr : (main h env fs doxygen cwd argv).result = .ok (n, fs')) :
    fs' = fs ∨ ∃ a, parseArguments argv = .ok a ∧ a.checkOnly = false ∧
      ((a.clean = true ∧ n = 0 ∧
        ∃ real, fs.walk [] (outputDir (docsDir h cwd a.docsDir)) = some real ∧
          fs.kind? real = some .dir ∧ fs'.pathExists (outputDir (docsDir h cwd a.docsDir)) = false ∧
          ∀ x, fs'.kind? x = if x ≠ [] ∧ real <+: x then none else fs.kind? x) ∨
      (a.clean = false ∧ (main h env fs doxygen cwd argv).runs =
          [versionCommand, doxygenCommand (docsDir h cwd a.docsDir)] ∧ fs' = doxygen fs)) := by
  unfold main at hr ⊢
  cases ha : parseArguments argv with
  | error e => simp [ha] at hr
  | ok a =>
    simp only [ha] at hr ⊢
    rcases docsIn_tree hr with hs | ⟨hco, ⟨hc, hn, hm⟩ | hrun⟩
    · exact .inl hs
    · have ho : outputDir (docsDir h cwd a.docsDir) = (docsDir h cwd a.docsDir ++ ["doxygen"]) ++ ["html"] := by
        simp [outputDir]
      obtain ⟨real, hw, hk, rfl⟩ := Fs.rmtree_eq_some.1 hm
      refine .inr ⟨a, rfl, hco, .inl ⟨hc, hn, real, hw, hk, ?_, Fs.kind?_removeBelow real⟩⟩
      rw [ho] at hm ⊢
      exact Fs.pathExists_of_rmtree (by decide) hm
    · exact .inr ⟨a, rfl, hco, .inr hrun⟩

theorem main_tree_doxygen :
    let fs : Fs :=
      ⟨[(["src"], .dir), (["src", "helios"], .dir), (["src", "helios", "docs"], .dir),
        (["src", "helios", "docs", "doxygen"], .dir),
        (["src", "helios", "docs", "doxygen", "Doxyfile"], .file)],
        by decide, by decide, by decide⟩
    let pages : Fs :=
      ⟨fs.entries ++ [(["src", "helios", "docs", "doxygen", "html"], .dir),
        (["src", "helios", "docs", "doxygen", "html", "index.html"], .file)],
        by decide, by decide, by decide⟩
    (main (Host.ofTools .linux ["doxygen"]) [] fs (fun _ => pages) [] []).result = .ok (0, pages) ∧
      (pages = fs ∨ ∃ a, parseArguments [] = .ok a ∧ a.checkOnly = false ∧
        ((a.clean = true ∧ (0 : Int) = 0 ∧
          ∃ real, fs.walk [] (outputDir (docsDir (Host.ofTools .linux ["doxygen"]) [] a.docsDir)) =
              some real ∧ fs.kind? real = some .dir ∧
            pages.pathExists (outputDir (docsDir (Host.ofTools .linux ["doxygen"]) [] a.docsDir)) =
              false ∧
            ∀ x, pages.kind? x = if x ≠ [] ∧ real <+: x then none else fs.kind? x) ∨
        (a.clean = false ∧ (main (Host.ofTools .linux ["doxygen"]) [] fs (fun _ => pages) [] []).runs =
            [versionCommand, doxygenCommand (docsDir (Host.ofTools .linux ["doxygen"]) [] a.docsDir)] ∧
          pages = (fun _ => pages) fs))) := by
  intro fs pages
  exact ⟨rfl, @main_tree (Host.ofTools .linux ["doxygen"]) [] fs (fun _ => pages) [] [] 0 pages rfl⟩

end Docs
end Tools
end HeliosBuild
