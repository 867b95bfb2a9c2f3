import Mathlib.Data.List.Perm.Basic
import Mathlib.Data.List.Dedup
import Mathlib.Data.List.Pairwise
import HeliosBuild.Python.Script
import HeliosBuild.Tools.Paths

/-!
# What `format.py` and `lint.py` share

The two tools are written alike.  Each checks that its clang tool answers
`--version`, collects the project's C++ files with one and the same
`find_source_files`, runs the tool on every file and exits 1 when one of the
runs failed.  This module gives the statement of a tool its meaning (the
subprocesses it starts and its value or exception), models the shared
functions once, and proves what the two `main` functions build on: the
files found are entries below the source directories whose names match an
extension, sorted as the host's flavour of `pathlib` compares paths, the same
whatever order the directories list them in where the flavour tells the
entries apart, and a loop that runs one command per file starts exactly
those commands.
-/

namespace HeliosBuild
namespace Tools

/-!
## Statements of the tools
-/

/-- An exception a tool lets escape. -/
inductive ToolExc
  | nameError (name : String)
  | py (e : PyExc)
  deriving DecidableEq, Repr

/-- The exit status of a tool whose `main` ended with `r`: an escaping exception other than `SystemExit` exits with 1. -/
def toolExit : Except ToolExc Int → Int
  | .ok n => n
  | .error (.py e) => exitStatus (.error e)
  | .error (.nameError _) => 1

/-- A statement of `format.py` or `lint.py`: its value or the exception it raises, and the subprocesses it starts, in order. -/
structure Tool (α : Type) where
  result : Except ToolExc α
  runs : List (List String)

namespace Tool

variable {α β : Type}

protected def pure (a : α) : Tool α := ⟨.ok a, []⟩

protected def bind (x : Tool α) (f : α → Tool β) : Tool β :=
  match x.result with
  | .ok a => ⟨(f a).result, x.runs ++ (f a).runs⟩
  | .error e => ⟨.error e, x.runs⟩

instance : Monad Tool where
  pure := Tool.pure
  bind := Tool.bind

/-- Raise `e`. -/
def raise (e : ToolExc) : Tool α := ⟨.error e, []⟩

/-- `subprocess.run(argv)`: its return code, which the host answers. -/
def run (h : Host) (argv : List String) : Tool Int := ⟨.ok (h.rc argv), [argv]⟩

@[simp] theorem result_pure (a : α) : (pure a : Tool α).result = .ok a := rfl

@[simp] theorem runs_pure (a : α) : (pure a : Tool α).runs = [] := rfl

@[simp] theorem result_raise (e : ToolExc) : (raise e : Tool α).result = .error e := rfl

@[simp] theorem runs_raise (e : ToolExc) : (raise e : Tool α).runs = [] := rfl

@[simp] theorem pure_bind (a : α) (f : α → Tool β) : (pure a >>= f) = f a := by
  show Tool.bind _ _ = _
  simp [Tool.bind, Tool.pure]

@[simp] theorem ok_bind (a : α) (rs : List (List String)) (f : α → Tool β) :
    ((⟨.ok a, rs⟩ : Tool α) >>= f) = ⟨(f a).result, rs ++ (f a).runs⟩ := rfl

@[simp] theorem error_bind (e : ToolExc) (rs : List (List String)) (f : α → Tool β) :
    ((⟨.error e, rs⟩ : Tool α) >>= f) = ⟨.error e, rs⟩ := rfl

@[simp] theorem raise_bind (e : ToolExc) (f : α → Tool β) : (raise e >>= f) = raise e := rfl

@[simp] theorem run_bind (h : Host) (argv : List String) (f : Int → Tool β) :
    (run h argv >>= f) = ⟨(f (h.rc argv)).result, argv :: (f (h.rc argv)).runs⟩ := rfl

theorem bind_of_ok {x : Tool α} {a : α} (hx : x.result = .ok a) (f : α → Tool β) :
    (x >>= f) = ⟨(f a).result, x.runs ++ (f a).runs⟩ := by
  show Tool.bind _ _ = _
  simp [Tool.bind, hx]

theorem bind_of_error {x : Tool α} {e : ToolExc} (hx : x.result = .error e) (f : α → Tool β) :
    (x >>= f) = ⟨.error e, x.runs⟩ := by
  show Tool.bind _ _ = _
  simp [Tool.bind, hx]

theorem foldlM_eq {γ : Type} {f : β → γ → Tool β} (step : β → γ → β) (c : γ → List (List String))
    (hf : ∀ b x, f b x = ⟨.ok (step b x), c x⟩) (l : List γ) (b : β) :
    l.foldlM f b = ⟨.ok (l.foldl step b), l.flatMap c⟩ := by
  induction l generalizing b with
  | nil => rfl
  | cons x rest ih =>
    rw [List.foldlM_cons, bind_of_ok (by rw [hf]) _, ih, hf]
    rfl

end Tool

/-- `check_clang_format()` and `check_clang_tidy()`: `[tool, "--version"]` with `check=True`. -/
def checkTool (h : Host) (env : Env) (tool : String) : Tool Bool :=
  if h.which env tool then do
    let rc ← Tool.run h [tool, "--version"]
    return rc = 0
  else return false

theorem checkTool_eq (h : Host) (env : Env) (tool : String) :
    checkTool h env tool =
      if h.which env tool then ⟨.ok (h.rc [tool, "--version"] = 0), [[tool, "--version"]]⟩
      else ⟨.ok false, []⟩ := by
  unfold checkTool
  split <;> rfl

def projectRoot (h : Host) : List String := normalize (parsePath h.projectRoot).2

/-- The flavour of `Path` on the host: `WindowsPath` on Windows. -/
def pathFlavour (h : Host) : Flavour := if h.system = .windows then .windows else .posix

theorem distinct_pathFlavour {h : Host} {fs : Fs} (hcase : h.system = .windows → fs.Distinct .windows) :
    fs.Distinct (pathFlavour h) := by
  unfold pathFlavour
  split
  · exact hcase ‹_›
  · exact fs.distinct_posix

theorem dotdot_not_mem_projectRoot (h : Host) : ∀ c ∈ projectRoot h, c ≠ ".." :=
  dotdot_not_mem_normalize _

/-!
## `find_source_files`
-/

/-- `file_path.relative_to(exclude_dir)` succeeds: the excluded directory's parts begin the
path's, as the flavour compares them. -/
def relativeTo (fl : Flavour) (p dir : List String) : Bool :=
  (fl.casefoldParts dir).isPrefixOf (fl.casefoldParts p)

def excluded (fl : Flavour) (excludeDirs : List (List String)) (p : List String) : Bool :=
  excludeDirs.any (relativeTo fl p)

/-- `find_source_files(source_dirs, extensions, exclude_dirs)`, the same in `lint.py` and
`format.py`. -/
def findSourceFiles (fl : Flavour) (fs : Fs) (sourceDirs : List (List String)) (extensions : List String)
    (excludeDirs : List (List String)) : List (List String) :=
  sortPaths fl <| sourceDirs.foldl (fun files sourceDir =>
    if !fs.pathExists sourceDir then files
    else extensions.foldl (fun files ext =>
      (fs.rglob fl sourceDir ("." ++ ext)).foldl (fun files p =>
        if excluded fl excludeDirs p then files else files ++ [p]) files) files) []

theorem not_prefix_of_excluded {fl : Flavour} {dir p : List String} (h : excluded fl [dir] p = false) :
    ¬ dir <+: p := fun hp => by
  simp [excluded, relativeTo, List.isPrefixOf_iff_prefix.2 (hp.map fl.casefold), Flavour.casefoldParts] at h

theorem foldl_eq_append_flatMap {α β : Type} {f : List β → α → List β} {g : α → List β}
    (hf : ∀ acc x, f acc x = acc ++ g x) (l : List α) (acc : List β) :
    l.foldl f acc = acc ++ l.flatMap g := by
  induction l generalizing acc with
  | nil => simp
  | cons x rest ih => simp [hf, ih]

theorem foldl_append_unless {α : Type} (P : α → Bool) (l : List α) (acc : List α) :
    l.foldl (fun acc x => if P x then acc else acc ++ [x]) acc = acc ++ l.filter fun x => !P x := by
  induction l generalizing acc with
  | nil => simp
  | cons x rest ih => by_cases hx : P x <;> simp [hx, ih]

def collectSources (fl : Flavour) (fs : Fs) (sourceDirs : List (List String)) (extensions : List String)
    (excludeDirs : List (List String)) : List (List String) :=
  sourceDirs.flatMap fun d =>
    if fs.pathExists d then
      extensions.flatMap fun ext => (fs.rglob fl d ("." ++ ext)).filter fun p => !excluded fl excludeDirs p
    else []

theorem findSourceFiles_eq (fl : Flavour) (fs : Fs) (sourceDirs : List (List String))
    (extensions : List String) (excludeDirs : List (List String)) :
    findSourceFiles fl fs sourceDirs extensions excludeDirs =
      sortPaths fl (collectSources fl fs sourceDirs extensions excludeDirs) := by
  have hp := foldl_append_unless (excluded fl excludeDirs)
  unfold findSourceFiles collectSources
  rw [foldl_eq_append_flatMap (fun acc d => ?_)]
  · rfl
  by_cases hd : fs.pathExists d
  · rw [if_neg (by simp [hd]), if_pos hd]
    exact foldl_eq_append_flatMap (fun acc ext => hp (fs.rglob fl d ("." ++ ext)) acc) _ acc
  · simp [hd]

theorem mem_findSourceFiles {fl : Flavour} {fs : Fs} {sourceDirs : List (List String)}
    {extensions : List String} {excludeDirs : List (List String)} {p : List String} :
    p ∈ findSourceFiles fl fs sourceDirs extensions excludeDirs ↔
      (∃ d ∈ sourceDirs, ∃ ext ∈ extensions, p ∈ fs.rglob fl d ("." ++ ext)) ∧
        excluded fl excludeDirs p = false := by
  rw [findSourceFiles_eq, mem_sortPaths, collectSources]
  simp only [List.mem_flatMap, List.mem_ite_nil_right, List.mem_filter, Bool.not_eq_true']
  constructor
  · rintro ⟨d, hd, -, ext, he, hp, hx⟩
    exact ⟨⟨d, hd, ext, he, hp⟩, hx⟩
  · rintro ⟨⟨d, hd, ext, he, hp⟩, hx⟩
    have : fs.pathExists d = true := by
      obtain ⟨real, hw, -⟩ := Fs.mem_rglobAll.1 (mem_of_mem_uniquePaths hp)
      simp [Fs.pathExists, hw]
    exact ⟨d, hd, this, ext, he, hp, hx⟩

theorem entry_of_mem_findSourceFiles {fl : Flavour} {fs : Fs} {sourceDirs : List (List String)}
    {extensions : List String} {excludeDirs : List (List String)}
    (hplain : ∀ d ∈ sourceDirs, ∀ c ∈ d, c ≠ "..") {x : List String}
    (hx : x ∈ findSourceFiles fl fs sourceDirs extensions excludeDirs) :
    (∃ k, (x, k) ∈ fs.entries) ∧ excluded fl excludeDirs x = false := by
  obtain ⟨⟨d, hd, ext, -, hr⟩, hex⟩ := mem_findSourceFiles.1 hx
  exact ⟨((Fs.mem_rglobAll_plain (hplain d hd)).1 (mem_of_mem_uniquePaths hr)).1, hex⟩

theorem sorted_findSourceFiles (fl : Flavour) (fs : Fs) (sourceDirs : List (List String))
    (extensions : List String) (excludeDirs : List (List String)) :
    (findSourceFiles fl fs sourceDirs extensions excludeDirs).Sorted (PathLe fl) := by
  rw [findSourceFiles_eq]
  exact sorted_sortPaths _ _

/-- Directories whose paths, as the flavour compares them, do not begin one another. -/
def Apart (fl : Flavour) (a b : List String) : Prop :=
  ¬ fl.casefoldParts a <+: fl.casefoldParts b ∧ ¬ fl.casefoldParts b <+: fl.casefoldParts a

/-- Listing the entries of the tree in another order finds the same files, where the flavour
tells the entries apart and the source directories lie apart. -/
theorem findSourceFiles_congr {fl : Flavour} {fs fs' : Fs} (h : fs.entries.Perm fs'.entries)
    (hd : fs.Distinct fl) {sourceDirs : List (List String)} (hdirs : sourceDirs.Pairwise (Apart fl))
    (extensions : List String) (excludeDirs : List (List String)) :
    findSourceFiles fl fs sourceDirs extensions excludeDirs =
      findSourceFiles fl fs' sourceDirs extensions excludeDirs := by
  have hd' : fs'.Distinct fl := (h.map _).nodup_iff.1 hd
  have hpart : ∀ d, (if fs.pathExists d then extensions.flatMap fun ext =>
      (fs.rglob fl d ("." ++ ext)).filter fun p => !excluded fl excludeDirs p else []).Perm
      (if fs'.pathExists d then extensions.flatMap fun ext =>
        (fs'.rglob fl d ("." ++ ext)).filter fun p => !excluded fl excludeDirs p else []) := fun d => by
    rw [show fs.pathExists d = fs'.pathExists d by simp [Fs.pathExists, Fs.walk_congr h]]
    split
    · refine List.Perm.flatMap_left _ fun ext _ => ?_
      rw [Fs.rglob_eq_rglobAll hd, Fs.rglob_eq_rglobAll hd']
      exact (Fs.rglobAll_perm h _ _ _).filter _
    · exact List.Perm.refl _
  have hmem : ∀ x ∈ collectSources fl fs sourceDirs extensions excludeDirs,
      ∃ d ∈ sourceDirs, ∃ ext : String, x ∈ fs.rglob fl d ("." ++ ext) := fun x hx => by
    obtain ⟨d, hdm, hx⟩ := List.mem_flatMap.1 hx
    split at hx
    · obtain ⟨ext, -, hx⟩ := List.mem_flatMap.1 hx
      exact ⟨d, hdm, ext, (List.mem_filter.1 hx).1⟩
    · simp at hx
  rw [findSourceFiles_eq, findSourceFiles_eq]
  refine sortPaths_congr (List.Perm.flatMap_left _ fun d _ => hpart d) fun a ha b hb hab => ?_
  obtain ⟨d, hdm, ext, ha⟩ := hmem a ha
  obtain ⟨d', hdm', ext', hb⟩ := hmem b hb
  by_cases hdd : d = d'
  · subst hdd
    exact Fs.eq_of_mem_rglob hd ha hb hab
  · -- below two directories that lie apart, no two paths compare equal
    have hap := hdirs.forall (fun _ _ h => ⟨h.2, h.1⟩) hdm hdm' hdd
    have hpa := (Fs.prefix_of_mem_rglob ha).map fl.casefold
    have hpb := (Fs.prefix_of_mem_rglob hb).map fl.casefold
    rw [← Flavour.casefoldParts, ← Flavour.casefoldParts, ← hab] at *
    rcases List.prefix_or_prefix_of_prefix hpa hpb with h | h
    exacts [absurd h hap.1, absurd h hap.2]

theorem nodup_findSourceFiles {fl : Flavour} {fs : Fs} {sourceDirs : List (List String)}
    {extensions : List String} (hplain : ∀ d ∈ sourceDirs, ∀ c ∈ d, c ≠ "..")
    (hd : sourceDirs.Pairwise fun a b => ¬ a <+: b ∧ ¬ b <+: a)
    (he : extensions.Pairwise fun a b =>
      ¬ fl.foldChars ("." ++ a) <:+ fl.foldChars ("." ++ b) ∧ ¬ fl.foldChars ("." ++ b) <:+ fl.foldChars ("." ++ a))
    (excludeDirs : List (List String)) :
    (findSourceFiles fl fs sourceDirs extensions excludeDirs).Nodup := by
  have hmem : ∀ d ∈ sourceDirs, ∀ p, p ∈ (if fs.pathExists d then extensions.flatMap fun ext =>
      (fs.rglob fl d ("." ++ ext)).filter fun p => !excluded fl excludeDirs p else []) →
      Fs.below d p = true := by
    intro d hdm p hp
    split at hp
    · obtain ⟨ext, -, hp⟩ := List.mem_flatMap.1 hp
      exact ((Fs.mem_rglobAll_plain (hplain d hdm)).1 (mem_of_mem_uniquePaths (List.mem_filter.1 hp).1)).2.1
    · simp at hp
  rw [findSourceFiles_eq]
  refine (perm_sortPaths _ _).nodup_iff.2 (List.nodup_flatMap.2 ⟨fun d hdm => ?_,
    hd.imp_of_mem fun {a b} ha hb hab p hpa hpb =>
      Fs.below_exclusive hab (hmem a ha p hpa) (hmem b hb p hpb)⟩)
  split
  · refine List.nodup_flatMap.2 ⟨fun ext _ => (Fs.nodup_rglob _ _ _).filter _, he.imp fun hab p hpa hpb => ?_⟩
    have hglob := fun {t} (hp : p ∈ (fs.rglob fl d t).filter fun p => !excluded fl excludeDirs p) =>
      ((Fs.mem_rglobAll_plain (hplain d hdm)).1 (mem_of_mem_uniquePaths (List.mem_filter.1 hp).1)).2.2
    exact Fs.globTail_exclusive hab (hglob hpa) (hglob hpb)
  · exact List.nodup_nil

end Tools
end HeliosBuild
