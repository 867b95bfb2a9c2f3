import HeliosBuild.Tools.Lint
import HeliosBuild.Tools.Docs
import HeliosBuild.Build.Main
import HeliosBuild.InstallDeps.Handoff

/-!
# Where the tools meet

After a successful build, `build.py --lint` runs `lint.py --build-dir
<workspace>`, the workspace it built written out by `wsPath`; it ignores the
linter's exit code.  Here `lint.py` reads that command line: whatever the
machine, the run is the one that searches the workspace directory
`build/<type>/<platform>` below the project root, without `--fix`.

`docs.py` is the one script that removes files.  Without `--docs-dir` what it
removes lies below `docs/`, so the files `format.py` and `lint.py` check stay
the same.
-/

namespace HeliosBuild
namespace Tools

open Argparse

/-- `--build-dir <path>` as an item of `lint.py`'s parser. -/
def buildDirItem (p : String) : Item :=
  (⟨["--build-dir"], "build_dir", .store none⟩, "--build-dir", some p)

theorem parseArguments_buildDir {p : String} (hp : InstallDeps.PlainValue p) :
    Lint.parseArguments ["--build-dir", p] = .ok ⟨false, none, none, some p⟩ := by
  have hx : ∀ i ∈ [buildDirItem p], i.Exact Lint.parser := by
    simp only [List.mem_singleton, forall_eq]
    exact { lookup := rfl, dash := rfl, notDashDash := by simp [buildDirItem], arity := rfl
            value := fun v hv => Option.some.inj hv ▸
              ⟨InstallDeps.plain_ne_dashDash hp, InstallDeps.classify_plain hp⟩ }
  have hs : ∀ i ∈ [buildDirItem p], i.stored.isSome := by
    simp [buildDirItem, Item.stored, InstallDeps.plain_ne_dashDash hp]
  unfold Lint.parseArguments
  rw [show ["--build-dir", p] = [buildDirItem p].flatMap Item.strings from rfl, parse_items _ hx,
    takeActions_items hs]
  rfl

theorem parsePath_wsPath (root : String) (k : WsKey) (ht : ProperName k.typeDir)
    (hp : ProperName k.platDir) :
    (parsePath (Configure.wsPath root k)).2 = (parsePath root).2 ++ ["build", k.typeDir, k.platDir] := by
  have hw : Configure.wsPath root k = root ++ "/" ++ ("build" ++ "/" ++ (k.typeDir ++ "/" ++ k.platDir)) := by
    simp only [Configure.wsPath, String.append_assoc]
    rfl
  rw [hw, parsePath_append, parsePath_append, parsePath_append, parsePath_proper ht,
    parsePath_proper hp, parsePath_proper (c := "build") (by decide)]
  rfl

theorem head_wsPath {root : String} (hroot : root.toList.head? = some '/') (k : WsKey) :
    (Configure.wsPath root k).toList.head? = some '/' := by
  simp only [Configure.wsPath, String.toList, String.data_append, List.head?_append]
  simp only [String.toList] at hroot
  simp [hroot]

theorem lint_buildDir_handoff (h : Host) (env : Env) (fs : Fs) (u : Lint.Uname) (d : WsKey)
    (hroot : h.projectRoot.toList.head? = some '/') (ht : ProperName d.typeDir)
    (hp : ProperName d.platDir) :
    Lint.main h env fs u ["--build-dir", Configure.wsPath h.projectRoot d] =
      Lint.lintIn h env fs (projectRoot h ++ ["build", d.typeDir, d.platDir]) false := by
  have hhead := head_wsPath hroot d
  have hplain : InstallDeps.PlainValue (Configure.wsPath h.projectRoot d) := by
    unfold InstallDeps.PlainValue
    rw [hhead]
    decide
  have hne : Configure.wsPath h.projectRoot d ≠ "" := fun he => by simp [he] at hhead
  have habs : (parsePath (Configure.wsPath h.projectRoot d)).1 = true := by
    unfold parsePath
    rw [hhead]
    rfl
  have hdirs : ∀ c ∈ ["build", d.typeDir, d.platDir], c ≠ ".." := by
    simp only [List.mem_cons, List.not_mem_nil, or_false]
    rintro c (rfl | rfl | rfl)
    exacts [by decide, ht.2.2.1, hp.2.2.1]
  rw [Lint.main, parseArguments_buildDir hplain]
  simp only [Lint.resolveBuildDir, joinPath, ne_eq, hne, not_false_eq_true, if_true, habs]
  rw [parsePath_wsPath _ _ ht hp, normalize_append hdirs]
  rfl

theorem lint_buildDir_handoff_release :
    (Host.ofTools .linux []).projectRoot.toList.head? = some '/' ∧ ProperName "release" ∧
      ProperName "linux" ∧
      Lint.main (Host.ofTools .linux []) [] ⟨[], by decide, by decide, by decide⟩
          ⟨some "Linux", "linux"⟩
          ["--build-dir", Configure.wsPath (Host.ofTools .linux []).projectRoot ⟨"release", "linux"⟩] =
        Lint.lintIn (Host.ofTools .linux []) [] ⟨[], by decide, by decide, by decide⟩
          (projectRoot (Host.ofTools .linux []) ++ ["build", "release", "linux"]) false :=
  ⟨by decide, by decide, by decide,
    lint_buildDir_handoff _ _ _ _ ⟨"release", "linux"⟩ (by decide) (by decide) (by decide)⟩

theorem docs_keeps_sources {h : Host} {env : Env} {fs : Fs} {doxygen : Fs → Fs}
    {cwd argv : List String} {a : Docs.Args} (ha : Docs.parseArguments argv = .ok a)
    (hdd : a.docsDir = none) (hdox : fs.SameOutside (projectRoot h ++ ["docs"]) (doxygen fs)) {n : Int}
    {fs' : Fs} (hr : (Docs.main h env fs doxygen cwd argv).result = .ok (n, fs')) :
    Format.sourceFiles (pathFlavour h) fs' (projectRoot h) [] =
        Format.sourceFiles (pathFlavour h) fs (projectRoot h) [] ∧
      Lint.sourceFiles (pathFlavour h) fs' (projectRoot h) = Lint.sourceFiles (pathFlavour h) fs (projectRoot h) := by
  simp only [Docs.main, ha, hdd] at hr
  -- the run changed nothing outside docs/
  have hout : fs.SameOutside (projectRoot h ++ ["docs"]) fs' := by
    rcases Docs.docsIn_tree hr with rfl | ⟨-, ⟨-, -, hm⟩ | ⟨-, -, rfl⟩⟩
    · rfl
    · obtain ⟨real, hw, -, rfl⟩ := Fs.rmtree_eq_some.1 hm
      have hreal : real = projectRoot h ++ ["docs", "doxygen", "html"] := by
        rw [Fs.walk_eq_some hw]
        show normalize ((parsePath h.projectRoot).2 ++ ["docs"] ++ ["doxygen", "html"]) = _
        rw [List.append_assoc]
        exact normalize_append (by decide) _
      subst hreal
      exact (Fs.sameOutside_removeBelow _).mono (by simp [List.prefix_append_right_inj])
    · exact hdox
  have hsep : ∀ m, m ≠ "docs" → m ≠ ".." → (∀ c ∈ projectRoot h ++ [m], c ≠ "..") ∧
      ¬ (projectRoot h ++ ["docs"]) <+: projectRoot h ++ [m] ∧
      ¬ (projectRoot h ++ [m]) <+: projectRoot h ++ ["docs"] := fun m hm hm' =>
    ⟨fun c hc => (List.mem_append.1 hc).elim (dotdot_not_mem_projectRoot h c)
      fun hc => (List.mem_singleton.1 hc) ▸ hm', by simp [List.prefix_append_right_inj, Ne.symm hm],
      by simp [List.prefix_append_right_inj, hm]⟩
  constructor
  · simp only [Format.sourceFiles, if_true, Format.findSourceFiles]
    exact findSourceFiles_of_sameOutside hout (by
      simp only [Format.sourceDirs, List.forall_mem_cons, List.not_mem_nil, false_imp_iff, implies_true,
        and_true]
      exact ⟨hsep _ (by decide) (by decide), hsep _ (by decide) (by decide),
        hsep _ (by decide) (by decide)⟩) _ _ _
  · exact findSourceFiles_of_sameOutside hout (by
      simp only [Lint.sourceDirs, List.forall_mem_cons, List.not_mem_nil, false_imp_iff, implies_true,
        and_true]
      exact ⟨hsep _ (by decide) (by decide), hsep _ (by decide) (by decide)⟩) _ _ _

theorem docs_keeps_sources_doxygen :
    let fs : Fs :=
      ⟨[(["src"], .dir), (["src", "helios"], .dir), (["src", "helios", "docs"], .dir),
        (["src", "helios", "docs", "doxygen"], .dir),
        (["src", "helios", "docs", "doxygen", "Doxyfile"], .file),
        (["src", "helios", "src"], .dir), (["src", "helios", "src", "main.cpp"], .file)],
        by decide, by decide, by decide⟩
    let pages : Fs :=
      ⟨fs.entries ++ [(["src", "helios", "docs", "doxygen", "html"], .dir),
        (["src", "helios", "docs", "doxygen", "html", "index.html"], .file)],
        by decide, by decide, by decide⟩
    Docs.parseArguments [] = .ok ⟨false, false, none⟩ ∧
      (⟨false, false, none⟩ : Docs.Args).docsDir = none ∧
      fs.SameOutside (projectRoot (Host.ofTools .linux ["doxygen"]) ++ ["docs"]) ((fun _ => pages) fs) ∧
      (Docs.main (Host.ofTools .linux ["doxygen"]) [] fs (fun _ => pages) [] []).result = .ok (0, pages) ∧
      Format.sourceFiles (pathFlavour (Host.ofTools .linux ["doxygen"])) pages
          (projectRoot (Host.ofTools .linux ["doxygen"])) [] =
        Format.sourceFiles (pathFlavour (Host.ofTools .linux ["doxygen"])) fs
          (projectRoot (Host.ofTools .linux ["doxygen"])) [] ∧
        Lint.sourceFiles (pathFlavour (Host.ofTools .linux ["doxygen"])) pages
            (projectRoot (Host.ofTools .linux ["doxygen"])) =
          Lint.sourceFiles (pathFlavour (Host.ofTools .linux ["doxygen"])) fs
            (projectRoot (Host.ofTools .linux ["doxygen"])) := by
  intro fs pages
  have hdox : fs.SameOutside (projectRoot (Host.ofTools .linux ["doxygen"]) ++ ["docs"])
      ((fun _ => pages) fs) := by decide
  exact ⟨rfl, rfl, hdox, rfl,
    @docs_keeps_sources (Host.ofTools .linux ["doxygen"]) [] fs (fun _ => pages) [] [] ⟨false, false, none⟩
      rfl rfl hdox 0 pages rfl⟩

end Tools
end HeliosBuild
