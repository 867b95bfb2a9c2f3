import Mathlib.Data.List.Sort
import HeliosBuild.Python.Script

/-!
# Workspaces in `build.py`

A workspace is a directory `build/<type>/<platform>/`; it is configured when
it holds `CMakeCache.txt`.  `build.py` lists the configured ones for its menu
(sorted Debug, Release, RelWithDebInfo), picks the most recently configured
one when it needs a default, and reads a build type back from a directory
name.  `select_build_dir_interactive` is the menu: build a workspace,
configure a new one, or reconfigure one.
-/

namespace HeliosBuild
namespace Build

/-- `get_build_dir(project_root, build_type)`. -/
def getBuildDir (sys : System) (buildType : String) : WsKey :=
  ⟨PyStr.lower buildType, platformName sys⟩

/-- The configured workspaces, in listing order. -/
def configuredEntries (t : Tree) : List (WsKey × Workspace) :=
  t.entries.filter fun e => e.2.cache.isSome

/-- `max(dirs, key=mtime)`: the first entry with the newest cache. -/
def newest : List (WsKey × Workspace) → Option (WsKey × Workspace)
  | [] => none
  | e :: rest =>
      match newest rest with
      | none => some e
      | some m => if e.2.mtime < m.2.mtime then some m else some e

/-- `find_configured_build_dir`. -/
def findConfiguredBuildDir (t : Tree) : Option WsKey :=
  (newest (configuredEntries t)).map Prod.fst

/-- The sort key of `find_all_configured_build_dirs`. -/
def typeOrder (k : WsKey) : Nat :=
  match PyStr.lower k.typeDir with
  | "debug" => 0
  | "release" => 1
  | "relwithdebinfo" => 2
  | _ => 999

/-- `find_all_configured_build_dirs`: a stable sort by build type. -/
def findAllConfiguredBuildDirs (t : Tree) : List WsKey :=
  ((configuredEntries t).map Prod.fst).insertionSort fun a b => typeOrder a ≤ typeOrder b

/-- `detect_build_type_from_dir`. -/
def detectBuildTypeFromDir (k : WsKey) : String :=
  let l := PyStr.lower k.typeDir
  if l = "debug" || l = "release" || l = "relwithdebinfo" then
    if l = "relwithdebinfo" then "RelWithDebInfo" else PyStr.capitalize k.typeDir
  else "Release"

/-- `is_configured(build_dir)`. -/
def isConfigured (t : Tree) (k : WsKey) : Bool :=
  ((t.find? k).bind Workspace.cache).isSome

theorem newest_mem {l : List (WsKey × Workspace)} {e : WsKey × Workspace}
    (h : newest l = some e) : e ∈ l := by
  induction l with
  | nil => cases h
  | cons x rest ih =>
      simp only [newest] at h
      split at h
      · cases h; exact List.mem_cons_self _ _
      · split at h <;> cases h
        · exact List.mem_cons_of_mem _ (ih ‹_›)
        · exact List.mem_cons_self _ _

theorem isConfigured_of_mem_configuredEntries {t : Tree} {e : WsKey × Workspace}
    (h : e ∈ configuredEntries t) : isConfigured t e.1 = true := by
  rw [configuredEntries, List.mem_filter] at h
  simp [isConfigured, Tree.find?_of_mem h.1, h.2]

theorem isConfigured_of_findConfiguredBuildDir {t : Tree} {d : WsKey}
    (h : findConfiguredBuildDir t = some d) : isConfigured t d = true := by
  obtain ⟨e, he, rfl⟩ := Option.map_eq_some'.1 h
  exact isConfigured_of_mem_configuredEntries (newest_mem he)

theorem isConfigured_of_mem_findAllConfiguredBuildDirs {t : Tree} {d : WsKey}
    (h : d ∈ findAllConfiguredBuildDirs t) : isConfigured t d = true := by
  obtain ⟨e, he, rfl⟩ := List.mem_map.1 ((List.perm_insertionSort _ _).mem_iff.1 h)
  exact isConfigured_of_mem_configuredEntries he

/-!
# The workspace menu
-/

abbrev Selection := Option WsKey × Bool × Option String

def menuChoice (s : String) : String :=
  let c := PyStr.strip s
  if c = "" then "1" else c

def withRead (e : Effect)
    (r : Except PyExc (Option Selection) × List InputEvent × List Effect) :
    Except PyExc (Option Selection) × List InputEvent × List Effect :=
  (r.1, r.2.1, e :: r.2.2)

inductive MenuQuestion
  | option
  | reconfigure
  deriving DecidableEq, Repr

def selectLoop (dirs : List WsKey) : MenuQuestion → List InputEvent →
    Except PyExc (Option Selection) × List InputEvent × List Effect
  | .option, [] => (.ok none, [], [.read .buildDirSelect .eof])
  | .option, ev :: rest =>
    match ev with
    | .eof => (.ok none, rest, [.read .buildDirSelect .eof])
    | .interrupt => (.ok none, rest, [.read .buildDirSelect .interrupt])
    | .line s =>
      let here := Effect.read .buildDirSelect (.line s)
      match PyStr.toInt (menuChoice s) with
      | none => withRead here (selectLoop dirs .option rest)
      | some idx =>
        if h : 1 ≤ idx ∧ idx ≤ dirs.length then
          let d := dirs.get ⟨(idx - 1).toNat, by omega⟩
          (.ok (some (some d, false, some (detectBuildTypeFromDir d))), rest, [here])
        else if idx = dirs.length + 1 then
          (.ok (some (none, true, none)), rest, [here])
        else if idx = dirs.length + 2 then
          withRead here (selectLoop dirs .reconfigure rest)
        else withRead here (selectLoop dirs .option rest)
  | .reconfigure, [] => (.error .eofError, [], [.read .reconfigureSelect .eof])
  | .reconfigure, ev :: rest =>
    match ev with
    | .eof => (.error .eofError, rest, [.read .reconfigureSelect .eof])
    | .interrupt => (.error .keyboardInterrupt, rest, [.read .reconfigureSelect .interrupt])
    | .line s =>
      let here := Effect.read .reconfigureSelect (.line s)
      match PyStr.toInt (menuChoice s) with
      | none => withRead here (selectLoop dirs .option rest)
      | some j =>
        if h : 1 ≤ j ∧ j ≤ dirs.length then
          let d := dirs.get ⟨(j - 1).toNat, by omega⟩
          (.ok (some (some d, true, some (detectBuildTypeFromDir d))), rest, [here])
        else withRead here (selectLoop dirs .option rest)

theorem selectLoop_stopsClean (dirs : List WsKey) (q : MenuQuestion) (ins : List InputEvent) :
    StopsClean (selectLoop dirs q ins).2.2 (selectLoop dirs q ins).1 := by
  induction q, ins using selectLoop.induct dirs with
  | case1 | case2 | case3 => exact .single rfl
  | case9 | case10 | case11 => exact .single_interrupted rfl
  | case4 _ _ hc ih | case12 _ _ hc ih =>
      simp only [selectLoop, withRead, hc]; exact ih.cons rfl
  | case5 _ _ _ hc h | case13 _ _ _ hc h =>
      simp only [selectLoop, hc, dif_pos h]; exact .single rfl
  | case6 _ _ hc h => simp only [selectLoop, hc, dif_neg h, if_pos rfl]; exact .single rfl
  | case7 _ _ hc h h' ih =>
      simp only [selectLoop, withRead, hc, dif_neg h, if_neg h', if_pos rfl]; exact ih.cons rfl
  | case8 _ _ _ hc h h' h'' ih =>
      simp only [selectLoop, withRead, hc, dif_neg h, if_neg h', if_neg h'']; exact ih.cons rfl
  | case14 _ _ _ hc h ih => simp only [selectLoop, withRead, hc, dif_neg h]; exact ih.cons rfl

theorem selectLoop_selection (dirs : List WsKey) (q : MenuQuestion) (ins : List InputEvent)
    {s : Selection} (h : (selectLoop dirs q ins).1 = .ok (some s)) :
    s = (none, true, none) ∨
      ∃ d ∈ dirs, ∃ needs, s = (some d, needs, some (detectBuildTypeFromDir d)) := by
  revert h
  induction q, ins using selectLoop.induct dirs with
  | case1 | case2 | case3 | case9 | case10 | case11 => simp [selectLoop]
  | case4 _ _ hc ih | case12 _ _ hc ih => simpa only [selectLoop, hc] using ih
  | case5 _ _ _ hc hi | case13 _ _ _ hc hi =>
      simp only [selectLoop, hc, dif_pos hi, Except.ok.injEq, Option.some.injEq]
      exact fun h => .inr ⟨_, List.get_mem _ _ _, _, h.symm⟩
  | case6 _ _ hc hi =>
      simp only [selectLoop, hc, dif_neg hi, ↓reduceIte, Except.ok.injEq, Option.some.injEq]
      exact fun h => .inl h.symm
  | case7 _ _ hc hi hi' ih => simpa only [selectLoop, hc, dif_neg hi, if_neg hi', if_pos rfl] using ih
  | case8 _ _ _ hc hi hi' hi'' ih =>
      simpa only [selectLoop, hc, dif_neg hi, if_neg hi', if_neg hi''] using ih
  | case14 _ _ _ hc hi ih => simpa only [selectLoop, hc, dif_neg hi] using ih

def LastReadDecides (r : Except PyExc (Option Selection) × List InputEvent × List Effect) : Prop :=
  r.2.2 ≠ [] ∧
    (r.1 = .ok none ↔
      ∃ ev, ev.interrupts = true ∧ r.2.2.getLast? = some (.read .buildDirSelect ev)) ∧
    ∀ e, r.1 = .error e →
      ∃ ev, ev.interrupts = true ∧ r.2.2.getLast? = some (.read .reconfigureSelect ev)

theorem LastReadDecides.withRead {r : Except PyExc (Option Selection) × List InputEvent × List Effect}
    (e : Effect) (h : LastReadDecides r) : LastReadDecides (withRead e r) := by
  obtain ⟨res, rest, _ | ⟨x, effs⟩⟩ := r
  · exact absurd rfl h.1
  · simpa [LastReadDecides, Build.withRead] using h

theorem LastReadDecides.selected {x : Selection} {rest : List InputEvent} {p : Prompt} {s : String} :
    LastReadDecides (.ok (some x), rest, [.read p (.line s)]) := by
  simp [LastReadDecides, InputEvent.interrupts]

theorem selectLoop_lastReadDecides (dirs : List WsKey) (q : MenuQuestion) (ins : List InputEvent) :
    LastReadDecides (selectLoop dirs q ins) := by
  induction q, ins using selectLoop.induct dirs with
  | case1 | case2 | case3 | case9 | case10 | case11 =>
      simp [LastReadDecides, selectLoop, InputEvent.interrupts]
  | case4 _ _ hc ih | case12 _ _ hc ih => simp only [selectLoop, hc]; exact ih.withRead _
  | case5 _ _ _ hc h | case13 _ _ _ hc h => simp only [selectLoop, hc, dif_pos h]; exact .selected
  | case6 _ _ hc h => simp only [selectLoop, hc, dif_neg h, if_pos rfl]; exact .selected
  | case7 _ _ hc h h' ih =>
      simp only [selectLoop, hc, dif_neg h, if_neg h', if_pos rfl]; exact ih.withRead _
  | case8 _ _ _ hc h h' h'' ih =>
      simp only [selectLoop, hc, dif_neg h, if_neg h', if_neg h'']; exact ih.withRead _
  | case14 _ _ _ hc h ih => simp only [selectLoop, hc, dif_neg h]; exact ih.withRead _

end Build
end HeliosBuild
