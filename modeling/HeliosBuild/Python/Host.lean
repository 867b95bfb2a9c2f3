import Mathlib.Data.List.Nodup
import HeliosBuild.Python.Text

/-!
# The host the scripts run on

Everything the scripts learn from outside the interpreter: the operating
system, which commands `shutil.which` resolves, which files exist, what the
external tools print and return, the process environment and the project's
`build/` directory.  The static part is a `Host`; the environment and the
build tree change during a run and live in the script's world (`Script.lean`).

A claim about "any host" is a statement over every value of `Host`: its
functions are arbitrary, so no particular machine is assumed.
-/

namespace HeliosBuild

/-- `platform.system()`. -/
inductive System
  | windows
  | linux
  | darwin
  | other
  deriving DecidableEq, Repr

/-!
# String dictionaries

`os.environ`, its copies and the result of `read_cmake_cache` are all
string-to-string mappings.  On Windows `os.environ` upper-cases every key it
reads or writes; a plain copy (`os.environ.copy()`) and the cache dictionary
compare keys exactly.
-/

/-- A string dictionary in insertion order, one binding per key. -/
abbrev StrDict := List (String × String)

/-- `d.get(k)`. -/
def StrDict.get? (d : StrDict) (k : String) : Option String :=
  (d.find? fun p => p.1 = k).map Prod.snd

/-- `d[k] = v`: replace the binding of `k` in place, or add it at the end. -/
def StrDict.set (d : StrDict) (k v : String) : StrDict :=
  if d.any (fun p => p.1 = k) then d.map fun p => if p.1 = k then (k, v) else p
  else d ++ [(k, v)]

theorem StrDict.get?_cons (p : String × String) (d : StrDict) (k : String) :
    StrDict.get? (p :: d) k = if p.1 = k then some p.2 else d.get? k := by
  by_cases h : p.1 = k <;> simp [StrDict.get?, h]

theorem StrDict.get?_replace (d : StrDict) (k v k' : String) :
    StrDict.get? (d.map fun p => if p.1 = k then (k, v) else p) k' =
      if k' = k then (if d.any (fun p => p.1 = k) then some v else none) else d.get? k' := by
  induction d with
  | nil => simp [StrDict.get?]
  | cons p ps ih =>
    rw [List.map_cons, StrDict.get?_cons, StrDict.get?_cons, ih]
    by_cases hk : k' = k
    · subst hk
      by_cases hp : p.1 = k'
      · simp [hp]
      · simp only [List.any_cons, decide_eq_false hp, Bool.false_or]
        simp [hp]
    · by_cases hp : p.1 = k <;> simp [hp, hk, Ne.symm hk]

@[simp] theorem StrDict.get?_set (d : StrDict) (k v k' : String) :
    (d.set k v).get? k' = if k' = k then some v else d.get? k' := by
  unfold StrDict.set
  split
  · simp_all [StrDict.get?_replace]
  · rename_i hk
    have hn : d.find? (fun p => p.1 = k) = none :=
      List.find?_eq_none.2 fun p hp hpk => hk (List.any_eq_true.2 ⟨p, hp, hpk⟩)
    by_cases hkk : k' = k
    · subst hkk; simp [StrDict.get?, List.find?_append, hn]
    · simp [StrDict.get?, List.find?_append, hkk, Ne.symm hkk]

theorem StrDict.map_fst_set (d : StrDict) (k v : String) :
    (d.set k v).map Prod.fst =
      if d.any (fun p => p.1 = k) then d.map Prod.fst else d.map Prod.fst ++ [k] := by
  unfold StrDict.set
  split
  · simp only [List.map_map]
    congr 1
    funext p
    by_cases h : p.1 = k <;> simp [h]
  · simp

theorem StrDict.nodup_set {d : StrDict} (hd : (d.map Prod.fst).Nodup) (k v : String) :
    ((d.set k v).map Prod.fst).Nodup := by
  rw [StrDict.map_fst_set]
  split
  · exact hd
  · rename_i hk
    rw [List.nodup_append]
    refine ⟨hd, List.nodup_singleton _, ?_⟩
    simp only [List.disjoint_singleton, List.mem_map]
    rintro ⟨p, hp, rfl⟩
    exact hk (List.any_eq_true.mpr ⟨p, hp, by simp⟩)

abbrev Env := StrDict

def environKey (windows : Bool) (k : String) : String :=
  if windows then PyStr.upper k else k

@[simp] theorem environKey_environKey (windows : Bool) (k : String) :
    environKey windows (environKey windows k) = environKey windows k := by
  cases windows <;> simp [environKey]

/-!
# The build tree

`build/<type>/<platform>/` directories of the project, in the order
`Path.iterdir()` lists them.  Each holds, or not, the CMake cache and the
files Conan leaves behind.
-/

structure Workspace where
  cache : Option (List String)
  mtime : Nat
  conanToolchain : Bool
  conanBuild : Bool
  deriving DecidableEq, Repr

def Workspace.empty : Workspace :=
  { cache := none, mtime := 0, conanToolchain := false, conanBuild := false }

@[simp] theorem Workspace.getD_empty_cache (o : Option Workspace) :
    (o.getD Workspace.empty).cache = o.bind Workspace.cache := by
  cases o <;> rfl

structure WsKey where
  typeDir : String
  platDir : String
  deriving DecidableEq, Repr

structure Tree where
  entries : List (WsKey × Workspace)
  nodup : (entries.map Prod.fst).Nodup

namespace Tree

def find? (t : Tree) (k : WsKey) : Option Workspace :=
  (t.entries.find? fun p => p.1 = k).map Prod.snd

theorem find?_of_mem {t : Tree} {k : WsKey} {ws : Workspace} (h : (k, ws) ∈ t.entries) :
    t.find? k = some ws := by
  unfold find?
  cases hf : t.entries.find? (fun p => p.1 = k) with
  | none => simpa using List.find?_eq_none.1 hf _ h
  | some p =>
      have hk : p.1 = k := by simpa using List.find?_some hf
      simp [List.inj_on_of_nodup_map t.nodup (List.mem_of_find?_eq_some hf) h hk]

def update (t : Tree) (k : WsKey) (f : Workspace → Workspace) : Tree where
  entries := t.entries.map fun p => if p.1 = k then (p.1, f p.2) else p
  nodup := by
    have : (t.entries.map fun p => if p.1 = k then (p.1, f p.2) else p).map Prod.fst =
        t.entries.map Prod.fst := by
      simp only [List.map_map]
      congr 1
      funext p
      by_cases h : p.1 = k <;> simp [h]
    rw [this]
    exact t.nodup

/-- `mkdir(parents=True, exist_ok=True)`: create an empty workspace at `k` if absent. -/
def mkdir (t : Tree) (k : WsKey) : Tree :=
  if h : t.entries.any (fun p => p.1 = k) then t
  else
    { entries := t.entries ++ [(k, Workspace.empty)]
      nodup := by
        rw [List.map_append, List.nodup_append]
        refine ⟨t.nodup, List.nodup_singleton _, ?_⟩
        simp only [List.map_cons, List.map_nil, List.disjoint_singleton, List.mem_map]
        rintro ⟨p, hp, rfl⟩
        exact h (List.any_eq_true.mpr ⟨p, hp, by simp⟩) }

def single (k : WsKey) (ws : Workspace) : Tree where
  entries := [(k, ws)]
  nodup := List.nodup_singleton _

/-- `shutil.rmtree`: remove the directory `k`. -/
def rmtree (t : Tree) (k : WsKey) : Tree where
  entries := t.entries.filter fun p => p.1 ≠ k
  nodup := t.nodup.sublist ((List.filter_sublist t.entries).map Prod.fst)

theorem find?_isSome_iff {t : Tree} {k : WsKey} :
    (t.find? k).isSome ↔ t.entries.any (fun p => p.1 = k) := by
  simp [find?, List.find?_isSome, List.any_eq_true]

theorem mkdir_of_isSome {t : Tree} {k : WsKey} (h : (t.find? k).isSome) : t.mkdir k = t := by
  simp [mkdir, find?_isSome_iff.1 h]

@[simp] theorem find?_mkdir_self (t : Tree) (k : WsKey) :
    (t.mkdir k).find? k = some ((t.find? k).getD Workspace.empty) := by
  cases h : t.find? k with
  | some ws => simp [mkdir_of_isSome (t := t) (k := k) (by simp [h]), h]
  | none =>
    have hn : ¬ t.entries.any (fun p => p.1 = k) := fun ha => by simpa [h] using find?_isSome_iff.2 ha
    have hf : t.entries.find? (fun p => p.1 = k) = none := by simpa [find?] using h
    simp [mkdir, hn, find?, List.find?_append, hf]

theorem find?_mkdir_ne (t : Tree) {k k' : WsKey} (hk : k' ≠ k) :
    (t.mkdir k).find? k' = t.find? k' := by
  unfold mkdir
  split
  · rfl
  · simp [find?, List.find?_append, Ne.symm hk]

theorem find?_update (t : Tree) (k k' : WsKey) (f : Workspace → Workspace) :
    (t.update k f).find? k' = if k' = k then (t.find? k).map f else t.find? k' := by
  have hp : ((fun q : WsKey × Workspace => decide (q.1 = k')) ∘
      fun q => if q.1 = k then (q.1, f q.2) else q) = fun q => decide (q.1 = k') :=
    funext fun q => by by_cases hq : q.1 = k <;> simp [hq]
  simp only [update, find?, List.find?_map, hp]
  cases hq : t.entries.find? (fun q => decide (q.1 = k')) with
  | none =>
    by_cases hk : k' = k
    · subst hk; simp [hq]
    · simp [hk, hq]
  | some q =>
    have hq1 : q.1 = k' := by simpa using List.find?_some hq
    by_cases hk : k' = k
    · subst hk; simp [hq, hq1]
    · simp [hk, hq, hq1]

@[simp] theorem find?_rmtree_self (t : Tree) (k : WsKey) : (t.rmtree k).find? k = none := by
  simp [rmtree, find?, List.find?_filter]

end Tree

/-!
# Text encodings

`open()` without an encoding reads a file in the locale's encoding
(`locale.getpreferredencoding(False)`), strictly: a byte the encoding does not
map raises `UnicodeDecodeError`.  CMake writes `CMakeCache.txt` in UTF-8, so
what a script reads from one line of it is the line's UTF-8 bytes decoded.
A code page maps a line break's byte to the line break, so a file decodes line
by line.
-/

/-- What reading a line whose bytes are the UTF-8 form of a text gives: the text read, or
`none` where a byte does not decode. -/
abbrev Codec := String → Option String

def Codec.utf8 : Codec := some

/-- A single-byte code page, given by the character each byte decodes to. -/
def Codec.singleByte (table : UInt8 → Option Char) : Codec := fun s =>
  ((s.toList.flatMap String.utf8EncodeChar).mapM table).map String.mk

def cp1252High : List (Option Nat) :=
  [some 0x20AC, none, some 0x201A, some 0x192, some 0x201E, some 0x2026, some 0x2020, some 0x2021,
   some 0x2C6, some 0x2030, some 0x160, some 0x2039, some 0x152, none, some 0x17D, none,
   none, some 0x2018, some 0x2019, some 0x201C, some 0x201D, some 0x2022, some 0x2013, some 0x2014,
   some 0x2DC, some 0x2122, some 0x161, some 0x203A, some 0x153, none, some 0x17E, some 0x178]

/-- Windows-1252, the ANSI code page of Western European Windows. -/
def cp1252 (b : UInt8) : Option Char :=
  if b.toNat < 0x80 ∨ 0xA0 ≤ b.toNat then some (Char.ofNat b.toNat)
  else ((cp1252High.get? (b.toNat - 0x80)).getD none).map Char.ofNat

example : Codec.singleByte cp1252 "Ł" = none := by decide
example : Codec.singleByte cp1252 "é" = some "Ã©" := by decide

/-!
# The host

`which env cmd` is `shutil.which(cmd) is not None` in the environment `env`;
`fileExists` is `Path.exists()` outside the build tree; `vswhere` and `shell`
are what `vswhere.exe` and `<script> && set` print (`none` when they fail);
`rc` is a subprocess's return code and `stdout` what it prints when its output
is captured; `installDepsToolchain` says whether a run of `install_deps.py`
leaves a Conan toolchain and `cmakeCache` is the cache a successful `cmake`
writes; `clock` stamps the files a run writes.
-/

structure Host where
  system : System
  which : Env → String → Bool
  fileExists : String → Bool
  vswhere : String → Option String
  shell : String → Option (List String)
  rc : List String → Int
  installDepsToolchain : List String → Bool
  cmakeCache : List String → List String
  clock : Nat
  projectRoot : String
  encoding : Codec
  stdout : List String → String
  cpuCount : Nat

/-- `platform.system() == "Windows"`. -/
def Host.isWindows (h : Host) : Bool := h.system = .windows

def Host.ofTools (sys : System) (tools : List String) : Host where
  system := sys
  which := fun _ cmd => tools.contains cmd
  fileExists := fun _ => false
  vswhere := fun _ => none
  shell := fun _ => none
  rc := fun _ => 0
  installDepsToolchain := fun _ => false
  cmakeCache := fun _ => []
  clock := 1
  projectRoot := "/src/helios"
  encoding := Codec.utf8
  stdout := fun argv => argv.headD "" ++ " version 1.0.0"
  cpuCount := 4

/-- `get_platform_name()` of both scripts. -/
def platformName : System → String
  | .windows => "windows"
  | .linux => "linux"
  | .darwin => "macos"
  | .other => "unknown"

end HeliosBuild
