import Mathlib.Data.List.Sort
import Mathlib.Data.List.Lex
import Mathlib.Data.Char
import HeliosBuild.Python.Text

/-!
# Paths and the file tree

`format.py` and `lint.py` find what they check with `pathlib`.  They parse
the paths they are given, join them to the project root and resolve them,
ask whether they exist, walk directories with `rglob` and `glob`, test
`relative_to` and sort what they found.  This module models a path as the
list of its parts below the root, and the machine's files as a tree of named
entries.  `Shared.lean` builds `find_source_files` on it, and the scripts'
`main` functions are in `Format.lean`, `Lint.lean` and `Docs.lean`.

The flavour of `pathlib` decides how paths compare: on Windows parts are
compared after `str.lower` and glob patterns match without regard to case.
Paths are written and parsed with `/` on every host, and the tree is looked
up by exact names, as on a case-sensitive file system.  The tree has no
symbolic links, so `resolve()` is the lexical normalisation of `..`.  The
kernel looks a path up part by part, and a `..` that the scripts leave
unresolved still passes through the directory before it.
-/

namespace HeliosBuild
namespace Tools

/-!
## Parsing paths
-/

def ProperName (c : String) : Prop :=
  c ≠ "" ∧ c ≠ "." ∧ c ≠ ".." ∧ '/' ∉ c.toList

instance : DecidablePred ProperName := fun _ => inferInstanceAs (Decidable (_ ∧ _))

/-- `Path(s)` on POSIX: whether `s` starts at the root, and its parts. -/
def parsePath (s : String) : Bool × List String :=
  (s.toList.head? == some '/', (PyStr.splitBy (· == '/') s).filter fun c => c ≠ "" ∧ c ≠ ".")

/-- `p / s`: the parts of `s` after those of `p`, or only those of `s` when `s` is absolute. -/
def joinPath (p : List String) (s : String) : List String :=
  if (parsePath s).1 then (parsePath s).2 else p ++ (parsePath s).2

/-- `str(path)` of an absolute path. -/
def pathStr (parts : List String) : String :=
  "/" ++ "/".intercalate parts

/-- `Path.resolve()` on a tree without symbolic links: each `..` drops the part before it, and at the root stays there. -/
def normalize (parts : List String) : List String :=
  parts.foldl (fun acc c => if c = ".." then acc.dropLast else acc ++ [c]) []

theorem splitCharsBy_ne_nil (p : Char → Bool) (l : List Char) : PyStr.splitCharsBy p l ≠ [] := by
  induction l with
  | nil => simp [PyStr.splitCharsBy]
  | cons c rest ih =>
    unfold PyStr.splitCharsBy
    split
    · simp
    · split <;> simp_all

theorem splitCharsBy_append_sep {p : Char → Bool} {c : Char} (hc : p c = true) (a b : List Char) :
    PyStr.splitCharsBy p (a ++ c :: b) = PyStr.splitCharsBy p a ++ PyStr.splitCharsBy p b := by
  induction a with
  | nil => simp [PyStr.splitCharsBy, hc]
  | cons x xs ih =>
    by_cases hx : p x = true
    · simp [PyStr.splitCharsBy, hx, ih]
    · obtain ⟨run, runs, hr⟩ := List.exists_cons_of_ne_nil (splitCharsBy_ne_nil p xs)
      simp [PyStr.splitCharsBy, hx, ih, hr]

theorem splitCharsBy_of_forall {p : Char → Bool} {a : List Char} (ha : ∀ x ∈ a, p x = false) :
    PyStr.splitCharsBy p a = [a] := by
  induction a with
  | nil => rfl
  | cons x xs ih =>
    have hx : p x = false := ha x (List.mem_cons_self _ _)
    simp [PyStr.splitCharsBy, hx, ih fun y hy => ha y (List.mem_cons_of_mem _ hy)]

theorem parsePath_append (a b : String) :
    (parsePath (a ++ "/" ++ b)).2 = (parsePath a).2 ++ (parsePath b).2 := by
  have h : (a ++ "/" ++ b).toList = a.toList ++ '/' :: b.toList := by
    simp [String.data_append]
  simp [parsePath, PyStr.splitBy, h, splitCharsBy_append_sep (p := (· == '/')) (c := '/') rfl]

theorem parsePath_proper {c : String} (hc : ProperName c) : (parsePath c).2 = [c] := by
  obtain ⟨he, hd, -, hs⟩ := hc
  have : PyStr.splitBy (· == '/') c = [c] := by
    rw [PyStr.splitBy, splitCharsBy_of_forall fun x hx =>
      beq_eq_false_iff_ne.2 (by rintro rfl; exact hs hx)]
    rfl
  simp [parsePath, this, he, hd]

/-!
## Resolving `..`
-/

theorem foldl_normalize_plain {q : List String} (hq : ∀ c ∈ q, c ≠ "..") (acc : List String) :
    q.foldl (fun acc c => if c = ".." then acc.dropLast else acc ++ [c]) acc = acc ++ q := by
  induction q generalizing acc with
  | nil => simp
  | cons c rest ih =>
    simp only [List.foldl_cons, if_neg (hq c (List.mem_cons_self _ _))]
    rw [ih fun d hd => hq d (List.mem_cons_of_mem _ hd)]
    simp

theorem normalize_append {q : List String} (hq : ∀ c ∈ q, c ≠ "..") (p : List String) :
    normalize (p ++ q) = normalize p ++ q := by
  rw [normalize, List.foldl_append, foldl_normalize_plain hq]
  rfl

theorem dotdot_not_mem_normalize (p : List String) : ∀ c ∈ normalize p, c ≠ ".." := by
  suffices ∀ acc : List String, (∀ c ∈ acc, c ≠ "..") →
      ∀ c ∈ p.foldl (fun acc c => if c = ".." then acc.dropLast else acc ++ [c]) acc, c ≠ ".." from
    this [] (by simp)
  induction p with
  | nil => exact fun _ h => h
  | cons d rest ih =>
    intro acc hacc
    apply ih
    by_cases hd : d = ".."
    · simpa [hd] using fun c hc => hacc c (List.dropLast_subset _ hc)
    · simp only [hd, if_false, List.mem_append, List.mem_singleton]
      rintro c (hc | rfl)
      · exact hacc c hc
      · exact hd

/-!
## Flavours
-/

inductive Flavour
  | posix
  | windows
  deriving DecidableEq, Repr

namespace Flavour

/-- `casefold`: `str.lower` on Windows. -/
def casefold : Flavour → String → String
  | posix, s => s
  | windows, s => PyStr.lower s

/-- `casefold_parts`: the parts of a path as the flavour compares them. -/
def casefoldParts (fl : Flavour) (p : List String) : List String := p.map fl.casefold

/-- Whether `name` matches the pattern `*` followed by `tail`, compiled by the flavour's
`compile_pattern` (with `re.IGNORECASE` on Windows). -/
def matchesTail : Flavour → String → String → Bool
  | posix, tail, name => tail.toList.isSuffixOf name.toList
  | windows, tail, name =>
    decide (tail.length ≤ name.length) &&
      ((name.toList.drop (name.length - tail.length)).zip tail.toList).all
        fun x => Unicode.ignoreCaseMatches x.2 x.1

def foldChars : Flavour → String → List Char
  | posix, s => s.toList
  | windows, s => s.toList.map Unicode.ignoreCaseFold

@[simp] theorem casefoldParts_posix (p : List String) : posix.casefoldParts p = p := by
  have : posix.casefold = id := funext fun _ => rfl
  simp [casefoldParts, this]

theorem casefoldParts_append (fl : Flavour) (p q : List String) :
    fl.casefoldParts (p ++ q) = fl.casefoldParts p ++ fl.casefoldParts q :=
  List.map_append _ _ _

theorem map_fold_of_zip {xs ys : List Char} (hl : xs.length = ys.length)
    (h : (xs.zip ys).all (fun x => Unicode.ignoreCaseMatches x.2 x.1) = true) :
    xs.map Unicode.ignoreCaseFold = ys.map Unicode.ignoreCaseFold := by
  induction xs generalizing ys with
  | nil => cases ys <;> simp_all
  | cons x xs ih =>
    cases ys with
    | nil => simp at hl
    | cons y ys =>
      simp only [List.zip_cons_cons, List.all_cons, Bool.and_eq_true] at h
      simp [Unicode.ignoreCaseFold_of_matches h.1, ih (by simpa using hl) h.2]

/-- A name that matches `*` followed by `tail` ends with `tail`, folded as the flavour matches. -/
theorem foldChars_suffix {fl : Flavour} {tail name : String} (h : fl.matchesTail tail name = true) :
    fl.foldChars tail <:+ fl.foldChars name := by
  cases fl with
  | posix => exact List.isSuffixOf_iff_suffix.1 h
  | windows =>
    simp only [matchesTail, Bool.and_eq_true, decide_eq_true_eq] at h
    have hl : (name.toList.drop (name.length - tail.length)).length = tail.toList.length := by
      simp only [List.length_drop, String.length, String.toList] at h ⊢
      omega
    rw [foldChars, foldChars, ← map_fold_of_zip hl h.2]
    exact (List.drop_suffix _ _).map _

end Flavour

/-- The paths `rglob` yields past its `yielded` set, and the members of `set(paths)`: the first
of each class of paths the flavour counts as equal, in order. -/
def uniquePaths (fl : Flavour) : List (List String) → List (List String)
  | [] => []
  | p :: rest => p :: (uniquePaths fl rest).filter fun q => fl.casefoldParts q ≠ fl.casefoldParts p

theorem mem_of_mem_uniquePaths {fl : Flavour} {l : List (List String)} {x : List String}
    (h : x ∈ uniquePaths fl l) : x ∈ l := by
  induction l with
  | nil => simp [uniquePaths] at h
  | cons p rest ih =>
    simp only [uniquePaths, List.mem_cons, List.mem_filter] at h
    rcases h with rfl | ⟨h, -⟩
    · exact List.mem_cons_self _ _
    · exact List.mem_cons_of_mem _ (ih h)

theorem exists_mem_uniquePaths {fl : Flavour} {l : List (List String)} {x : List String}
    (h : x ∈ l) : ∃ y ∈ uniquePaths fl l, fl.casefoldParts y = fl.casefoldParts x := by
  induction l with
  | nil => simp at h
  | cons p rest ih =>
    rcases List.mem_cons.1 h with rfl | h
    · exact ⟨x, List.mem_cons_self _ _, rfl⟩
    · obtain ⟨y, hy, hyx⟩ := ih h
      by_cases hp : fl.casefoldParts y = fl.casefoldParts p
      · exact ⟨p, List.mem_cons_self _ _, hp ▸ hyx⟩
      · exact ⟨y, List.mem_cons_of_mem _ (List.mem_filter.2 ⟨hy, by simpa using hp⟩), hyx⟩

theorem nodup_uniquePaths (fl : Flavour) (l : List (List String)) :
    ((uniquePaths fl l).map fl.casefoldParts).Nodup := by
  induction l with
  | nil => exact List.nodup_nil
  | cons p rest ih =>
    simp only [uniquePaths, List.map_cons, List.nodup_cons, List.mem_map, List.mem_filter]
    exact ⟨fun ⟨q, ⟨_, hq⟩, he⟩ => by simp_all, ((List.filter_sublist _).map _).nodup ih⟩

theorem uniquePaths_eq_self {fl : Flavour} {l : List (List String)}
    (h : (l.map fl.casefoldParts).Nodup) : uniquePaths fl l = l := by
  induction l with
  | nil => rfl
  | cons p rest ih =>
    rw [List.map_cons, List.nodup_cons] at h
    rw [uniquePaths, ih h.2, List.filter_eq_self.2 fun q hq => by
      simpa using fun he : fl.casefoldParts q = fl.casefoldParts p => h.1 (he ▸ List.mem_map_of_mem _ hq)]

/-!
## The file tree
-/

inductive Kind
  | file
  | dir
  deriving DecidableEq, Repr, Inhabited

structure Fs where
  entries : List (List String × Kind)
  nodup : (entries.map Prod.fst).Nodup
  named : ∀ e ∈ entries, e.1 ≠ [] ∧ ∀ c ∈ e.1, ProperName c
  parent : ∀ e ∈ entries, e.1.dropLast = [] ∨ (e.1.dropLast, Kind.dir) ∈ entries

namespace Fs

variable (fs : Fs)

def kind? (p : List String) : Option Kind :=
  if p = [] then some .dir else (fs.entries.find? fun e => e.1 = p).map Prod.snd

def walk : List String → List String → Option (List String)
  | cur, [] => some cur
  | cur, c :: rest =>
    let next := if c = ".." then cur.dropLast else cur ++ [c]
    if fs.kind? cur = some .dir ∧ (fs.kind? next).isSome then walk next rest else none

/-- `p.exists()` for an absolute path. -/
def pathExists (p : List String) : Bool := (fs.walk [] p).isSome

/-- `p.is_file()`. -/
def isFile (p : List String) : Bool := (fs.walk [] p).bind fs.kind? == some .file

/-- `p.is_dir()`. -/
def isDir (p : List String) : Bool := (fs.walk [] p).bind fs.kind? == some .dir

variable {fs}

theorem kind?_eq_some {p : List String} {k : Kind} :
    fs.kind? p = some k ↔ (p = [] ∧ k = .dir) ∨ (p, k) ∈ fs.entries := by
  by_cases hp : p = []
  · subst hp
    have : ([], k) ∉ fs.entries := fun h => (fs.named _ h).1 rfl
    simp [kind?, this, eq_comm]
  · simp only [kind?, hp, if_false, false_and, false_or, Option.map_eq_some']
    constructor
    · rintro ⟨e, he, rfl⟩
      have hp' : e.1 = p := by simpa using List.find?_some he
      exact hp' ▸ List.mem_of_find?_eq_some he
    · intro hm
      cases hf : fs.entries.find? (fun e => e.1 = p) with
      | none => simpa using List.find?_eq_none.1 hf _ hm
      | some e =>
        have he1 : e.1 = p := by simpa using List.find?_some hf
        have := List.inj_on_of_nodup_map fs.nodup (List.mem_of_find?_eq_some hf) hm he1
        exact ⟨e, rfl, by rw [this]⟩

theorem kind?_parent {p : List String} {c : String} (h : (fs.kind? (p ++ [c])).isSome) :
    fs.kind? p = some .dir := by
  obtain ⟨k, hk⟩ := Option.isSome_iff_exists.1 h
  rcases kind?_eq_some.1 hk with ⟨hn, -⟩ | hm
  · simp at hn
  · rcases fs.parent _ hm with hd | hd <;> simp only [List.dropLast_concat] at hd
    · subst hd; rfl
    · exact kind?_eq_some.2 (.inr hd)

theorem kind?_dir_of_append {p q : List String} (h : (fs.kind? (p ++ q)).isSome) (hq : q ≠ []) :
    fs.kind? p = some .dir := by
  induction q generalizing p with
  | nil => exact absurd rfl hq
  | cons c rest ih =>
    by_cases hr : rest = []
    · subst hr; exact kind?_parent h
    · have : fs.kind? (p ++ [c]) = some .dir := ih (by rwa [List.append_cons] at h) hr
      exact kind?_parent (c := c) (by simp [this])

theorem kind?_isSome_of_append {p q : List String} (h : (fs.kind? (p ++ q)).isSome) :
    (fs.kind? p).isSome := by
  by_cases hq : q = []
  · simpa [hq] using h
  · simp [kind?_dir_of_append h hq]

theorem walk_plain {q : List String} (hq : ∀ c ∈ q, c ≠ "..") {p : List String}
    (hp : fs.kind? p = some .dir) :
    fs.walk p q = if (fs.kind? (p ++ q)).isSome then some (p ++ q) else none := by
  induction q generalizing p with
  | nil => simp [walk, hp]
  | cons c rest ih =>
    have hc : c ≠ ".." := hq c (List.mem_cons_self _ _)
    have hrest : ∀ d ∈ rest, d ≠ ".." := fun d hd => hq d (List.mem_cons_of_mem _ hd)
    rw [List.append_cons]
    simp only [walk, hc, if_false, hp, true_and]
    cases hk : fs.kind? (p ++ [c]) with
    | none =>
      have : ¬ (fs.kind? (p ++ [c] ++ rest)).isSome := fun h => by
        simpa [hk] using kind?_isSome_of_append h
      rw [if_neg this]
      simp
    | some k =>
      cases k with
      | dir => simpa using ih hrest hk
      | file =>
        cases rest with
        | nil => simp [walk, hk]
        | cons d ds =>
          have : ¬ (fs.kind? (p ++ [c] ++ d :: ds)).isSome := fun h => by
            simpa [hk] using kind?_dir_of_append h (List.cons_ne_nil d ds)
          rw [if_neg this]
          simp [walk, hk]

theorem walk_nil_plain {q : List String} (hq : ∀ c ∈ q, c ≠ "..") :
    fs.walk [] q = if (fs.kind? q).isSome then some q else none := by
  simpa using walk_plain hq (p := []) rfl

theorem walk_of_pathExists {p : List String} (hp : ∀ c ∈ p, c ≠ "..") (he : fs.pathExists p = true) :
    fs.walk [] p = some p := by
  unfold pathExists at he
  rw [walk_nil_plain hp] at he ⊢
  split_ifs at he ⊢ with hk
  · rfl
  · simp at he

theorem entry_of_isFile {p : List String} (hw : fs.walk [] p = some p) (hf : fs.isFile p = true) :
    (p, Kind.file) ∈ fs.entries := by
  simp only [isFile, hw, Option.some_bind, beq_iff_eq] at hf
  rcases kind?_eq_some.1 hf with ⟨-, h⟩ | h
  · cases h
  · exact h

theorem walk_append (p q : List String) (cur : List String) :
    fs.walk cur (p ++ q) = (fs.walk cur p).bind (fs.walk · q) := by
  induction p generalizing cur with
  | nil => rfl
  | cons c rest ih =>
    simp only [List.cons_append, walk]
    split_ifs <;> simp [ih]

theorem kind?_isSome_of_walk {q cur r : List String} (hc : (fs.kind? cur).isSome)
    (hw : fs.walk cur q = some r) : (fs.kind? r).isSome := by
  induction q generalizing cur with
  | nil => exact Option.some_inj.1 hw ▸ hc
  | cons c rest ih =>
    dsimp only [walk] at hw
    generalize (if c = ".." then cur.dropLast else cur ++ [c]) = next at hw
    split_ifs at hw with hcond
    exact ih hcond.2 hw

theorem walk_eq_some {q cur r : List String} (hw : fs.walk cur q = some r) :
    r = q.foldl (fun acc c => if c = ".." then acc.dropLast else acc ++ [c]) cur := by
  induction q generalizing cur with
  | nil => exact (Option.some_inj.1 hw).symm
  | cons c rest ih =>
    dsimp only [walk] at hw
    simp only [List.foldl_cons]
    generalize (if c = ".." then cur.dropLast else cur ++ [c]) = next at hw ⊢
    split_ifs at hw
    exact ih hw

theorem walk_concat_ne_nil {p : List String} {c : String} (hc : c ≠ "..") {cur r : List String}
    (hw : fs.walk cur (p ++ [c]) = some r) : r ≠ [] := by
  obtain ⟨m, -, hm⟩ := Option.bind_eq_some.1 ((walk_append p [c] cur).symm.trans hw)
  simp only [walk, hc, if_false] at hm
  split_ifs at hm
  simp [← Option.some_inj.1 hm]

theorem walk_mono {fs' : Fs} (hk : ∀ x k, fs'.kind? x = some k → fs.kind? x = some k)
    {q cur r : List String} (hw : fs'.walk cur q = some r) : fs.walk cur q = some r := by
  induction q generalizing cur with
  | nil => exact hw
  | cons c rest ih =>
    dsimp only [walk] at hw ⊢
    generalize (if c = ".." then cur.dropLast else cur ++ [c]) = next at hw ⊢
    split_ifs at hw with hcond
    obtain ⟨k, hk'⟩ := Option.isSome_iff_exists.1 hcond.2
    rw [if_pos ⟨hk _ _ hcond.1, by simp [hk _ _ hk']⟩]
    exact ih hw

/-!
## Walking directories
-/

/-- Whether the name of `p` matches the pattern `*` followed by `tail`. -/
def globTail (fl : Flavour) (tail : String) (p : List String) : Bool :=
  (p.getLast?.map (fl.matchesTail tail)).getD false

def below (real : List String) (e : List String) : Bool :=
  real.isPrefixOf e && real.length < e.length

theorem below_iff {real e : List String} :
    below real e = true ↔ real <+: e ∧ real.length < e.length := by
  simp [below, List.isPrefixOf_iff_prefix]

theorem globTail_exclusive {fl : Flavour} {a b : String}
    (hab : ¬ fl.foldChars a <:+ fl.foldChars b ∧ ¬ fl.foldChars b <:+ fl.foldChars a)
    {p : List String} (ha : globTail fl a p = true) (hb : globTail fl b p = true) : False := by
  unfold globTail at ha hb
  cases hl : p.getLast? with
  | none => simp [hl] at ha
  | some n =>
    simp only [hl, Option.map_some', Option.getD_some] at ha hb
    rcases List.suffix_or_suffix_of_suffix (Flavour.foldChars_suffix ha)
      (Flavour.foldChars_suffix hb) with h | h
    exacts [hab.1 h, hab.2 h]

theorem append_drop_of_below {real e : List String} (h : below real e = true) :
    real ++ e.drop real.length = e := by
  obtain ⟨r, rfl⟩ := (below_iff.1 h).1
  simp

theorem below_exclusive {a b : List String} (hab : ¬ a <+: b ∧ ¬ b <+: a) {p : List String}
    (ha : below a p = true) (hb : below b p = true) : False := by
  rcases List.prefix_or_prefix_of_prefix (below_iff.1 ha).1 (below_iff.1 hb).1 with h | h
  exacts [hab.1 h, hab.2 h]

variable (fs)

/-- The flavour tells the entries of the tree apart: on Windows, no two differ only in case. -/
def Distinct (fl : Flavour) : Prop := (fs.entries.map fun e => fl.casefoldParts e.1).Nodup

instance (fl : Flavour) : Decidable (fs.Distinct fl) := inferInstanceAs (Decidable (List.Nodup _))

/-- What `rglob` walks to: the entries below `d` whose names match, as paths from `d`. -/
def rglobAll (fl : Flavour) (d : List String) (tail : String) : List (List String) :=
  match fs.walk [] d with
  | some real =>
    (fs.entries.filter fun e => below real e.1 && globTail fl tail e.1).map
      fun e => d ++ e.1.drop real.length
  | none => []

/-- `d.rglob("*" + tail)`. -/
def rglob (fl : Flavour) (d : List String) (tail : String) : List (List String) :=
  uniquePaths fl (fs.rglobAll fl d tail)

def subdirs (real : List String) : List String :=
  fs.entries.filterMap fun e =>
    if e.2 = .dir ∧ e.1.dropLast = real then e.1.getLast? else none

def globDirs : Nat → List String → List (List String)
  | 0, _ => [[]]
  | k + 1, real => (fs.subdirs real).flatMap fun a => (globDirs k (real ++ [a])).map (a :: ·)

def globParents (base : List String) (k : Nat) (name : String) : List (List String) :=
  match fs.walk [] base with
  | some real =>
    ((fs.globDirs k real).filter fun rel => (fs.kind? (real ++ rel ++ [name])).isSome).map (base ++ ·)
  | none => []

variable {fs}

theorem distinct_posix : fs.Distinct .posix := by
  simpa [Distinct] using fs.nodup

theorem mem_rglobAll {fl : Flavour} {d : List String} {tail : String} {x : List String} :
    x ∈ fs.rglobAll fl d tail ↔ ∃ real, fs.walk [] d = some real ∧ ∃ e ∈ fs.entries,
      below real e.1 = true ∧ globTail fl tail e.1 = true ∧ x = d ++ e.1.drop real.length := by
  unfold rglobAll
  cases fs.walk [] d with
  | none => simp
  | some real =>
    simp only [List.mem_map, List.mem_filter, Bool.and_eq_true, Option.some.injEq, exists_eq_left']
    constructor
    · rintro ⟨e, ⟨he, hb, ht⟩, rfl⟩
      exact ⟨e, he, hb, ht, rfl⟩
    · rintro ⟨e, he, hb, ht, rfl⟩
      exact ⟨e, ⟨he, hb, ht⟩, rfl⟩

theorem mem_rglobAll_plain {fl : Flavour} {d : List String} (hd : ∀ c ∈ d, c ≠ "..") {tail : String}
    {x : List String} :
    x ∈ fs.rglobAll fl d tail ↔ (∃ k, (x, k) ∈ fs.entries) ∧ below d x = true ∧ globTail fl tail x = true := by
  unfold rglobAll
  rw [walk_nil_plain hd]
  split_ifs with he
  · simp only [List.mem_map, List.mem_filter, Bool.and_eq_true]
    constructor
    · rintro ⟨e, ⟨hm, hb, ht⟩, rfl⟩
      rw [append_drop_of_below hb]
      exact ⟨⟨e.2, hm⟩, hb, ht⟩
    · rintro ⟨⟨k, hm⟩, hb, ht⟩
      obtain ⟨r, rfl⟩ := (below_iff.1 hb).1
      exact ⟨(d ++ r, k), ⟨hm, hb, ht⟩, by simp⟩
  · simp only [List.not_mem_nil, false_iff, not_and]
    rintro ⟨k, hm⟩ hb -
    obtain ⟨r, rfl⟩ := (below_iff.1 hb).1
    exact he (kind?_isSome_of_append (q := r) (by simp [kind?_eq_some.2 (.inr hm)]))

theorem prefix_of_mem_rglob {fl : Flavour} {d : List String} {tail : String} {x : List String}
    (hx : x ∈ fs.rglob fl d tail) : d <+: x := by
  obtain ⟨real, -, e, -, -, -, rfl⟩ := mem_rglobAll.1 (mem_of_mem_uniquePaths hx)
  exact List.prefix_append _ _

theorem nodup_rglob (fl : Flavour) (d : List String) (tail : String) : (fs.rglob fl d tail).Nodup :=
  (nodup_uniquePaths fl _).of_map _

/-- Where the flavour tells the entries apart, `rglob`'s `yielded` set drops nothing. -/
theorem rglob_eq_rglobAll {fl : Flavour} (hd : fs.Distinct fl) (d : List String) (tail : String) :
    fs.rglob fl d tail = fs.rglobAll fl d tail := by
  refine uniquePaths_eq_self ?_
  unfold rglobAll
  cases fs.walk [] d with
  | none => exact List.nodup_nil
  | some real =>
    rw [List.map_map]
    refine List.Nodup.map_on (fun e he e' he' h => ?_) (fs.nodup.of_map _ |>.filter _)
    have hb : ∀ e ∈ fs.entries.filter (fun e => below real e.1 && globTail fl tail e.1),
        real ++ e.1.drop real.length = e.1 := fun e he =>
      append_drop_of_below (Bool.and_eq_true _ _ ▸ (List.mem_filter.1 he).2).1
    have h1 : fl.casefoldParts e.1 = fl.casefoldParts e'.1 := by
      simp only [Function.comp, Flavour.casefoldParts_append] at h
      rw [← hb e he, ← hb e' he', Flavour.casefoldParts_append, Flavour.casefoldParts_append,
        List.append_cancel_left h]
    exact List.inj_on_of_nodup_map hd (List.mem_filter.1 he).1 (List.mem_filter.1 he').1 h1

/-- Two paths `rglob` yields below one directory that the flavour counts as equal are one path,
where the flavour tells the entries apart. -/
theorem eq_of_mem_rglob {fl : Flavour} (hd : fs.Distinct fl) {d : List String} {tail tail' : String}
    {a b : List String} (ha : a ∈ fs.rglob fl d tail) (hb : b ∈ fs.rglob fl d tail')
    (hab : fl.casefoldParts a = fl.casefoldParts b) : a = b := by
  obtain ⟨real, hw, e, he, hbe, -, rfl⟩ := mem_rglobAll.1 (mem_of_mem_uniquePaths ha)
  obtain ⟨real', hw', e', he', hbe', -, rfl⟩ := mem_rglobAll.1 (mem_of_mem_uniquePaths hb)
  obtain rfl : real = real' := Option.some_inj.1 (hw.symm.trans hw')
  rw [Flavour.casefoldParts_append, Flavour.casefoldParts_append] at hab
  have h1 : fl.casefoldParts e.1 = fl.casefoldParts e'.1 := by
    rw [← append_drop_of_below hbe, ← append_drop_of_below hbe', Flavour.casefoldParts_append, Flavour.casefoldParts_append,
      List.append_cancel_left hab]
  rw [List.inj_on_of_nodup_map hd he he' h1]

theorem mem_subdirs {real : List String} {a : String} :
    a ∈ fs.subdirs real ↔ (real ++ [a], Kind.dir) ∈ fs.entries := by
  simp only [subdirs, List.mem_filterMap]
  constructor
  · rintro ⟨e, he, hs⟩
    split_ifs at hs with hd
    have hne := (fs.named e he).1
    rw [List.getLast?_eq_getLast _ hne, Option.some_inj] at hs
    have he1 : e.1 = real ++ [a] := by rw [← List.dropLast_append_getLast hne, hd.2, hs]
    exact (Prod.ext he1 hd.1 : e = (real ++ [a], Kind.dir)) ▸ he
  · intro h
    exact ⟨(real ++ [a], .dir), h, by simp⟩

theorem length_of_mem_globDirs {k : Nat} {real rel : List String} (h : rel ∈ fs.globDirs k real) :
    rel.length = k ∧ ∀ c ∈ rel, c ≠ ".." := by
  induction k generalizing real rel with
  | zero => simp_all [globDirs]
  | succ k ih =>
    simp only [globDirs, List.mem_flatMap, List.mem_map] at h
    obtain ⟨a, ha, rel', hrel', rfl⟩ := h
    obtain ⟨hl, hp⟩ := ih hrel'
    have hn := ((fs.named _ (mem_subdirs.1 ha)).2 a (by simp)).2.2.1
    exact ⟨by simp [hl], by simpa [hn] using hp⟩

theorem mem_globDirs {real rel : List String}
    (hdirs : ∀ i, 0 < i → i ≤ rel.length → fs.kind? (real ++ rel.take i) = some .dir) :
    rel ∈ fs.globDirs rel.length real := by
  induction rel generalizing real with
  | nil => simp [globDirs]
  | cons a rel ih =>
    have ha : a ∈ fs.subdirs real := by
      have := hdirs 1 (by omega) (by simp)
      rcases kind?_eq_some.1 this with ⟨hn, -⟩ | hm
      · simp at hn
      · exact mem_subdirs.2 (by simpa using hm)
    refine List.mem_flatMap.2 ⟨a, ha, List.mem_map.2 ⟨rel, ih fun i hi hil => ?_, rfl⟩⟩
    simpa using hdirs (i + 1) (by omega) (by simp; omega)

theorem pathExists_plain {p : List String} (hp : ∀ c ∈ p, c ≠ "..") :
    fs.pathExists p = (fs.kind? p).isSome := by
  unfold pathExists
  rw [walk_nil_plain hp]
  split <;> simp_all

theorem globParents_plain {base : List String} (hb : ∀ c ∈ base, c ≠ "..")
    (hk : (fs.kind? base).isSome) (k : Nat) (name : String) :
    fs.globParents base k name =
      ((fs.globDirs k base).filter fun rel => (fs.kind? (base ++ rel ++ [name])).isSome).map (base ++ ·) := by
  simp [globParents, walk_nil_plain hb, hk]

theorem globParents_absent {base : List String} (hb : ∀ c ∈ base, c ≠ "..")
    (hk : ¬ (fs.kind? base).isSome) (k : Nat) (name : String) : fs.globParents base k name = [] := by
  simp [globParents, walk_nil_plain hb, hk]

/-!
## Listing order

Two trees with the same entries listed in another order answer every lookup
alike, and walking them finds the same paths in another order.
-/

theorem kind?_congr {fs fs' : Fs} (h : fs.entries.Perm fs'.entries) (p : List String) :
    fs.kind? p = fs'.kind? p :=
  Option.ext fun k => by simp only [Option.mem_def, kind?_eq_some, h.mem_iff]

theorem walk_congr {fs fs' : Fs} (h : fs.entries.Perm fs'.entries) (cur q : List String) :
    fs.walk cur q = fs'.walk cur q := by
  induction q generalizing cur with
  | nil => rfl
  | cons c rest ih => simp only [walk, kind?_congr h, ih]

theorem rglobAll_perm {fs fs' : Fs} (h : fs.entries.Perm fs'.entries) (fl : Flavour) (d : List String)
    (tail : String) : (fs.rglobAll fl d tail).Perm (fs'.rglobAll fl d tail) := by
  unfold rglobAll
  rw [walk_congr h]
  split
  · exact (h.filter _).map _
  · exact List.Perm.refl _

end Fs

/-!
## Sorting paths

`sorted` compares paths by their casefolded parts, and is stable: on Windows,
paths equal but for case keep the order they came in.
-/

def PathLe (fl : Flavour) (p q : List String) : Prop :=
  (fl.casefoldParts p).map String.toList ≤ (fl.casefoldParts q).map String.toList

instance pathLe_decidable (fl : Flavour) : DecidableRel (PathLe fl) :=
  fun _ _ => inferInstanceAs (Decidable (_ ≤ _))

instance pathLe_total (fl : Flavour) : IsTotal (List String) (PathLe fl) := ⟨fun _ _ => le_total _ _⟩

instance pathLe_trans (fl : Flavour) : IsTrans (List String) (PathLe fl) := ⟨fun _ _ _ => le_trans⟩

theorem casefoldParts_eq_of_pathLe {fl : Flavour} {p q : List String} (h₁ : PathLe fl p q)
    (h₂ : PathLe fl q p) : fl.casefoldParts p = fl.casefoldParts q :=
  List.map_injective_iff.2 (fun _ _ h => String.ext h) (le_antisymm h₁ h₂)

def sortPaths (fl : Flavour) (l : List (List String)) : List (List String) := l.insertionSort (PathLe fl)

theorem sorted_sortPaths (fl : Flavour) (l : List (List String)) : (sortPaths fl l).Sorted (PathLe fl) :=
  List.sorted_insertionSort _ _

theorem perm_sortPaths (fl : Flavour) (l : List (List String)) : (sortPaths fl l).Perm l :=
  List.perm_insertionSort _ _

@[simp] theorem mem_sortPaths {fl : Flavour} {l : List (List String)} {p : List String} :
    p ∈ sortPaths fl l ↔ p ∈ l :=
  (perm_sortPaths fl l).mem_iff

/-- Two sorted permutations agree where the order is antisymmetric on their members. -/
theorem eq_of_perm_of_sorted_on {α : Type} {r : α → α → Prop} {l₁ l₂ : List α}
    (hanti : ∀ a ∈ l₁, ∀ b ∈ l₁, r a b → r b a → a = b) (h₁ : l₁.Sorted r) (h₂ : l₂.Sorted r)
    (hp : l₁.Perm l₂) : l₁ = l₂ := by
  induction l₁ generalizing l₂ with
  | nil => exact hp.nil_eq
  | cons a t ih =>
    cases l₂ with
    | nil => exact absurd hp.eq_nil (List.cons_ne_nil a t)
    | cons b u =>
      rw [List.sorted_cons] at h₁ h₂
      have hab : a = b := by
        rcases List.mem_cons.1 (hp.subset (List.mem_cons_self a t)) with h | h
        · exact h
        rcases List.mem_cons.1 (hp.symm.subset (List.mem_cons_self b u)) with h' | h'
        · exact h'.symm
        exact hanti a (List.mem_cons_self a t) b (List.mem_cons_of_mem a h') (h₁.1 b h') (h₂.1 a h)
      subst hab
      rw [ih (fun x hx y hy => hanti x (List.mem_cons_of_mem a hx) y (List.mem_cons_of_mem a hy))
        h₁.2 h₂.2 hp.cons_inv]

/-- Sorting two permutations gives one list where the flavour tells their members apart. -/
theorem sortPaths_congr {fl : Flavour} {l l' : List (List String)} (h : l.Perm l')
    (hinj : ∀ a ∈ l, ∀ b ∈ l, fl.casefoldParts a = fl.casefoldParts b → a = b) :
    sortPaths fl l = sortPaths fl l' :=
  eq_of_perm_of_sorted_on (fun a ha b hb h₁ h₂ => hinj a (mem_sortPaths.1 ha) b (mem_sortPaths.1 hb)
      (casefoldParts_eq_of_pathLe h₁ h₂)) (sorted_sortPaths _ _) (sorted_sortPaths _ _)
    (((perm_sortPaths _ _).trans h).trans (perm_sortPaths _ _).symm)

theorem orderedInsert_of_forall {α : Type} {r : α → α → Prop} [DecidableRel r] {a : α} {l : List α}
    (h : ∀ c ∈ l, r a c) : l.orderedInsert r a = a :: l := by
  cases l with
  | nil => rfl
  | cons c l => exact List.orderedInsert_of_le _ _ (h c (List.mem_cons_self _ _))

theorem filter_orderedInsert {α : Type} {r : α → α → Prop} [DecidableRel r] [IsTrans α r] (q : α → Bool)
    (a : α) {l : List α} (hl : l.Sorted r) :
    (l.orderedInsert r a).filter q = if q a then (l.filter q).orderedInsert r a else l.filter q := by
  induction l with
  | nil => cases hq : q a <;> simp [hq]
  | cons b l ih =>
    rw [List.sorted_cons] at hl
    by_cases hab : r a b
    · -- `a` goes first, and stays first among the members `q` keeps
      have hfirst : ∀ c ∈ (b :: l).filter q, r a c := fun c hc =>
        (List.mem_cons.1 (List.mem_of_mem_filter hc)).elim (fun h => h ▸ hab)
          fun hc => IsTrans.trans _ _ _ hab (hl.1 c hc)
      rw [List.orderedInsert_of_le _ _ hab, orderedInsert_of_forall hfirst]
      cases hq : q a <;> simp [List.filter_cons, hq]
    · simp only [List.orderedInsert, if_neg hab, List.filter_cons, ih hl.2]
      cases q a <;> cases q b <;> simp [List.orderedInsert, hab]

/-- Insertion sort is stable: filtering before sorting or after gives one list. -/
theorem filter_insertionSort {α : Type} {r : α → α → Prop} [DecidableRel r] [IsTotal α r]
    [IsTrans α r] (q : α → Bool) (l : List α) : (l.filter q).insertionSort r = (l.insertionSort r).filter q := by
  induction l with
  | nil => rfl
  | cons a l ih =>
    rw [List.insertionSort, filter_orderedInsert q a (List.sorted_insertionSort r l), ← ih,
      List.filter_cons]
    cases q a <;> rfl

theorem sortPaths_filter (fl : Flavour) (q : List String → Bool) (l : List (List String)) :
    sortPaths fl (l.filter q) = (sortPaths fl l).filter q :=
  filter_insertionSort q l

end Tools
end HeliosBuild
