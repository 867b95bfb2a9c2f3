import HeliosBuild.Python.Host

/-!
# Reading `CMakeCache.txt`

`build.py` and `configure.py` carry the same `read_cmake_cache`: every
non-comment line `NAME:TYPE=VALUE` of the cache becomes an entry
`NAME ↦ VALUE` of a dictionary, later lines overwriting earlier ones.  A
missing file reads as the empty dictionary.

The file is given by the lines CMake wrote, line breaks removed.  The
script reads it in the locale's encoding; where a byte does not decode, the
`except Exception` of `read_cmake_cache` returns the empty dictionary.
-/

namespace HeliosBuild

/-- The entry one line of the cache contributes, if any. -/
def cacheEntry (raw : String) : Option (String × String) :=
  let line := PyStr.strip raw
  if line = "" || PyStr.startswith line "#" || PyStr.startswith line "//" then none
  else if PyStr.contains line "=" && PyStr.contains line ":" then
    (PyStr.splitFirst line '=').map fun p => (PyStr.beforeFirst p.1 ':', p.2)
  else none

/-- The loop of `read_cmake_cache` over the lines of the file. -/
def readCacheLines (d : StrDict) : List String → StrDict
  | [] => d
  | l :: rest =>
      match cacheEntry l with
      | some (k, v) => readCacheLines (d.set k v) rest
      | none => readCacheLines d rest

/-- `read_cmake_cache(build_dir)` for the workspace at `build_dir`, if it exists, read in the
encoding `enc`. -/
def readCMakeCache (enc : Codec) : Option Workspace → StrDict
  | some { cache := some lines, .. } =>
      match lines.mapM enc with
      | some text => readCacheLines [] text
      | none => []
  | _ => []

example : readCacheLines [] ["// comment", "CMAKE_GENERATOR:INTERNAL=Ninja",
    "HELIOS_BUILD_TESTS:BOOL=ON"] =
    [("CMAKE_GENERATOR", "Ninja"), ("HELIOS_BUILD_TESTS", "ON")] := by decide

/-!
# The cache format

What `read_cmake_cache` reads back from a file CMake writes: entries
`NAME:TYPE=VALUE` between blank and comment lines.
-/

/-- A line of `CMakeCache.txt`: an entry `NAME:TYPE=VALUE`, or any other text. -/
inductive CacheLine
  | entry (name type value : String)
  | other (text : String)
  deriving DecidableEq, Repr

/-- The text of a line as CMake writes it. -/
def CacheLine.render : CacheLine → String
  | .entry name type value => name ++ ":" ++ type ++ "=" ++ value
  | .other text => text

/-- The name and value of an entry. -/
def CacheLine.entry? : CacheLine → Option (String × String)
  | .entry name _ value => some (name, value)
  | .other _ => none

/-- The lines whose reading the format fixes: an entry whose name has no whitespace in front,
no `:` or `=`, and does not start like a comment, whose type has no `=` and whose value has no
whitespace at its end; or a blank or comment line. -/
def CacheLine.WellFormed : CacheLine → Prop
  | .entry name type value =>
      name.toList.head?.all (fun c => !PyStr.isSpace c) = true ∧ ':' ∉ name.toList ∧
      '=' ∉ name.toList ∧ PyStr.startswith name "#" = false ∧ PyStr.startswith name "//" = false ∧
      '=' ∉ type.toList ∧ value.toList.getLast?.all (fun c => !PyStr.isSpace c) = true
  | .other text => PyStr.strip text = "" ∨ PyStr.startswith (PyStr.strip text) "#" = true ∨
      PyStr.startswith (PyStr.strip text) "//" = true

instance : DecidablePred CacheLine.WellFormed := fun l => by
  cases l <;> unfold CacheLine.WellFormed <;> infer_instance

/-- The value of the last entry named `k`. -/
def lastValue (entries : List (String × String)) (k : String) : Option String :=
  (entries.reverse.find? (·.1 = k)).map Prod.snd

theorem cacheEntry_entry {name type value : String}
    (hwf : (CacheLine.entry name type value).WellFormed) :
    cacheEntry (CacheLine.entry name type value).render = some (name, value) := by
  obtain ⟨n⟩ := name
  obtain ⟨t⟩ := type
  obtain ⟨v⟩ := value
  obtain ⟨hhead, hcolon, heq, hhash, hslash, htype, hlast⟩ := hwf
  have hline : String.mk n ++ ":" ++ String.mk t ++ "=" ++ String.mk v =
      ⟨n ++ ':' :: (t ++ '=' :: v)⟩ := by
    simp [String.ext_iff]
  have hstrip : PyStr.strip ⟨n ++ ':' :: (t ++ '=' :: v)⟩ = ⟨n ++ ':' :: (t ++ '=' :: v)⟩ := by
    apply PyStr.strip_eq_self <;> dsimp only [String.toList]
    · cases n with
      | nil => rfl
      | cons c cs => simpa using hhead
    · rcases List.eq_nil_or_concat v with rfl | ⟨vs, c, rfl⟩ <;> simp only [List.concat_eq_append] at *
      · rw [show n ++ ':' :: (t ++ ['=']) = (n ++ ':' :: t) ++ ['='] by simp, List.getLast?_concat]
        rfl
      · rw [show n ++ ':' :: (t ++ '=' :: (vs ++ [c])) = (n ++ ':' :: (t ++ '=' :: vs)) ++ [c] by simp,
          List.getLast?_concat]
        simpa using hlast
  have hpre : ∀ pre : String, ':' ∉ pre.toList →
      PyStr.startswith ⟨n ++ ':' :: (t ++ '=' :: v)⟩ pre = PyStr.startswith ⟨n⟩ pre :=
    fun pre hc => PyStr.isPrefixOf_append_sep hc n _
  have hsplit : PyStr.splitFirst ⟨n ++ ':' :: (t ++ '=' :: v)⟩ '=' = some (⟨n ++ ':' :: t⟩, ⟨v⟩) := by
    have : '=' ∉ n ++ ':' :: t := by simp_all [String.toList]
    have e : n ++ ':' :: (t ++ '=' :: v) = (n ++ ':' :: t) ++ '=' :: v := by simp
    simp only [PyStr.splitFirst, String.toList, e, PyStr.splitFirstChars_append this v]
    rfl
  have hname : PyStr.beforeFirst ⟨n ++ ':' :: t⟩ ':' = ⟨n⟩ := by
    simp [PyStr.beforeFirst, PyStr.partition, PyStr.splitFirst,
      PyStr.splitFirstChars_append (show ':' ∉ n from hcolon) t]
  simp only [cacheEntry, CacheLine.render, hline, hstrip, hpre "#" (by decide), hpre "//" (by decide),
    hhash, hslash, hsplit, hname]
  simp [PyStr.contains, PyStr.infixChars_singleton, hname, String.ext_iff]

theorem cacheEntry_other {text : String} (hwf : (CacheLine.other text).WellFormed) :
    cacheEntry text = none := by
  rcases hwf with h | h | h <;> simp [cacheEntry, h]

theorem readCacheLines_render (d : StrDict) (ls : List CacheLine) (hwf : ∀ l ∈ ls, l.WellFormed) :
    readCacheLines d (ls.map CacheLine.render) =
      (ls.filterMap CacheLine.entry?).foldl (fun d p => d.set p.1 p.2) d := by
  induction ls generalizing d with
  | nil => rfl
  | cons l ls ih =>
    have hrest := fun l' h => hwf l' (List.mem_cons_of_mem _ h)
    cases l with
    | entry name type value =>
      simp [readCacheLines, cacheEntry_entry (hwf _ (List.mem_cons_self _ _)), CacheLine.entry?, ih _ hrest]
    | other text =>
      simp [readCacheLines, CacheLine.render, cacheEntry_other (hwf _ (List.mem_cons_self _ _)),
        CacheLine.entry?, ih _ hrest]

theorem lastValue_cons (p : String × String) (es : List (String × String)) (k : String) :
    lastValue (p :: es) k = (lastValue es k).or (if k = p.1 then some p.2 else none) := by
  unfold lastValue
  rw [List.reverse_cons, List.find?_append]
  by_cases hk : k = p.1
  · subst hk
    cases es.reverse.find? (·.1 = p.1) <;> simp
  · have hk' : p.1 ≠ k := Ne.symm hk
    cases es.reverse.find? (·.1 = k) <;> simp [hk, hk']

theorem get?_foldl_set (es : List (String × String)) (d : StrDict) (k : String) :
    (es.foldl (fun d p => d.set p.1 p.2) d).get? k = (lastValue es k).or (d.get? k) := by
  induction es generalizing d with
  | nil => simp [lastValue]
  | cons p ps ih =>
    rw [List.foldl_cons, ih, StrDict.get?_set, lastValue_cons]
    cases lastValue ps k <;> by_cases hk : k = p.1 <;> simp [hk]

theorem nodup_foldl_set (es : List (String × String)) {d : StrDict} (hd : (d.map Prod.fst).Nodup) :
    ((es.foldl (fun d p => d.set p.1 p.2) d).map Prod.fst).Nodup := by
  induction es generalizing d with
  | nil => exact hd
  | cons p ps ih => exact ih (StrDict.nodup_set hd _ _)

theorem mapM_render {enc : Codec} {ls : List CacheLine}
    (hdec : ∀ l ∈ ls, enc l.render = some l.render) :
    (ls.map CacheLine.render).mapM enc = some (ls.map CacheLine.render) := by
  induction ls with
  | nil => rfl
  | cons l ls ih =>
    simp only [List.map_cons, List.mapM_cons, hdec l (List.mem_cons_self _ _),
      ih fun l' h => hdec l' (List.mem_cons_of_mem _ h)]
    rfl

theorem readCMakeCache_render (enc : Codec) (ws : Workspace) (ls : List CacheLine)
    (hwf : ∀ l ∈ ls, l.WellFormed) (hdec : ∀ l ∈ ls, enc l.render = some l.render) :
    ((readCMakeCache enc (some { ws with cache := some (ls.map CacheLine.render) })).map
        Prod.fst).Nodup ∧
    ∀ k, (readCMakeCache enc (some { ws with cache := some (ls.map CacheLine.render) })).get? k =
      lastValue (ls.filterMap CacheLine.entry?) k := by
  simp only [readCMakeCache, mapM_render hdec]
  rw [readCacheLines_render [] ls hwf]
  exact ⟨nodup_foldl_set _ List.nodup_nil, fun k => by rw [get?_foldl_set]; simp [StrDict.get?]⟩

theorem readCMakeCache_render_repeated :
    let ls := [CacheLine.other "# This is the CMakeCache file.", .other "",
      .entry "CMAKE_GENERATOR" "INTERNAL" "Ninja", .other "  // comment",
      .entry "FLAGS" "STRING" "-DA=1 -Dx:y", .entry "CMAKE_GENERATOR" "INTERNAL" "Unix Makefiles"]
    (∀ l ∈ ls, l.WellFormed) ∧ (∀ l ∈ ls, Codec.utf8 l.render = some l.render) ∧
    (((readCMakeCache Codec.utf8
        (some { Workspace.empty with cache := some (ls.map CacheLine.render) })).map Prod.fst).Nodup ∧
      ∀ k, (readCMakeCache Codec.utf8
          (some { Workspace.empty with cache := some (ls.map CacheLine.render) })).get? k =
        lastValue (ls.filterMap CacheLine.entry?) k) :=
  ⟨by decide, fun _ _ => rfl, readCMakeCache_render _ _ _ (by decide) fun _ _ => rfl⟩

/-- Under Windows-1252 the UTF-8 bytes of `Ł` (`C5 81`) do not decode, and a well-formed cache
under a directory named `Łódź` reads as `{}`. -/
theorem readCMakeCache_cp1252_undecodable :
    let ls := [CacheLine.entry "CMAKE_CACHEFILE_DIR" "INTERNAL"
      "C:/Projekty/Łódź/HeliosEngine/build/debug/windows"]
    (∀ l ∈ ls, l.WellFormed) ∧
    readCMakeCache (Codec.singleByte cp1252)
        (some { Workspace.empty with cache := some (ls.map CacheLine.render) }) = [] ∧
    lastValue (ls.filterMap CacheLine.entry?) "CMAKE_CACHEFILE_DIR" =
      some "C:/Projekty/Łódź/HeliosEngine/build/debug/windows" := by
  decide

end HeliosBuild
