import HeliosBuild.Build.Main
import HeliosBuild.Configure.Precedence

/-!
# The hand-off from `build.py` to `configure.py`

`run_configure` writes `configure.py`'s command line: the settings read from
the cache of the workspace being reconfigured, for those not on `build.py`'s
command line, then the explicit ones.  Every option string it writes is one
`configure.py` defines, except `--platform`.  So when no value reads as an
option string, `configure.py`'s `parse_args` reads the vector as the settings
it lists (`forwardedArgs`), and by the precedence results of
`Configure.Precedence` the configuration it resolves keeps them.

What is forwarded is not the cache in every field: `--core-only` is never
taken from the cache, since `build.py`'s `args.core_only` defaults to `False`
and is never `None`; the compiler is `build.py`'s own reading of
`CMAKE_CXX_COMPILER`, in which any path containing `g++` (such as
`clang++`) is `gcc`; a cached `HELIOS_BUILD_TESTS` other than `ON` is
`--no-tests`.
-/

namespace HeliosBuild
namespace Build

open Argparse

/-!
# The vector as option strings with values
-/

/-- The option string `flag` of `configure.py`'s parser, with a value. -/
def cfgItem (flag : String) (value : Option String) : Item :=
  ((lookupFlag Configure.parser flag).getD ⟨[], "", .help⟩, flag, value)

/-- `--flag` for `true` and `--no-flag` for `false`. -/
def boolItems (ifTrue ifFalse : String) (o : Option Bool) : List Item :=
  (if o = some true then [cfgItem ifTrue none] else []) ++
    (if o = some false then [cfgItem ifFalse none] else [])

/-- `cacheArgs` as items. -/
def cacheItems (a : Args) (cache : StrDict) (hasToolchain : Bool) : List Item :=
  (if Configure.truthy a.compiler then []
   else ((cache.get? "CMAKE_CXX_COMPILER").bind forwardedCompiler).toList.map fun comp =>
     cfgItem "--compiler" (some comp)) ++
  (if Configure.truthy a.buildSystem then []
   else (cache.get? "CMAKE_GENERATOR").toList.map fun g => cfgItem "--build-system" (some g)) ++
  (if a.coreOnly = none && cache.get? "HELIOS_BUILD_CORE_ONLY" = some "ON" then
     [cfgItem "--core-only" none] else []) ++
  (if a.buildTests = none then
     boolItems "--tests" "--no-tests" ((cache.get? "HELIOS_BUILD_TESTS").map (· = "ON"))
   else []) ++
  (if a.buildExamples = none then
     boolItems "--examples" "--no-examples" ((cache.get? "HELIOS_BUILD_EXAMPLES").map (· = "ON"))
   else []) ++
  (if a.useConan = none && hasToolchain then [cfgItem "--use-conan" none] else [])

/-- `explicitArgs` as items. -/
def explicitItems (a : Args) : List Item :=
  (if Configure.truthy a.type then [cfgItem "--type" (some (a.type.getD ""))] else []) ++
  (if Configure.truthy a.compiler then [cfgItem "--compiler" (some (a.compiler.getD ""))]
   else []) ++
  (if Configure.truthy a.buildSystem then
     [cfgItem "--build-system" (some (a.buildSystem.getD ""))] else []) ++
  (if Configure.truthy a.platform then [cfgItem "--platform" (some (a.platform.getD ""))]
   else []) ++
  (if a.coreOnly = some true then [cfgItem "--core-only" none] else []) ++
  boolItems "--tests" "--no-tests" a.buildTests ++
  boolItems "--examples" "--no-examples" a.buildExamples ++
  boolItems "--use-conan" "--no-conan" a.useConan ++
  (if a.clean then [cfgItem "--clean" none] else []) ++
  (if a.noInteractive then [cfgItem "--no-interactive" none] else []) ++
  (if a.cmakeArgs ≠ "" then [cfgItem "--cmake-args" (some a.cmakeArgs)] else [])

/-- `configureArgs` as items. -/
def forwardItems (enc : Codec) (a : Args) (existing : Option Workspace) : List Item :=
  (match existing with
   | some ws => cacheItems a (readCMakeCache enc (some ws)) ws.conanToolchain
   | none => []) ++ explicitItems a

section Strings

variable (flag : String)

theorem strings_flag (c : Prop) [Decidable c] :
    (if c then [cfgItem flag none] else []).flatMap Item.strings = if c then [flag] else [] := by
  split <;> rfl

theorem strings_value (c : Prop) [Decidable c] (x : String) :
    (if c then [cfgItem flag (some x)] else []).flatMap Item.strings =
      if c then [flag, x] else [] := by
  split <;> rfl

theorem strings_boolItems (ifFalse : String) (o : Option Bool) :
    (boolItems flag ifFalse o).flatMap Item.strings = o.toList.map fun b => if b then flag else ifFalse := by
  rcases o with _ | _ | _ <;> rfl

theorem strings_boolItems_cached (ifFalse : String) (c : Prop) [Decidable c] (o : Option String) :
    (if c then boolItems flag ifFalse (o.map (· = "ON")) else []).flatMap Item.strings =
      if c then o.toList.map (onFlag flag ifFalse) else [] := by
  split
  · rcases o with _ | v
    · rfl
    · by_cases hv : v = "ON" <;> simp [boolItems, onFlag, hv, cfgItem, Item.strings]
  · rfl

theorem strings_cached (c : Prop) [Decidable c] (o : Option String) :
    (if c then [] else o.toList.map fun x => cfgItem flag (some x)).flatMap Item.strings =
      if c then [] else o.elim [] fun x => [flag, x] := by
  split <;> cases o <;> rfl

end Strings

theorem configureArgs_eq_forwardItems (enc : Codec) (a : Args) (existing : Option Workspace) :
    configureArgs enc a existing = (forwardItems enc a existing).flatMap Item.strings := by
  rcases existing with _ | ws <;>
    simp only [configureArgs, forwardItems, cacheArgs, cacheItems, cacheArgs.truthy, explicitArgs,
      explicitItems, List.flatMap_append, strings_flag, strings_value,
      strings_boolItems, strings_cached, strings_boolItems_cached, List.flatMap_nil]
  -- what is left is `cacheArgs`' `match` on the cached compiler and generator
  cases ((readCMakeCache enc (some ws)).get? "CMAKE_CXX_COMPILER").bind forwardedCompiler <;>
    cases (readCMakeCache enc (some ws)).get? "CMAKE_GENERATOR" <;> rfl

/-!
# `configure.py` reads the vector as written
-/

/-- A value `configure.py`'s parser reads as the argument of an option. -/
def configureValue (s : String) : Prop := s ≠ "--" ∧ classify Configure.parser s = .ok .arg

instance : DecidablePred configureValue := fun _ => instDecidableAnd

structure Forwardable (a : Args) (cache : StrDict) : Prop where
  type : ∀ t, a.type = some t → t ≠ "" → t ∈ ["Debug", "Release", "RelWithDebInfo"]
  compiler : ∀ c, a.compiler = some c → c ≠ "" → configureValue c
  buildSystem : ∀ b, a.buildSystem = some b → b ≠ "" → configureValue b
  platform : Configure.truthy a.platform = false
  cmakeArgs : a.cmakeArgs ≠ "" → configureValue a.cmakeArgs
  generator : ∀ g, cache.get? "CMAKE_GENERATOR" = some g → configureValue g

/-- `flag` is an option string of `configure.py` whose action takes a value exactly when `takesArg`. -/
def FlagOk (flag : String) (takesArg : Bool) : Prop :=
  (lookupFlag Configure.parser flag).map (·.action.takesArg) = some takesArg ∧
    flag.toList.head? = some '-' ∧ flag ≠ "--"

instance (flag : String) (b : Bool) : Decidable (FlagOk flag b) := instDecidableAnd

theorem cfgItem_exact {flag : String} {v : Option String} (hf : FlagOk flag v.isSome)
    (hv : ∀ x, v = some x → configureValue x) : (cfgItem flag v).Exact Configure.parser := by
  obtain ⟨arg, ha, harity⟩ := Option.map_eq_some'.1 hf.1
  exact ⟨by simp [cfgItem, ha], hf.2.1, hf.2.2, by simpa [cfgItem, ha] using harity, hv⟩

theorem cfgItem_stored_value {flag v : String}
    (hf : (lookupFlag Configure.parser flag).map (·.action) = some (.store none)) (hv : v ≠ "--") :
    (cfgItem flag (some v)).stored = some (.str v) := by
  obtain ⟨arg, ha, hact⟩ := Option.map_eq_some'.1 hf
  simp [cfgItem, Item.stored, ha, hact, hv]

def switches : List String :=
  ["--core-only", "--tests", "--no-tests", "--examples", "--no-examples", "--use-conan",
    "--no-conan", "--clean", "--no-interactive"]

theorem cfgItem_exact_switch {f : String} (hf : f ∈ switches) :
    (cfgItem f none).Exact Configure.parser := by
  refine cfgItem_exact ?_ (by simp)
  simp only [switches, List.mem_cons, List.mem_singleton, List.not_mem_nil, or_false] at hf
  rcases hf with rfl | rfl | rfl | rfl | rfl | rfl | rfl | rfl | rfl <;> decide

theorem cfgItem_stored_switch {f : String} (hf : f ∈ switches) :
    (cfgItem f none).stored.isSome := by
  simp only [switches, List.mem_cons, List.mem_singleton, List.not_mem_nil, or_false] at hf
  rcases hf with rfl | rfl | rfl | rfl | rfl | rfl | rfl | rfl | rfl <;> decide

def Accepted (i : Item) : Prop := i.Exact Configure.parser ∧ i.stored.isSome

theorem accepted_switch {f : String} (hf : f ∈ switches) : Accepted (cfgItem f none) :=
  ⟨cfgItem_exact_switch hf, cfgItem_stored_switch hf⟩

theorem accepted_value {flag x : String} (hf : FlagOk flag true)
    (hact : (lookupFlag Configure.parser flag).map (·.action) = some (.store none))
    (hv : configureValue x) : Accepted (cfgItem flag (some x)) :=
  ⟨cfgItem_exact hf (by rintro _ ⟨⟩; exact hv), by simp [cfgItem_stored_value hact hv.1]⟩

theorem accepted_type {o : Option String}
    (ht : ∀ t, o = some t → t ≠ "" → t ∈ ["Debug", "Release", "RelWithDebInfo"])
    (ho : Configure.truthy o = true) : Accepted (cfgItem "--type" (some (o.getD ""))) := by
  rcases o with _ | t
  · cases ho
  · have hne : t ≠ "" := by simpa [Configure.truthy] using ho
    have hmem := ht t rfl hne
    simp only [List.mem_cons, List.mem_singleton, List.not_mem_nil, or_false] at hmem
    rcases hmem with rfl | rfl | rfl <;> exact ⟨cfgItem_exact (by decide) (by decide), by decide⟩

theorem forwardedCompiler_accepted {cxx comp : String} (h : forwardedCompiler cxx = some comp) :
    Accepted (cfgItem "--compiler" (some comp)) := by
  have hcomp : comp ∈ ["gcc", "clang", "msvc"] := by
    unfold forwardedCompiler at h
    split_ifs at h <;> cases h <;> decide
  simp only [List.mem_cons, List.mem_singleton, List.not_mem_nil, or_false] at hcomp
  rcases hcomp with rfl | rfl | rfl <;> exact ⟨cfgItem_exact (by decide) (by decide), by decide⟩

section Accepted

variable {a : Args}

theorem forall_mem_ite {c : Prop} [Decidable c] {l : List Item} {P : Item → Prop} :
    (∀ i ∈ (if c then l else []), P i) ↔ (c → ∀ i ∈ l, P i) := by
  split <;> simp_all

theorem forall_mem_ite' {c : Prop} [Decidable c] {l : List Item} {P : Item → Prop} :
    (∀ i ∈ (if c then [] else l), P i) ↔ (¬c → ∀ i ∈ l, P i) := by
  split <;> simp_all

theorem boolItems_accepted {ifTrue ifFalse : String} (ht : ifTrue ∈ switches)
    (hf : ifFalse ∈ switches) (o : Option Bool) : ∀ i ∈ boolItems ifTrue ifFalse o, Accepted i := by
  simp only [boolItems, List.forall_mem_append, forall_mem_ite, List.mem_singleton, forall_eq]
  exact ⟨fun _ => accepted_switch ht, fun _ => accepted_switch hf⟩

theorem value_of_truthy {o : Option String} {P : String → Prop}
    (h : ∀ x, o = some x → x ≠ "" → P x) (ht : Configure.truthy o = true) : P (o.getD "") := by
  rcases o with _ | x
  · cases ht
  · exact h x rfl (by simpa [Configure.truthy] using ht)

theorem cacheItems_accepted {cache : StrDict} (tc : Bool) (hf : Forwardable a cache) :
    ∀ i ∈ cacheItems a cache tc, Accepted i := by
  simp only [cacheItems, List.forall_mem_append, forall_mem_ite, forall_mem_ite',
    List.forall_mem_map, Option.mem_toList, List.mem_singleton, forall_eq]
  refine ⟨⟨⟨⟨⟨fun _ _ h => forwardedCompiler_accepted (Option.bind_eq_some.1 h).choose_spec.2,
    fun _ g hg => accepted_value (by decide) (by decide) (hf.generator g hg)⟩,
    fun _ => accepted_switch (by decide)⟩,
    fun _ => boolItems_accepted (by decide) (by decide) _⟩,
    fun _ => boolItems_accepted (by decide) (by decide) _⟩,
    fun _ => accepted_switch (by decide)⟩

theorem explicitItems_accepted {cache : StrDict} (hf : Forwardable a cache) : ∀ i ∈ explicitItems a, Accepted i := by
  simp only [explicitItems, List.forall_mem_append, forall_mem_ite, List.forall_mem_map,
    Option.mem_toList, List.mem_singleton, forall_eq]
  refine ⟨⟨⟨⟨⟨⟨⟨⟨⟨⟨accepted_type hf.type,
    fun ht => accepted_value (by decide) (by decide) (value_of_truthy hf.compiler ht)⟩,
    fun ht => accepted_value (by decide) (by decide) (value_of_truthy hf.buildSystem ht)⟩,
    fun ht => absurd ht (by simp [hf.platform])⟩,
    fun _ => accepted_switch (by decide)⟩,
    boolItems_accepted (by decide) (by decide) _⟩,
    boolItems_accepted (by decide) (by decide) _⟩,
    boolItems_accepted (by decide) (by decide) _⟩,
    fun _ => accepted_switch (by decide)⟩,
    fun _ => accepted_switch (by decide)⟩,
    fun hne => accepted_value (by decide) (by decide) (hf.cmakeArgs hne)⟩

theorem forwardItems_accepted {enc : Codec} {existing : Option Workspace}
    (hf : Forwardable a (readCMakeCache enc existing)) :
    ∀ i ∈ forwardItems enc a existing, Accepted i := by
  rcases existing with _ | ws <;> simp only [forwardItems, List.forall_mem_append]
  · exact ⟨by simp, explicitItems_accepted hf⟩
  · exact ⟨cacheItems_accepted _ hf, explicitItems_accepted hf⟩

end Accepted

/-!
# The attributes `configure.py` receives
-/

def boolSets (ifTrue ifFalse : String × Value) (o : Option Bool) : List (String × Value) :=
  (if o = some true then [ifTrue] else []) ++ (if o = some false then [ifFalse] else [])

def forwardSets (a : Args) (cache : StrDict) (hasToolchain : Bool) : List (String × Value) :=
  (if Configure.truthy a.compiler then []
   else ((cache.get? "CMAKE_CXX_COMPILER").bind forwardedCompiler).toList.map fun comp =>
     ("compiler", .str comp)) ++
  (if Configure.truthy a.buildSystem then []
   else (cache.get? "CMAKE_GENERATOR").toList.map fun g => ("build_system", .str g)) ++
  (if a.coreOnly = none && cache.get? "HELIOS_BUILD_CORE_ONLY" = some "ON" then
     [("core_only", .bool true)] else []) ++
  (if a.buildTests = none then
     boolSets ("build_tests", .bool true) ("build_tests", .bool false)
       ((cache.get? "HELIOS_BUILD_TESTS").map (· = "ON"))
   else []) ++
  (if a.buildExamples = none then
     boolSets ("build_examples", .bool true) ("build_examples", .bool false)
       ((cache.get? "HELIOS_BUILD_EXAMPLES").map (· = "ON"))
   else []) ++
  (if a.useConan = none && hasToolchain then [("use_conan", .bool true)] else []) ++
  (if Configure.truthy a.type then [("type", .str (a.type.getD ""))] else []) ++
  (if Configure.truthy a.compiler then [("compiler", .str (a.compiler.getD ""))] else []) ++
  (if Configure.truthy a.buildSystem then [("build_system", .str (a.buildSystem.getD ""))]
   else []) ++
  (if a.coreOnly = some true then [("core_only", .bool true)] else []) ++
  boolSets ("build_tests", .bool true) ("build_tests", .bool false) a.buildTests ++
  boolSets ("build_examples", .bool true) ("build_examples", .bool false) a.buildExamples ++
  boolSets ("use_conan", .bool true) ("no_conan", .bool true) a.useConan ++
  (if a.clean then [("clean", .bool true)] else []) ++
  (if a.noInteractive then [("no_interactive", .bool true)] else []) ++
  (if a.cmakeArgs ≠ "" then [("cmake_args", .str a.cmakeArgs)] else [])

section Sets

variable {α β : Type} (f : α → β)

theorem filter_ite_nil {c : Prop} [Decidable c] {l : List α} {p : α → Bool} :
    (if c then l else []).filter p = if c then l.filter p else [] := by
  split <;> rfl

theorem filter_nil_ite {c : Prop} [Decidable c] {l : List α} {p : α → Bool} :
    (if c then [] else l).filter p = if c then [] else l.filter p := by
  split <;> rfl

theorem getLast?_ite_nil {c : Prop} [Decidable c] {l : List α} :
    (if c then l else []).getLast? = if c then l.getLast? else none := by
  split <;> rfl

theorem getLast?_nil_ite {c : Prop} [Decidable c] {l : List α} :
    (if c then [] else l).getLast? = if c then none else l.getLast? := by
  split <;> rfl

theorem eq_some_of_truthy {o : Option String} (h : Configure.truthy o = true) :
    o = some (o.getD "") := by
  cases o <;> simp_all [Configure.truthy]

theorem map_ite_nil {c : Prop} [Decidable c] {l : List α} :
    (if c then l else []).map f = if c then l.map f else [] := by
  split <;> rfl

theorem map_nil_ite {c : Prop} [Decidable c] {l : List α} :
    (if c then [] else l).map f = if c then [] else l.map f := by
  split <;> rfl

end Sets

theorem forwardItems_sets (enc : Codec) (a : Args) (existing : Option Workspace)
    (hp : Configure.truthy a.platform = false) :
    (forwardItems enc a existing).map (fun i => (i.1.dest, i.value)) =
      forwardSets a (readCMakeCache enc existing) (existing.any (·.conanToolchain)) := by
  rcases existing with _ | ws <;>
    simp only [forwardItems, cacheItems, explicitItems, boolItems, forwardSets, boolSets,
      List.map_append, map_ite_nil, map_nil_ite, List.map_map, Function.comp_def,
      List.map_cons, List.map_nil, hp, if_false, List.nil_append, List.append_nil] <;>
    simp [cfgItem, lookupFlag, Configure.parser, Item.value, readCMakeCache, StrDict.get?]

def forwardedArgs (a : Args) (cache : StrDict) (hasToolchain : Bool) : Configure.Args where
  type := if Configure.truthy a.type then a.type else none
  compiler := if Configure.truthy a.compiler then a.compiler
    else (cache.get? "CMAKE_CXX_COMPILER").bind forwardedCompiler
  buildSystem := if Configure.truthy a.buildSystem then a.buildSystem
    else cache.get? "CMAKE_GENERATOR"
  coreOnly := a.coreOnly = some true ||
    (a.coreOnly = none && cache.get? "HELIOS_BUILD_CORE_ONLY" = some "ON")
  buildTests := if a.buildTests = none then (cache.get? "HELIOS_BUILD_TESTS").map (· = "ON")
    else a.buildTests
  buildExamples := if a.buildExamples = none then
      (cache.get? "HELIOS_BUILD_EXAMPLES").map (· = "ON")
    else a.buildExamples
  clean := a.clean
  noInteractive := a.noInteractive
  useConan := a.useConan = some true || (a.useConan = none && hasToolchain)
  noConan := a.useConan = some false
  cmakeArgs := a.cmakeArgs

theorem parseArguments_configureArgs (enc : Codec) (a : Args) (existing : Option Workspace)
    (hf : Forwardable a (readCMakeCache enc existing)) :
    Configure.parseArguments (configureArgs enc a existing) =
      .ok (forwardedArgs a (readCMakeCache enc existing) (existing.any (·.conanToolchain))) := by
  have hacc := forwardItems_accepted hf
  rw [configureArgs_eq_forwardItems, Configure.parseArguments,
    parse_items _ fun i hi => (hacc i hi).1, takeActions_items fun i hi => (hacc i hi).2]
  have hfold : (forwardItems enc a existing).foldl (fun (ns : Namespace) i => ns.set i.1.dest i.value)
      Configure.parser.defaults = (forwardSets a (readCMakeCache enc existing)
        (existing.any (·.conanToolchain))).foldl (fun (ns : Namespace) p => ns.set p.1 p.2)
      Configure.parser.defaults := by
    rw [← forwardItems_sets enc a existing hf.platform, List.foldl_map]
  rw [hfold]
  simp only [Except.map, Except.ok.injEq, Configure.Args.ofNamespace, Namespace.get_foldl_set,
    forwardedArgs, Configure.Args.mk.injEq]
  generalize readCMakeCache enc existing = cache
  generalize existing.any (·.conanToolchain) = tc
  refine ⟨?_, ?_, ?_, ?_, ?_, ?_, ?_, ?_, ?_, ?_, ?_⟩ <;>
    simp only [forwardSets, boolSets, List.filter_append, filter_ite_nil, filter_nil_ite,
      List.filter_cons, List.filter_nil, List.filter_map, Function.comp_def, List.filter_false,
      List.filter_true, List.map_nil, ite_self, List.nil_append, List.append_nil, decide_True,
      decide_False, if_true, if_false, Bool.false_eq_true, List.getLast?_append, getLast?_ite_nil,
      getLast?_nil_ite, List.getLast?_singleton, List.getLast?_nil, Option.or_none, Option.none_or,
      String.reduceEq, decide_eq_true_eq, Option.map_none, Option.map_some]
  · cases ht : Configure.truthy a.type
    · simp [Namespace.get, Configure.parser, Value.optStr]
    · simpa [Namespace.get, Configure.parser, Value.optStr] using (eq_some_of_truthy ht).symm
  · cases ht : Configure.truthy a.compiler
    · cases (cache.get? "CMAKE_CXX_COMPILER").bind forwardedCompiler <;>
        simp [Namespace.get, Configure.parser, Value.optStr]
    · simpa [Namespace.get, Configure.parser, Value.optStr] using (eq_some_of_truthy ht).symm
  · cases ht : Configure.truthy a.buildSystem
    · cases cache.get? "CMAKE_GENERATOR" <;> simp [Namespace.get, Configure.parser, Value.optStr]
    · simpa [Namespace.get, Configure.parser, Value.optStr] using (eq_some_of_truthy ht).symm
  · by_cases hc : cache.get? "HELIOS_BUILD_CORE_ONLY" = some "ON" <;>
      rcases a.coreOnly with _ | _ | _ <;> simp [hc, Namespace.get, Configure.parser, Value.optBool]
  · rcases a.buildTests with _ | _ | _ <;> simp [Namespace.get, Configure.parser, Value.optBool]
    rcases cache.get? "HELIOS_BUILD_TESTS" with _ | v
    · simp [Namespace.get, Configure.parser, Value.optBool]
    · by_cases hv : v = "ON" <;> simp [hv, Namespace.get, Configure.parser, Value.optBool]
  · rcases a.buildExamples with _ | _ | _ <;> simp [Namespace.get, Configure.parser, Value.optBool]
    rcases cache.get? "HELIOS_BUILD_EXAMPLES" with _ | v
    · simp [Namespace.get, Configure.parser, Value.optBool]
    · by_cases hv : v = "ON" <;> simp [hv, Namespace.get, Configure.parser, Value.optBool]
  · cases a.clean <;> simp [Namespace.get, Configure.parser, Value.optBool]
  · cases a.noInteractive <;> simp [Namespace.get, Configure.parser, Value.optBool]
  · rcases a.useConan with _ | _ | _ <;> cases tc <;>
      simp [Namespace.get, Configure.parser, Value.optBool]
  · rcases a.useConan with _ | _ | _ <;> simp [Namespace.get, Configure.parser, Value.optBool]
  · by_cases hx : a.cmakeArgs = "" <;> simp [hx, Namespace.get, Configure.parser, Value.optStr]

/-- `Forwardable` for given arguments and cache, as a check. -/
def forwardableCheck (a : Args) (cache : StrDict) : Bool :=
  (a.type.all fun t => t = "" ∨ t ∈ ["Debug", "Release", "RelWithDebInfo"]) &&
  (a.compiler.all fun c => c = "" ∨ configureValue c) &&
  (a.buildSystem.all fun b => b = "" ∨ configureValue b) &&
  !Configure.truthy a.platform &&
  (a.cmakeArgs = "" ∨ configureValue a.cmakeArgs) &&
  (cache.get? "CMAKE_GENERATOR").all fun g => configureValue g

theorem option_all_decide {α : Type} {o : Option α} {p : α → Prop} [DecidablePred p] :
    (o.all fun x => decide (p x)) = true ↔ ∀ x, o = some x → p x := by
  cases o <;> simp

theorem forwardable_of_check {a : Args} {cache : StrDict} (h : forwardableCheck a cache = true) :
    Forwardable a cache := by
  simp only [forwardableCheck, Bool.and_eq_true, Bool.not_eq_true', decide_eq_true_eq,
    option_all_decide] at h
  obtain ⟨⟨⟨⟨⟨ht, hc⟩, hb⟩, hp⟩, hx⟩, hg⟩ := h
  exact ⟨fun t h1 h2 => (ht t h1).resolve_left h2, fun c h1 h2 => (hc c h1).resolve_left h2,
    fun b h1 h2 => (hb b h1).resolve_left h2, hp, hx.resolve_left, hg⟩

/-!
# Reconfiguring a workspace
-/

theorem reconfigure_keeps_forwarded (h : Host) (a : Args) (ws : Workspace)
    (w : World Configure.BuildConfig) (hf : Forwardable a (readCMakeCache h.encoding (some ws)))
    (hr : (Configure.reachConfigure h (configureArgs h.encoding a (some ws)) w).result = .ok true) :
    Configure.KeepsExplicit h (forwardedArgs a (readCMakeCache h.encoding (some ws)) ws.conanToolchain)
      (Configure.reachConfigure h (configureArgs h.encoding a (some ws)) w).state.obj :=
  Configure.reachConfigure_wp h _ _ (parseArguments_configureArgs h.encoding a (some ws) hf) w true hr rfl

theorem reconfigure_keeps_forwarded_ninja :
    let h : Host := Host.ofTools .linux ["cmake", "gcc", "g++", "ninja"]
    let a : Args := { Args.ofNamespace (parser 4).defaults with type := some "Debug" }
    let ws : Workspace :=
      { Workspace.empty with
        cache := some ["CMAKE_CXX_COMPILER:FILEPATH=/usr/bin/g++", "CMAKE_GENERATOR:INTERNAL=Ninja",
          "HELIOS_BUILD_TESTS:BOOL=ON", "HELIOS_BUILD_EXAMPLES:BOOL=OFF"] }
    let w : World Configure.BuildConfig := ⟨Configure.BuildConfig.init, [],
      Tree.single ⟨"debug", "linux"⟩ ws, [.line "2"]⟩
    Forwardable a (readCMakeCache h.encoding (some ws)) ∧
    (Configure.reachConfigure h (configureArgs h.encoding a (some ws)) w).result = .ok true ∧
    Configure.KeepsExplicit h (forwardedArgs a (readCMakeCache h.encoding (some ws)) ws.conanToolchain)
      (Configure.reachConfigure h (configureArgs h.encoding a (some ws)) w).state.obj :=
  ⟨forwardable_of_check (by decide), by decide,
    reconfigure_keeps_forwarded _ _ _ _ (forwardable_of_check (by decide)) (by decide)⟩

theorem reconfigure_drops_core_only :
    let h : Host := Host.ofTools .linux ["cmake", "gcc", "g++", "ninja"]
    let a : Args := { Args.ofNamespace (parser 4).defaults with type := some "Release" }
    let ws : Workspace := { Workspace.empty with cache := some ["HELIOS_BUILD_CORE_ONLY:BOOL=ON"] }
    let w : World Configure.BuildConfig := ⟨Configure.BuildConfig.init, [],
      Tree.single ⟨"release", "linux"⟩ ws, [.line "2", .line "", .line "", .line "", .line ""]⟩
    configureArgs h.encoding a (some ws) = ["--type", "Release"] ∧
    (Configure.reachConfigure h (configureArgs h.encoding a (some ws)) w).effects.contains
      (.read .modules (.line "2")) ∧
    (Configure.reachConfigure h (configureArgs h.encoding a (some ws)) w).result = .ok true ∧
    (Configure.reachConfigure h (configureArgs h.encoding a (some ws)) w).state.obj.coreOnly = some false := by
  decide

end Build
end HeliosBuild
