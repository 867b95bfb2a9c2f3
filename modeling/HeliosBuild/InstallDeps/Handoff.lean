import HeliosBuild.InstallDeps.Main
import HeliosBuild.Configure.Conan

/-!
# The hand-off from `configure.py` to `install_deps.py`

`setup_conan` runs `install_deps.py --use-conan --no-interactive --build-type
<type>`, with the compiler and the generator when it has them, and models the
child by two answers of the host: its exit code, and whether it left a Conan
toolchain in the workspace `get_build_dir()` names (`runInstallDeps`).  Here
the child is the installer of `Installer.lean`: when no value of the command
line reads as an option, whatever the child does is `runInstallDeps` for the
answers its run gives, but that the child may leave an empty workspace where
`runInstallDeps` leaves none, and it answers "toolchain" only with exit code 0.
-/

namespace HeliosBuild
namespace InstallDeps

open Argparse Configure ConanManager Py DependencyInstaller

/-!
## The command line as option strings with values
-/

/-- The option string `flag` of `install_deps.py`'s parser, with a value. -/
def depsItem (flag : String) (value : Option String) : Item :=
  ((lookupFlag parser flag).getD ⟨[], "", .help⟩, flag, value)

/-- `setup_conan`'s arguments for the installer as items. -/
def installDepsItems (c : BuildConfig) (bt : String) : List Item :=
  [depsItem "--use-conan" none, depsItem "--no-interactive" none, depsItem "--build-type" (some bt)] ++
  (if truthy c.compiler then [depsItem "--compiler" (some (pyFormat c.compiler))] else []) ++
  (if truthy c.buildSystem then [depsItem "--generator" (some (pyFormat c.buildSystem))] else [])

theorem installDepsArgs_eq_items (c : BuildConfig) (bt : String) :
    installDepsArgs c bt = (installDepsItems c bt).flatMap Item.strings := by
  unfold installDepsArgs installDepsItems
  split_ifs <;> rfl

/-- A value the installer's parser reads as an argument: it does not start with `-`. -/
def PlainValue (s : String) : Prop := s.toList.head? ≠ some '-'

instance : DecidablePred PlainValue := fun _ => inferInstanceAs (Decidable (_ ≠ _))

theorem classify_plain {p : Parser} {s : String} (hs : PlainValue s) : classify p s = .ok .arg := by
  unfold classify
  split
  · rfl
  · next c _ heq =>
      have hc : c ≠ '-' := fun hc => hs (by rw [heq, hc]; rfl)
      simp [hc]

theorem plain_ne_dashDash {s : String} (hs : PlainValue s) : s ≠ "--" := by
  rintro rfl
  exact hs rfl

/-- What `setup_conan` needs of its configuration for the installer to read its command line as written: no value starts with `-`. -/
structure HandsOff (c : BuildConfig) (bt : String) : Prop where
  buildType : PlainValue bt
  compiler : truthy c.compiler = true → PlainValue (pyFormat c.compiler)
  generator : truthy c.buildSystem = true → PlainValue (pyFormat c.buildSystem)

theorem depsItem_exact {flag : String} {value : Option String} {a : Argument}
    (hl : lookupFlag parser flag = some a) (hd : flag.toList.head? = some '-') (hdd : flag ≠ "--")
    (ha : a.action.takesArg = value.isSome) (hv : ∀ s, value = some s → PlainValue s) :
    (depsItem flag value).Exact parser where
  lookup := by simp [depsItem, hl]
  dash := hd
  notDashDash := hdd
  arity := by simpa [depsItem, hl] using ha
  value s hs := ⟨plain_ne_dashDash (hv s hs), classify_plain (hv s hs)⟩

theorem installDepsItems_exact {c : BuildConfig} {bt : String} (hv : HandsOff c bt) :
    ∀ i ∈ installDepsItems c bt, i.Exact parser := by
  intro i hi
  simp only [installDepsItems, List.mem_append, List.mem_cons, List.mem_ite_nil_right,
    List.not_mem_nil, or_false] at hi
  rcases hi with ((rfl | rfl | rfl) | ⟨hc, rfl⟩) | ⟨hg, rfl⟩
  · exact depsItem_exact rfl rfl (by decide) rfl (by simp)
  · exact depsItem_exact rfl rfl (by decide) rfl (by simp)
  · exact depsItem_exact rfl rfl (by decide) rfl fun _ h' => Option.some.inj h' ▸ hv.buildType
  · exact depsItem_exact rfl rfl (by decide) rfl fun _ h' => Option.some.inj h' ▸ hv.compiler hc
  · exact depsItem_exact rfl rfl (by decide) rfl fun _ h' => Option.some.inj h' ▸ hv.generator hg

theorem takeAction_exact {p : Parser} {i : Item} (hx : i.Exact p) (hs : i.1.action ≠ .storeInt)
    {ns ns' : Namespace} (h : takeAction ns i.action = .ok ns') :
    ns' = ns.set i.1.dest i.value ∧ ∀ cs v, i.1.action = .store (some cs) → i.2.2 = some v → v ∈ cs := by
  rcases i with ⟨⟨flags, dest, act⟩, f, v⟩
  have ha : act.takesArg = v.isSome := hx.arity
  cases act with
  | help => simp [Item.action, takeAction] at h
  | storeInt => exact absurd rfl hs
  | storeConst b =>
    cases v with
    | some _ => simp [Action.takesArg] at ha
    | none =>
      simp only [Item.action, takeAction, Except.ok.injEq] at h
      exact ⟨h.symm, fun _ _ h' => nomatch h'⟩
  | store cs =>
    cases v with
    | none => simp [Action.takesArg] at ha
    | some v =>
      have hv : v ≠ "--" := (hx.value v rfl).1
      cases cs with
      | none =>
        simp [Item.action, takeAction, List.erase_cons, hv] at h
        exact ⟨h.symm, fun _ _ h' => nomatch h'⟩
      | some cs =>
        simp only [Item.action, takeAction, Option.toList, List.erase_cons, beq_iff_eq, hv, if_false,
          List.erase_nil] at h
        split_ifs at h with hc
        · cases h
          exact ⟨rfl, fun cs' v' h₁ h₂ => by cases h₁; cases h₂; simpa using hc⟩

theorem takeActions_exact {p : Parser} {is : List Item} (hx : ∀ i ∈ is, i.Exact p)
    (hs : ∀ i ∈ is, i.1.action ≠ .storeInt) {ns ns' : Namespace}
    (h : takeActions ns (is.map Item.action) = .ok ns') :
    ns' = is.foldl (fun ns i => ns.set i.1.dest i.value) ns ∧
      ∀ i ∈ is, ∀ cs v, i.1.action = .store (some cs) → i.2.2 = some v → v ∈ cs := by
  induction is generalizing ns with
  | nil =>
    simp only [List.map_nil, takeActions, Except.ok.injEq] at h
    exact ⟨h.symm, by simp⟩
  | cons i is ih =>
    simp only [List.map_cons, takeActions] at h
    cases h₁ : takeAction ns i.action with
    | error e => simp [h₁] at h
    | ok ns₁ =>
      rw [h₁, ok_bind] at h
      obtain ⟨rfl, hm⟩ := takeAction_exact (hx i (.head _)) (hs i (.head _)) h₁
      obtain ⟨rfl, hm'⟩ := ih (fun j hj => hx j (.tail _ hj)) (fun j hj => hs j (.tail _ hj)) h
      exact ⟨rfl, fun j hj => (List.mem_cons.1 hj).elim (fun h' => h' ▸ hm) (hm' j)⟩

theorem parseArguments_installDepsArgs {c : BuildConfig} {bt : String} (hv : HandsOff c bt) {a : Args}
    (h : parseArguments (installDepsArgs c bt) = .ok a) :
    a.buildType = bt ∧ a.useConan = true ∧ a.noInteractive = true ∧
      bt ∈ ["Debug", "Release", "RelWithDebInfo"] := by
  rw [parseArguments, installDepsArgs_eq_items, parse_items parser (installDepsItems_exact hv)] at h
  cases ht : takeActions parser.defaults ((installDepsItems c bt).map Item.action) with
  | error e => simp [ht, Except.map] at h
  | ok ns =>
    rw [ht] at h
    simp only [Except.map, Except.ok.injEq] at h
    subst h
    have hs : ∀ i ∈ installDepsItems c bt, i.1.action ≠ .storeInt := by
      intro i hi
      simp only [installDepsItems, List.mem_append, List.mem_cons, List.mem_ite_nil_right,
        List.not_mem_nil, or_false] at hi
      rcases hi with ((rfl | rfl | rfl) | ⟨-, rfl⟩) | ⟨-, rfl⟩ <;> exact fun h' => by cases h'
    obtain ⟨rfl, hm⟩ := takeActions_exact (installDepsItems_exact hv) hs ht
    refine ⟨?_, ?_, ?_, hm (depsItem "--build-type" (some bt)) (by simp [installDepsItems]) _ bt rfl rfl⟩ <;>
      unfold installDepsItems <;> split_ifs <;> rfl

/-!
## Configure's view of the child
-/

/-- The command line `setup_conan` runs. -/
def childArgv (h : Host) (c : BuildConfig) (bt : String) : List String :=
  ["python", installDepsScript h] ++ installDepsArgs c bt

theorem runInstallDeps_of_error (h : Host) {argv : List String} {e : ParseError}
    (he : parseArguments (argv.drop 2) = .error e) (W : World BuildConfig) :
    (runInstallDeps h argv W).result = .ok (exitStatus (.error (parseExit e))) ∧
      (runInstallDeps h argv W).state.tree = W.tree := by
  show wpE (runInstallDeps h argv) (fun r W' _ => r = _ ∧ W'.tree = W.tree) W
  simp [runInstallDeps, he]

theorem runInstallDeps_of_ok (h : Host) {argv : List String} {a : Args}
    (ha : parseArguments (argv.drop 2) = .ok a) (W : World BuildConfig) :
    (runInstallDeps h argv W).result = .ok (h.rc argv) ∧
      (runInstallDeps h argv W).state.tree = if h.installDepsToolchain argv then
        (W.tree.mkdir (W.obj.getBuildDir h.system)).update (W.obj.getBuildDir h.system) (conanGenerate h)
      else W.tree := by
  show wpE (runInstallDeps h argv) (fun r W' _ => r = _ ∧ W'.tree = _) W
  cases hb : h.installDepsToolchain argv <;> simp [runInstallDeps, ha, hb, config] <;> rfl

theorem getD_find?_mkdir (t : Tree) (k k' : WsKey) :
    ((t.mkdir k).find? k').getD .empty = (t.find? k').getD .empty := by
  by_cases hk : k' = k
  · subst hk
    simp
  · rw [Tree.find?_mkdir_ne t hk]

/-!
## The installer refines configure's model of it
-/

variable (h : Host)

theorem main_installDepsArgs_tree (v : PyVersion) (W : World BuildConfig) (bt : String)
    (hbt : W.obj.buildType = some bt) (hv : HandsOff W.obj bt) (w : World DependencyInstaller)
    (ht : w.tree = W.tree) :
    wpE (main h v (installDepsArgs W.obj bt)) (fun r w' _ =>
      (∀ err, parseArguments (installDepsArgs W.obj bt) = .error err → r = .error (parseExit err)) ∧
      ∃ b : Bool, (b = true → r = .ok 0 ∧ (parseArguments (installDepsArgs W.obj bt)).isOk) ∧
        ∀ k, (w'.tree.find? k).getD .empty =
          ((if b then (W.tree.mkdir (W.obj.getBuildDir h.system)).update (W.obj.getBuildDir h.system)
              (conanGenerate h) else W.tree).find? k).getD .empty) w := by
  refine (main_wpE h v _ w).mono fun r w' e ⟨herr, hok⟩ => ⟨fun err hp => (herr err hp).1, ?_⟩
  have hsame : w'.tree = w.tree → ∃ b : Bool, (b = true → r = .ok 0 ∧
      (parseArguments (installDepsArgs W.obj bt)).isOk) ∧ ∀ k, (w'.tree.find? k).getD .empty =
        ((if b then (W.tree.mkdir (W.obj.getBuildDir h.system)).update (W.obj.getBuildDir h.system)
          (conanGenerate h) else W.tree).find? k).getD .empty :=
    fun htw => ⟨false, fun h' => (nomatch h'), fun k => by rw [htw, ht]; rfl⟩
  have hcases : (∃ err, parseArguments (installDepsArgs W.obj bt) = .error err) ∨
      ∃ a, parseArguments (installDepsArgs W.obj bt) = .ok a := by
    cases parseArguments (installDepsArgs W.obj bt) <;> simp
  rcases hcases with ⟨err, hp⟩ | ⟨a, hp⟩
  · exact hsame (congrArg World.tree (herr err hp).2.1)
  · obtain ⟨hb, -, hn, hmem⟩ := parseArguments_installDepsArgs hv hp
    have hne : bt ≠ "" := by
      rintro rfl
      simp at hmem
    rcases hok a hp with ⟨ex, -, -, hn', -⟩ | ⟨a', pm, ins, hs, -, -, hcase⟩
    · simp [hn] at hn'
    have hk : getConanDir h.system (init a' pm).args.buildType = W.obj.getBuildDir h.system := by
      simp [init, hs.buildType, hb, getConanDir, getBuildDir, BuildConfig.getBuildDir, hbt, hne]
    cases hcase with
    | checksFail | compilerUnread => exact hsame rfl
    | interrupted _ _ _ _ hi => simp [init, hs.noInteractive, hn] at hi
    | system _ _ ht' => exact hsame ht'
    | conan _ _ _ _ _ hend =>
      rcases hend with ⟨-, ht', -⟩ | ⟨cmd, e₁, -, -, -, -, -, rfl, rfl, ht'⟩
      · exact hsame ht'
      by_cases hrc : h.rc cmd = 0
      · refine ⟨true, fun _ => ⟨by simp [hrc], by rw [hp]; rfl⟩, fun k => ?_⟩
        rw [ht', afterConan, if_pos hrc, hk]
        simp only [ht, if_true]
      · refine ⟨false, fun h' => (nomatch h'), fun k => ?_⟩
        rw [ht', afterConan, if_neg hrc, getD_find?_mkdir, ht]
        rfl

theorem main_refines_runInstallDeps (v : PyVersion) (W : World BuildConfig) (bt : String)
    (hbt : W.obj.buildType = some bt) (hv : HandsOff W.obj bt) (w : World DependencyInstaller)
    (ht : w.tree = W.tree) :
    wpE (main h v (installDepsArgs W.obj bt)) (fun r w' _ => ∃ b : Bool, (b = true → r = .ok 0) ∧
      let child : Host := { h with
        rc := fun argv => if argv = childArgv h W.obj bt then exitStatus r else h.rc argv
        installDepsToolchain := fun _ => b }
      (runInstallDeps child (childArgv h W.obj bt) W).result = .ok (exitStatus r) ∧
      ∀ k, (w'.tree.find? k).getD .empty =
        ((runInstallDeps child (childArgv h W.obj bt) W).state.tree.find? k).getD .empty) w := by
  refine (main_installDepsArgs_tree h v W bt hbt hv w ht).mono
    fun r w' e ⟨herr, b, hb, htree⟩ => ⟨b, fun h' => (hb h').1, ?_⟩
  dsimp only
  have hdrop : (childArgv h W.obj bt).drop 2 = installDepsArgs W.obj bt := rfl
  cases hp : parseArguments (installDepsArgs W.obj bt) with
  | error err =>
    have hb' : b = false := by
      cases b
      · rfl
      · have hok := (hb rfl).2
        rw [hp] at hok
        cases hok
    obtain ⟨hr, htr⟩ := runInstallDeps_of_error { h with
      rc := fun argv => if argv = childArgv h W.obj bt then exitStatus r else h.rc argv
      installDepsToolchain := fun _ => b } (hdrop ▸ hp) W
    refine ⟨by rw [hr, herr err hp], fun k => ?_⟩
    rw [htree k, htr, hb']
    rfl
  | ok a =>
    obtain ⟨hr, htr⟩ := runInstallDeps_of_ok { h with
      rc := fun argv => if argv = childArgv h W.obj bt then exitStatus r else h.rc argv
      installDepsToolchain := fun _ => b } (hdrop ▸ hp) W
    refine ⟨by rw [hr]; simp, fun k => ?_⟩
    rw [htree k, htr]
    rfl

theorem main_refines_runInstallDeps_gcc :
    let h : Host := Host.ofTools .linux ["cmake", "git", "g++", "conan", "ninja"]
    let W : World BuildConfig := ⟨{ BuildConfig.init with
        buildType := some "Debug", compiler := some "gcc", buildSystem := some "Ninja" },
      [], ⟨[], by decide⟩, []⟩
    let w : World DependencyInstaller := ⟨init {
        useConan := false, useSystem := false, noInteractive := false, installConan := false,
        profile := "default", compiler := none, buildType := "Release", generator := none } none,
      [], ⟨[], by decide⟩, []⟩
    (W.obj.buildType = some "Debug" ∧ HandsOff W.obj "Debug" ∧ w.tree = W.tree) ∧
    wpE (main h ⟨3, 12⟩ (installDepsArgs W.obj "Debug")) (fun r w' _ => ∃ b : Bool,
      (b = true → r = .ok 0) ∧
      let child : Host := { h with
        rc := fun argv => if argv = childArgv h W.obj "Debug" then exitStatus r else h.rc argv
        installDepsToolchain := fun _ => b }
      (runInstallDeps child (childArgv h W.obj "Debug") W).result = .ok (exitStatus r) ∧
      ∀ k, (w'.tree.find? k).getD .empty =
        ((runInstallDeps child (childArgv h W.obj "Debug") W).state.tree.find? k).getD .empty) w := by
  intro h W w
  refine ⟨⟨rfl, ?hv, rfl⟩, main_refines_runInstallDeps h _ W _ rfl ?hv w rfl⟩
  exact ⟨by decide, fun _ => by decide, fun _ => by decide⟩

end InstallDeps
end HeliosBuild
