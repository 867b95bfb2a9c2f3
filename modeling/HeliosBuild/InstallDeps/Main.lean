import HeliosBuild.InstallDeps.Run

/-!
# The installer's `main`

`main` parses the command line, asks for the method when neither
`--use-conan` nor `--use-system` is given, builds the installer and runs it.
`main_wpE` puts `run_wpE` behind the parse and the choice; the results below
are about every command line: what a run may change, and how it may end.
-/

namespace HeliosBuild
namespace InstallDeps

open Configure Py DependencyInstaller

variable {σ : Type}

/-- The method `main` settles: Conan or the system packages, the other arguments as parsed. -/
def Settles (a a' : Args) : Prop :=
  (a' = a ∨ a' = { a with useConan := true } ∨ a' = { a with useSystem := true }) ∧
    (a'.useConan = true ∨ a'.useSystem = true)

theorem Settles.buildType {a a' : Args} (hs : Settles a a') : a'.buildType = a.buildType := by
  rcases hs.1 with rfl | rfl | rfl <;> rfl

theorem Settles.noInteractive {a a' : Args} (hs : Settles a a') : a'.noInteractive = a.noInteractive := by
  rcases hs.1 with rfl | rfl | rfl <;> rfl

theorem chooseMethod_wpE (a : Args) (w : World σ) : wpE (chooseMethod a : Py σ Args) (fun r w' e =>
    e = [] ∧ w' = { w with stdin := w'.stdin } ∧ (a.noInteractive = true → w' = w) ∧
    (∀ ex, r = .error ex → ex.interrupts = true ∧ a.noInteractive = false) ∧
    ∀ a', r = .ok a' → Settles a a') w := by
  unfold chooseMethod
  by_cases hn : (!a.useConan && !a.useSystem) = true
  · rw [if_pos hn]
    by_cases hi : a.noInteractive = true
    · rw [if_neg (by simp [hi]), wpE_pure]
      exact ⟨rfl, rfl, fun _ => rfl, fun _ h' => (nomatch h'),
        fun _ h' => (by cases h'; exact ⟨.inr (.inl rfl), .inl rfl⟩)⟩
    rw [if_pos (by simpa using hi), wpE_bind]
    refine (askYesNo_wpE true true w).mono fun r w' e ⟨rfl, hw, _, hx⟩ =>
      ⟨fun b hb => ?_, fun ex hex => ⟨rfl, hw, fun h' => absurd h' hi,
        fun _ h' => (by cases h'; exact ⟨(hx ex hex).1, by simpa using hi⟩), fun _ h' => (nomatch h')⟩⟩
    subst hb
    cases b
    · rw [if_neg (by decide), wpE_pure]
      exact ⟨List.append_nil _, hw, fun h' => absurd h' hi, fun _ h' => (nomatch h'),
        fun _ h' => (by cases h'; exact ⟨.inr (.inr rfl), .inr rfl⟩)⟩
    · rw [if_pos rfl, wpE_pure]
      exact ⟨List.append_nil _, hw, fun h' => absurd h' hi, fun _ h' => (nomatch h'),
        fun _ h' => (by cases h'; exact ⟨.inr (.inl rfl), .inl rfl⟩)⟩
  · have hs : a.useConan = true ∨ a.useSystem = true := by
      revert hn
      cases a.useConan <;> cases a.useSystem <;> decide
    rw [if_neg hn, wpE_pure_bind, wpE_pure]
    exact ⟨rfl, rfl, fun _ => rfl, fun _ h' => (nomatch h'), fun _ h' => (by cases h'; exact ⟨.inl rfl, hs⟩)⟩

@[simp] theorem wpE_detectPackageManager_bind {β : Type} (h : Host) (f : Option String → Py σ β)
    (Q : Except PyExc β → World σ → List Effect → Prop) (w : World σ) :
    wpE (detectPackageManager h >>= f) Q w ↔
      wpE (f ((packageManagers.find? fun m => h.which w.env m.2).map Prod.fst)) Q w :=
  Iff.rfl

variable (h : Host)

theorem main_wpE (v : PyVersion) (argv : List String) (w : World DependencyInstaller) :
    wpE (main h v argv) (fun r w' e =>
      (∀ err, parseArguments argv = .error err → r = .error (Argparse.parseExit err) ∧ w' = w ∧ e = []) ∧
      ∀ a, parseArguments argv = .ok a →
        (∃ ex, r = .error ex ∧ ex.interrupts = true ∧ a.noInteractive = false ∧
          w'.env = w.env ∧ w'.tree = w.tree ∧ e = []) ∨
        ∃ a' pm ins, Settles a a' ∧ (a.noInteractive = true → ins = w.stdin) ∧
          Frame h { w with obj := init a' pm, stdin := ins } w' ∧
          RunCase h v { w with obj := init a' pm, stdin := ins } r w' e) w := by
  unfold main
  cases hp : parseArguments argv with
  | error err => simp
  | ok a =>
    simp only [reduceCtorEq, IsEmpty.forall_iff, implies_true, Except.ok.injEq, forall_eq', true_and]
    refine wpE_seq _ (chooseMethod_wpE a w) ?_
    rintro r w₁ e ⟨rfl, hw₁, hni, hx, hs⟩
    obtain ⟨ins, rfl⟩ : ∃ ins, w₁ = { w with stdin := ins } := ⟨_, hw₁⟩
    refine ⟨fun a' ha' => ?_, fun ex hex => .inl ⟨ex, rfl, (hx ex hex).1, (hx ex hex).2, rfl, rfl, rfl⟩⟩
    simp only [wpE_detectPackageManager_bind, wpE_modifyObj_bind, List.nil_append]
    refine (run_wpE h v _).mono fun r w' e ⟨hf, hcase⟩ => .inr ⟨a', _, ins, hs a' ha', ?_, hf, hcase⟩
    exact fun hn => by simpa using congrArg World.stdin (hni hn)

theorem main_frame (v : PyVersion) (argv : List String) (w : World DependencyInstaller) :
    wpE (main h v argv) (fun _ w' e =>
      (∀ k, k ≠ environKey h.isWindows "PATH" → w'.env.get? k = w.env.get? k) ∧
      (∀ err, parseArguments argv = .error err → w' = w ∧ e = []) ∧
      ∀ a, parseArguments argv = .ok a →
        TreeFrame h (getConanDir h.system a.buildType) w.tree w'.tree ∧
        (a.noInteractive = true → w'.stdin = w.stdin)) w := by
  refine (main_wpE h v argv w).mono fun r w' e ⟨herr, hok⟩ => ?_
  cases hp : parseArguments argv with
  | error err =>
    obtain ⟨-, rfl, rfl⟩ := herr err hp
    exact ⟨fun _ _ => rfl, fun _ _ => ⟨rfl, rfl⟩, fun _ h' => (nomatch h')⟩
  | ok a =>
    refine ⟨?_, fun _ h' => (nomatch h'), fun a'' h' => ?_⟩
    · rcases hok a hp with ⟨ex, -, -, -, he, -, -⟩ | ⟨a', pm, ins, -, -, hf, -⟩
      · exact fun _ _ => by rw [he]
      · exact hf.env
    · cases h'
      rcases hok a hp with ⟨ex, -, -, hn, -, ht, -⟩ | ⟨a', pm, ins, hs, hin, hf, -⟩
      · exact ⟨ht ▸ TreeFrame.refl _ _, fun h'' => absurd h'' (by simp [hn])⟩
      · refine ⟨by simpa [init, hs.buildType] using hf.tree, fun hn => (hf.stdin ?_).trans (hin hn)⟩
        simp [init, hs.noInteractive, hn]

theorem main_outcomes (v : PyVersion) (argv : List String) (w : World DependencyInstaller) :
    wpE (main h v argv) (fun r _ _ =>
      r = .ok 0 ∨ r = .ok 1 ∨
      (∃ err, parseArguments argv = .error err ∧ r = .error (Argparse.parseExit err)) ∨
      ∃ ex, r = .error ex ∧
        ((ex.interrupts = true ∧ ∃ a, parseArguments argv = .ok a ∧ a.noInteractive = false) ∨
          (ex = .keyError "PATH" ∧ h.isWindows = true) ∨
          (ex = .indexError ∧ compilerParseFails h w.env = true))) w := by
  refine (main_wpE h v argv w).mono fun r w' e ⟨herr, hok⟩ => ?_
  cases hp : parseArguments argv with
  | error err => exact .inr (.inr (.inl ⟨err, rfl, (herr err hp).1⟩))
  | ok a =>
    rcases hok a hp with ⟨ex, rfl, hx, hn, -⟩ | ⟨a', pm, ins, hs, -, -, hcase⟩
    · exact .inr (.inr (.inr ⟨ex, rfl, .inl ⟨hx, a, rfl, hn⟩⟩))
    · rcases hcase.outcome with h0 | h1 | ⟨ex, rfl, ⟨hx, hi⟩ | hk | hc⟩
      · exact .inl h0
      · exact .inr (.inl h1)
      · have hn : a.noInteractive = false := by simpa [init, hs.noInteractive] using hi
        exact .inr (.inr (.inr ⟨ex, rfl, .inl ⟨hx, a, rfl, hn⟩⟩))
      · exact .inr (.inr (.inr ⟨ex, rfl, .inr (.inl hk)⟩))
      · exact .inr (.inr (.inr ⟨ex, rfl, .inr (.inr hc)⟩))

end InstallDeps
end HeliosBuild
