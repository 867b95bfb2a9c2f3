import HeliosBuild.Configure.Config

/-!
# Prompts of `configure.py`

`ask_yes_no` asks until it gets an answer it knows, and takes the end of input
or Ctrl-C as "no".  The menus of `CMakeBuilder` read one line with a bare
`input()`, so an interruption there escapes; any other line picks an entry,
the default when it matches none.
-/

namespace HeliosBuild
namespace Configure

variable {σ : Type}

/-- The `while True` loop of `ask_yes_no`: the answer, the unread input and the events read. -/
def askYesNoLoop (default : Bool) : List InputEvent → Bool × List InputEvent × List InputEvent
  | [] => (false, [], [.eof])
  | .eof :: rest => (false, rest, [.eof])
  | .interrupt :: rest => (false, rest, [.interrupt])
  | .line s :: rest =>
      let response := PyStr.lower (PyStr.strip s)
      if response = "" then (default, rest, [.line s])
      else if response = "y" || response = "yes" then (true, rest, [.line s])
      else if response = "n" || response = "no" then (false, rest, [.line s])
      else
        let r := askYesNoLoop default rest
        (r.1, r.2.1, .line s :: r.2.2)

/-- `ask_yes_no(prompt, default)`. -/
def askYesNo (p : Prompt) (hp : p.caught = true) (default : Bool) : Py σ Bool :=
  Py.readCaught p hp (askYesNoLoop default)

theorem askYesNoLoop_interrupt (default : Bool) (ev : InputEvent) (hev : ev.interrupts = true)
    (rest : List InputEvent) :
    (askYesNoLoop default (ev :: rest)).1 = (askYesNoLoop default (.line "n" :: rest)).1 ∧
      (askYesNoLoop default (ev :: rest)).2.1 = (askYesNoLoop default (.line "n" :: rest)).2.1 := by
  cases ev with
  | line s => simp [InputEvent.interrupts] at hev
  | eof => exact ⟨rfl, rfl⟩
  | interrupt => exact ⟨rfl, rfl⟩

namespace CMakeBuilder

/-- `CMakeBuilder.select_build_type_interactive`. -/
def selectBuildTypeInteractive : Cfg Unit := do
  let choice := PyStr.strip (← Py.input .buildType)
  if choice = "1" then
    setConfig fun c => { c with buildType := some "Debug" }
  else if choice = "2" then
    setConfig fun c => { c with buildType := some "RelWithDebInfo" }
  else
    setConfig fun c => { c with buildType := some "Release" }

/-- `CMakeBuilder.select_modules_interactive`. -/
def selectModulesInteractive : Cfg Unit := do
  let choice := PyStr.strip (← Py.input .modules)
  if choice = "1" then
    setConfig fun c => { c with coreOnly := some true }
  else
    setConfig fun c => { c with coreOnly := some false }

/-- `CMakeBuilder.select_tests_and_examples_interactive`. -/
def selectTestsAndExamplesInteractive : Cfg Unit := do
  if (← config).buildTests = none then
    let yes ← askYesNo .tests rfl false
    setConfig fun c => { c with buildTests := some yes }
  if (← config).buildExamples = none then
    let yes ← askYesNo .examples rfl false
    setConfig fun c => { c with buildExamples := some yes }

/-!
# What the menus change

Each menu sets its own fields of the configuration and nothing else; the
tests and examples questions only fill a field that is still `None`.
-/

open Py

variable (w : World BuildConfig)

theorem selectBuildTypeInteractive_wp : wp selectBuildTypeInteractive (fun _ w' =>
    w'.env = w.env ∧ w'.tree = w.tree ∧ ∃ bt, w'.obj = { w.obj with buildType := some bt }) w := by
  simp only [selectBuildTypeInteractive, wp_bind, wp_input]
  intro s rest _
  split_ifs <;> simp

theorem selectModulesInteractive_wp : wp selectModulesInteractive (fun _ w' =>
    w'.env = w.env ∧ w'.tree = w.tree ∧ ∃ b, w'.obj = { w.obj with coreOnly := some b }) w := by
  simp only [selectModulesInteractive, wp_bind, wp_input]
  intro s rest _
  split_ifs <;> simp

theorem selectTestsAndExamplesInteractive_wp : wp selectTestsAndExamplesInteractive (fun _ w' =>
    w'.env = w.env ∧ w'.tree = w.tree ∧ ∃ t e : Bool, w'.obj =
      { w.obj with buildTests := w.obj.buildTests.or (some t),
                   buildExamples := w.obj.buildExamples.or (some e) }) w := by
  simp only [selectTestsAndExamplesInteractive, askYesNo, wp_bind, wp_config, wp_readCaught,
    wp_setConfig, wp_ite, wp_pure]
  rcases w with ⟨⟨_, _, _, _, _, _, tests, examples, _⟩, _⟩
  cases tests <;> cases examples <;> simp

end CMakeBuilder

end Configure
end HeliosBuild
