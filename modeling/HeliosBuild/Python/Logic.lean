import HeliosBuild.Python.Script

/-!
# Reasoning about returning runs

`Py.wp m Q w` says that whenever `m`, started in `w`, returns a value `a`,
`Q a` holds of the world after it.  Runs that raise are not constrained: the
results about `configure.py` and `build.py` that use it are about runs that
get to a given point, which a raised exception never does.

There is one equation per statement of the monad, so that `simp` pushes `wp`
through a function's body, and a rule of consequence `wp.mono` by which a
caller uses a callee's specification without unfolding the callee.  `wpT`
does the same with the effects of the run in view, and `Keeps` states frame
conditions that hold of every run, the ones that raise included.
-/

namespace HeliosBuild
namespace Py

variable {σ α β : Type}

/-- The weakest precondition of a statement for its returning runs. -/
def wp (m : Py σ α) (Q : α → World σ → Prop) (w : World σ) : Prop :=
  ∀ a, (m w).result = .ok a → Q a (m w).state

variable {Q Q' : α → World σ → Prop} {w : World σ}

theorem wp.mono {m : Py σ α} (h : wp m Q w) (hq : ∀ a w', Q a w' → Q' a w') : wp m Q' w :=
  fun a ha => hq _ _ (h a ha)

theorem wp.and {m : Py σ α} (h : wp m Q w) (h' : wp m Q' w) :
    wp m (fun a w' => Q a w' ∧ Q' a w') w :=
  fun a ha => ⟨h a ha, h' a ha⟩

theorem wp_result (m : Py σ α) : wp m (fun a w' => (m w).result = .ok a ∧ w' = (m w).state) w :=
  fun _ ha => ⟨ha, rfl⟩

@[simp] theorem wp_pure (a : α) : wp (pure a : Py σ α) Q w ↔ Q a w :=
  ⟨fun h => h a rfl, fun h _ ha => by cases ha; exact h⟩

@[simp] theorem wp_bind (x : Py σ α) (f : α → Py σ β) (Q : β → World σ → Prop) :
    wp (x >>= f) Q w ↔ wp x (fun a w' => wp (f a) Q w') w := by
  constructor
  · intro h a ha b hb
    have hx := bind_ok (f := f) ha
    exact hx.2.1 ▸ h b (hx.1.trans hb)
  · intro h b hb
    cases hx : (x w).result with
    | ok a =>
        have hx' := bind_ok (f := f) hx
        exact hx'.2.1 ▸ h a hx b (hx'.1.symm.trans hb)
    | error e => simp [(bind_error (f := f) hx).1] at hb

@[simp] theorem wp_discard (x : Py σ α) (Q : Unit → World σ → Prop) :
    wp (discard x) Q w ↔ wp x (fun _ w' => Q () w') w :=
  (wp_bind x (fun _ => pure ()) Q).trans (by simp)

@[simp] theorem wp_raise (e : PyExc) : wp (raise e : Py σ α) Q w := fun _ h => nomatch h

@[simp] theorem wp_world (Q : World σ → World σ → Prop) : wp world Q w ↔ Q w w :=
  wp_pure (Q := fun a w' => Q a w') w

@[simp] theorem wp_modify (f : World σ → World σ) (Q : Unit → World σ → Prop) :
    wp (modify f) Q w ↔ Q () (f w) :=
  ⟨fun h => h () rfl, fun h _ ha => by cases ha; exact h⟩

@[simp] theorem wp_emit (e : Effect) (he : e.stops = false) (Q : Unit → World σ → Prop) :
    wp (emit e he) Q w ↔ Q () w :=
  ⟨fun h => h () rfl, fun h _ ha => by cases ha; exact h⟩

@[simp] theorem wp_input (p : Prompt) (Q : String → World σ → Prop) :
    wp (input p) Q w ↔ ∀ s rest, w.stdin = .line s :: rest → Q s { w with stdin := rest } := by
  unfold wp input
  split <;> simp_all

@[simp] theorem wp_readCaught (p : Prompt) (hp : p.caught = true)
    (loop : List InputEvent → α × List InputEvent × List InputEvent) :
    wp (readCaught p hp loop) Q w ↔ Q (loop w.stdin).1 { w with stdin := (loop w.stdin).2.1 } :=
  ⟨fun h => h _ rfl, fun h _ ha => by cases ha; exact h⟩

@[simp] theorem wp_runCmd (argv : List String) (Q : Unit → World σ → Prop) :
    wp (runCmd argv) Q w ↔ Q () w := wp_emit _ _ Q

@[simp] theorem wp_shellCmd (cmd : String) (Q : Unit → World σ → Prop) :
    wp (shellCmd cmd) Q w ↔ Q () w := wp_emit _ _ Q

@[simp] theorem wp_checkCommand (h : Host) (cmd : String) (Q : Bool → World σ → Prop) :
    wp (checkCommand h cmd) Q w ↔ Q (h.which w.env cmd) w :=
  ⟨fun h' => h' _ rfl, fun h' _ ha => by cases ha; exact h'⟩

@[simp] theorem wp_obj (Q : σ → World σ → Prop) : wp obj Q w ↔ Q w.obj w :=
  ⟨fun h => h _ rfl, fun h _ ha => by cases ha; exact h⟩

@[simp] theorem wp_modifyObj (f : σ → σ) (Q : Unit → World σ → Prop) :
    wp (modifyObj f) Q w ↔ Q () { w with obj := f w.obj } := wp_modify _ Q

@[simp] theorem wp_ite {c : Prop} [Decidable c] (x y : Py σ α) :
    wp (if c then x else y) Q w ↔ (c → wp x Q w) ∧ (¬c → wp y Q w) := by
  by_cases hc : c <;> simp [hc]

theorem wp_join {c : Prop} [Decidable c] {x y : Py σ α} {k : α → Py σ β} {Q : β → World σ → Prop}
    (R : α → World σ → Prop) (hx : c → wp x R w) (hy : ¬c → wp y R w)
    (hk : ∀ a w', R a w' → wp (k a) Q w') : wp (if c then x >>= k else y >>= k) Q w := by
  by_cases hc : c
  · simpa [hc] using (hx hc).mono hk
  · simpa [hc] using (hy hc).mono hk

theorem wp_seq {x : Py σ α} {k : α → Py σ β} {Q : β → World σ → Prop} (R : α → World σ → Prop)
    (hx : wp x R w) (hk : ∀ a w', R a w' → wp (k a) Q w') : wp (x >>= k) Q w :=
  (wp_bind x k Q).2 (hx.mono hk)

/-!
## Effects of returning runs

`Py.wpT m Q w` is `Py.wp` with the effects in view: whenever `m`, started in
`w`, returns `a`, `Q a` holds of the world after it and of the effects it
left.  Binding appends the effects of the two parts.
-/

/-- The weakest precondition of a statement for its returning runs, over the world after it and its effects. -/
def wpT (m : Py σ α) (Q : α → World σ → List Effect → Prop) (w : World σ) : Prop :=
  ∀ a, (m w).result = .ok a → Q a (m w).state (m w).effects

variable {R R' : α → World σ → List Effect → Prop}

theorem wpT.mono {m : Py σ α} (h : wpT m R w) (hq : ∀ a w' e, R a w' e → R' a w' e) :
    wpT m R' w :=
  fun a ha => hq _ _ _ (h a ha)

theorem wpT.wp {m : Py σ α} (h : wpT m (fun a w' _ => Q a w') w) : wp m Q w := h

theorem wpT_of_silent {m : Py σ α} (hm : wpT m (fun _ w' e => w' = w ∧ e = []) w) :
    wpT m R w ↔ ∀ a, (m w).result = .ok a → R a w [] := by
  constructor <;> intro H a ha <;> obtain ⟨hw, he⟩ := hm a ha
  · simpa [hw, he] using H a ha
  · simpa [hw, he] using H a ha

@[simp] theorem wpT_pure (a : α) : wpT (pure a : Py σ α) R w ↔ R a w [] :=
  ⟨fun h => h a rfl, fun h _ ha => by cases ha; exact h⟩

@[simp] theorem wpT_bind (x : Py σ α) (f : α → Py σ β) (Q : β → World σ → List Effect → Prop) :
    wpT (x >>= f) Q w ↔
      wpT x (fun a w' e => wpT (f a) (fun b w'' e' => Q b w'' (e ++ e')) w') w := by
  constructor
  · intro h a ha b hb
    have hx := bind_ok (f := f) ha
    exact hx.2.1 ▸ hx.2.2 ▸ h b (hx.1.trans hb)
  · intro h b hb
    cases hx : (x w).result with
    | ok a =>
        have hx' := bind_ok (f := f) hx
        exact hx'.2.1 ▸ hx'.2.2 ▸ h a hx b (hx'.1.symm.trans hb)
    | error e => simp [(bind_error (f := f) hx).1] at hb

@[simp] theorem wpT_raise (e : PyExc) : wpT (raise e : Py σ α) R w := fun _ h => nomatch h

@[simp] theorem wpT_world (Q : World σ → World σ → List Effect → Prop) :
    wpT world Q w ↔ Q w w [] :=
  wpT_pure (R := fun a w' e => Q a w' e) w

@[simp] theorem wpT_modify (f : World σ → World σ) (Q : Unit → World σ → List Effect → Prop) :
    wpT (modify f) Q w ↔ Q () (f w) [] :=
  ⟨fun h => h () rfl, fun h _ ha => by cases ha; exact h⟩

@[simp] theorem wpT_emit (e : Effect) (he : e.stops = false)
    (Q : Unit → World σ → List Effect → Prop) : wpT (emit e he) Q w ↔ Q () w [e] :=
  ⟨fun h => h () rfl, fun h _ ha => by cases ha; exact h⟩

@[simp] theorem wpT_readCaught (p : Prompt) (hp : p.caught = true)
    (loop : List InputEvent → α × List InputEvent × List InputEvent) :
    wpT (readCaught p hp loop) R w ↔
      R (loop w.stdin).1 { w with stdin := (loop w.stdin).2.1 } ((loop w.stdin).2.2.map (Effect.read p)) :=
  ⟨fun h => h _ rfl, fun h _ ha => by cases ha; exact h⟩

@[simp] theorem wpT_runCmd (argv : List String) (Q : Unit → World σ → List Effect → Prop) :
    wpT (runCmd argv) Q w ↔ Q () w [.run argv] := wpT_emit _ _ Q

@[simp] theorem wpT_shellCmd (cmd : String) (Q : Unit → World σ → List Effect → Prop) :
    wpT (shellCmd cmd) Q w ↔ Q () w [.shell cmd] := wpT_emit _ _ Q

@[simp] theorem wpT_checkCommand (h : Host) (cmd : String) (Q : Bool → World σ → List Effect → Prop) :
    wpT (checkCommand h cmd) Q w ↔ Q (h.which w.env cmd) w [] :=
  ⟨fun h' => h' _ rfl, fun h' _ ha => by cases ha; exact h'⟩

@[simp] theorem wpT_obj (Q : σ → World σ → List Effect → Prop) : wpT obj Q w ↔ Q w.obj w [] :=
  ⟨fun h => h _ rfl, fun h _ ha => by cases ha; exact h⟩

@[simp] theorem wpT_modifyObj (f : σ → σ) (Q : Unit → World σ → List Effect → Prop) :
    wpT (modifyObj f) Q w ↔ Q () { w with obj := f w.obj } [] := wpT_modify _ Q

@[simp] theorem wpT_ite {c : Prop} [Decidable c] (x y : Py σ α) :
    wpT (if c then x else y) R w ↔ (c → wpT x R w) ∧ (¬c → wpT y R w) := by
  by_cases hc : c <;> simp [hc]

theorem wpT_seq {x : Py σ α} {k : α → Py σ β} {Q : β → World σ → List Effect → Prop}
    (R : α → World σ → List Effect → Prop) (hx : wpT x R w)
    (hk : ∀ a w' e, R a w' e → wpT (k a) (fun b w'' e' => Q b w'' (e ++ e')) w') :
    wpT (x >>= k) Q w :=
  (wpT_bind x k Q).2 (hx.mono hk)

/-!
## Frames of every run

`wp` says nothing of the runs that raise, and a frame condition has to hold of
them as well.  `Keeps R m` says that every run of `m`, returning or raising,
ends in a world related by `R` to the one it started in.  For a reflexive and
transitive `R` it is built statement by statement.
-/

/-- Every run of `m` ends in a world `R`-related to the one it started in. -/
def Keeps (R : World σ → World σ → Prop) (m : Py σ α) : Prop :=
  ∀ w, R w (m w).state

namespace Keeps

variable {R : World σ → World σ → Prop}

theorem of_state (hrefl : ∀ w, R w w) {m : Py σ α} (hm : ∀ w, (m w).state = w) : Keeps R m :=
  fun w => by rw [hm w]; exact hrefl w

theorem bind (htrans : ∀ {w₁ w₂ w₃}, R w₁ w₂ → R w₂ w₃ → R w₁ w₃) {x : Py σ α} {f : α → Py σ β}
    (hx : Keeps R x) (hf : ∀ a, Keeps R (f a)) : Keeps R (x >>= f) := by
  intro w
  cases hres : (x w).result with
  | ok a => rw [(bind_ok hres).2.1]; exact htrans (hx w) (hf a _)
  | error e => rw [(bind_error hres).2.1]; exact hx w

theorem ite {c : Prop} [Decidable c] {x y : Py σ α} (hx : Keeps R x) (hy : Keeps R y) :
    Keeps R (if c then x else y) := by
  split <;> assumption

theorem of_eq (hrefl : ∀ w, R w w) {m : Py σ α} (hm : Keeps (· = ·) m) : Keeps R m := fun w => by
  rw [← hm w]
  exact hrefl w

theorem eq_of_state {m : Py σ α} (hm : ∀ w, (m w).state = w) : Keeps (· = ·) m :=
  fun w => (hm w).symm

theorem eq_bind {x : Py σ α} {f : α → Py σ β} (hx : Keeps (· = ·) x) (hf : ∀ a, Keeps (· = ·) (f a)) :
    Keeps (· = ·) (x >>= f) :=
  bind (fun h₁ h₂ => h₁.trans h₂) hx hf

end Keeps

/-!
## Every run, with its result

`Py.wpE m Q w` is the run of `m` from `w` itself, returning or raising: `Q`
holds of its result, the world after it and its effects.  It is the logic of
statements that say a run returns, or how it raises; `wpT` and `Keeps` are its
weakenings to the returning runs and to the world.
-/

/-- The run of `m` from `w`, whatever its result, satisfies `Q`. -/
def wpE (m : Py σ α) (Q : Except PyExc α → World σ → List Effect → Prop) (w : World σ) : Prop :=
  Q (m w).result (m w).state (m w).effects

variable {E E' : Except PyExc α → World σ → List Effect → Prop}

theorem wpE.mono {m : Py σ α} (h : wpE m E w) (hq : ∀ r w' e, E r w' e → E' r w' e) :
    wpE m E' w :=
  hq _ _ _ h

@[simp] theorem wpE_pure (a : α) : wpE (pure a : Py σ α) E w ↔ E (.ok a) w [] := Iff.rfl

@[simp] theorem wpE_raise (e : PyExc) : wpE (raise e : Py σ α) E w ↔ E (.error e) w [] := Iff.rfl

@[simp] theorem wpE_bind (x : Py σ α) (f : α → Py σ β) (Q : Except PyExc β → World σ → List Effect → Prop) :
    wpE (x >>= f) Q w ↔ wpE x (fun r w' e =>
      (∀ a, r = .ok a → wpE (f a) (fun r' w'' e' => Q r' w'' (e ++ e')) w') ∧
        (∀ ex, r = .error ex → Q (.error ex) w' e)) w := by
  unfold wpE
  cases hx : (x w).result with
  | ok a =>
    obtain ⟨h₁, h₂, h₃⟩ := bind_ok (f := f) hx
    simp [h₁, h₂, h₃]
  | error ex =>
    obtain ⟨h₁, h₂, h₃⟩ := bind_error (f := f) hx
    simp [h₁, h₂, h₃]

@[simp] theorem wpE_world (Q : Except PyExc (World σ) → World σ → List Effect → Prop) :
    wpE world Q w ↔ Q (.ok w) w [] := Iff.rfl

@[simp] theorem wpE_modify (f : World σ → World σ) (Q : Except PyExc Unit → World σ → List Effect → Prop) :
    wpE (modify f) Q w ↔ Q (.ok ()) (f w) [] := Iff.rfl

@[simp] theorem wpE_emit (e : Effect) (he : e.stops = false)
    (Q : Except PyExc Unit → World σ → List Effect → Prop) : wpE (emit e he) Q w ↔ Q (.ok ()) w [e] :=
  Iff.rfl

@[simp] theorem wpE_runCmd (argv : List String) (Q : Except PyExc Unit → World σ → List Effect → Prop) :
    wpE (runCmd argv) Q w ↔ Q (.ok ()) w [.run argv] := Iff.rfl

@[simp] theorem wpE_shellCmd (cmd : String) (Q : Except PyExc Unit → World σ → List Effect → Prop) :
    wpE (shellCmd cmd) Q w ↔ Q (.ok ()) w [.shell cmd] := Iff.rfl

@[simp] theorem wpE_checkCommand (h : Host) (cmd : String)
    (Q : Except PyExc Bool → World σ → List Effect → Prop) :
    wpE (checkCommand h cmd) Q w ↔ Q (.ok (h.which w.env cmd)) w [] := Iff.rfl

@[simp] theorem wpE_obj (Q : Except PyExc σ → World σ → List Effect → Prop) :
    wpE obj Q w ↔ Q (.ok w.obj) w [] := Iff.rfl

@[simp] theorem wpE_modifyObj (f : σ → σ) (Q : Except PyExc Unit → World σ → List Effect → Prop) :
    wpE (modifyObj f) Q w ↔ Q (.ok ()) { w with obj := f w.obj } [] := Iff.rfl

@[simp] theorem wpE_ite {c : Prop} [Decidable c] (x y : Py σ α) :
    wpE (if c then x else y) E w ↔ (c → wpE x E w) ∧ (¬c → wpE y E w) := by
  by_cases hc : c <;> simp [hc]

@[simp] theorem wpE_pure_bind (a : α) (f : α → Py σ β)
    (Q : Except PyExc β → World σ → List Effect → Prop) : wpE (pure a >>= f) Q w ↔ wpE (f a) Q w :=
  Iff.rfl

@[simp] theorem wpE_obj_bind (f : σ → Py σ β) (Q : Except PyExc β → World σ → List Effect → Prop) :
    wpE (obj >>= f) Q w ↔ wpE (f w.obj) Q w :=
  Iff.rfl

@[simp] theorem wpE_world_bind (f : World σ → Py σ β)
    (Q : Except PyExc β → World σ → List Effect → Prop) : wpE (world >>= f) Q w ↔ wpE (f w) Q w :=
  Iff.rfl

@[simp] theorem wpE_checkCommand_bind (h : Host) (cmd : String) (f : Bool → Py σ β)
    (Q : Except PyExc β → World σ → List Effect → Prop) :
    wpE (checkCommand h cmd >>= f) Q w ↔ wpE (f (h.which w.env cmd)) Q w :=
  Iff.rfl

@[simp] theorem wpE_modifyObj_bind (g : σ → σ) (f : Unit → Py σ β)
    (Q : Except PyExc β → World σ → List Effect → Prop) :
    wpE (modifyObj g >>= f) Q w ↔ wpE (f ()) Q { w with obj := g w.obj } :=
  Iff.rfl

@[simp] theorem wpE_runCmd_bind (argv : List String) (f : Unit → Py σ β)
    (Q : Except PyExc β → World σ → List Effect → Prop) :
    wpE (runCmd argv >>= f) Q w ↔ wpE (f ()) (fun r w' e => Q r w' (.run argv :: e)) w :=
  Iff.rfl

theorem wpE_seq {x : Py σ α} {k : α → Py σ β} {Q : Except PyExc β → World σ → List Effect → Prop}
    (R : Except PyExc α → World σ → List Effect → Prop) (hx : wpE x R w)
    (hk : ∀ r w' e, R r w' e → (∀ a, r = .ok a → wpE (k a) (fun r' w'' e' => Q r' w'' (e ++ e')) w') ∧
      (∀ ex, r = .error ex → Q (.error ex) w' e)) :
    wpE (x >>= k) Q w :=
  (wpE_bind x k Q).2 (hx.mono hk)

end Py
end HeliosBuild
