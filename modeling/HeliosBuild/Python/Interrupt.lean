import HeliosBuild.Python.Script

/-!
# An interruption read as "no"

Two runs of one statement from worlds that differ in one event of standard
input: an interruption (`EOFError` or `KeyboardInterrupt`) in the first, where
the second reads the line `n`.  Until a prompt reads that event the runs do
the same.  A prompt that catches the interruption and reads it as it reads
`n` leaves them the same again, apart from the read it records; a prompt that
lets it escape ends the first run there.  `RespectsNo` says this of a
statement, and it is built statement by statement, from the reads up: every primitive
other than the reads is `Blind`, by `rfl`.
-/

namespace HeliosBuild
namespace Py

variable {σ α β : Type}

/-- `w` and `w'` differ only in one event of standard input: an interruption in `w` where `w'`
has the line `n`. -/
def NoSwap (w w' : World σ) : Prop :=
  w' = { w with stdin := w'.stdin } ∧ ∃ pre ev rest, ev.interrupts = true ∧
    w.stdin = pre ++ ev :: rest ∧ w'.stdin = pre ++ .line "n" :: rest

/-- How the runs of one statement from two `NoSwap` worlds compare. -/
inductive ReadsAsNo (o o' : Outcome σ α) : Prop
  /-- No prompt has read the event yet. -/
  | unread (hr : o.result = o'.result) (he : o.effects = o'.effects) (hs : NoSwap o.state o'.state)
  /-- A prompt that catches the interruption read it as `n`: the runs agree but for that read. -/
  | asked {done post : List Effect} {p : Prompt} {ev : InputEvent} (hp : p.caught = true)
      (he : o.effects = done ++ .read p ev :: post)
      (he' : o'.effects = done ++ .read p (.line "n") :: post)
      (hr : o.result = o'.result) (hs : o.state = o'.state)
  /-- A prompt that lets it escape read it: the first run ends there, raising it. -/
  | stopped {done post : List Effect} {q : Prompt} {ev : InputEvent} (hq : q.caught = false)
      (hev : ev.interrupts = true) (he : o.effects = done ++ [.read q ev])
      (he' : o'.effects = done ++ .read q (.line "n") :: post) (hr : interruptedBy o.result = true)

/-- Every pair of runs from two `NoSwap` worlds compares as `ReadsAsNo` says. -/
def RespectsNo (m : Py σ α) : Prop := ∀ w w', NoSwap w w' → ReadsAsNo (m w) (m w')

/-- A statement that neither reads standard input nor looks at it. -/
def Blind (m : Py σ α) : Prop :=
  ∀ w s, (m { w with stdin := s }).result = (m w).result ∧
    (m { w with stdin := s }).effects = (m w).effects ∧
    (m { w with stdin := s }).state = { (m w).state with stdin := s } ∧ (m w).state.stdin = w.stdin

theorem ReadsAsNo.prefix_error {o o' : Outcome σ α} {f : α → Py σ β} {e : PyExc}
    (hr : o.result = .error e) (h : ReadsAsNo o o') (hu : o'.result = .error e →
      ReadsAsNo (andThen o f) (andThen o' f)) : ReadsAsNo (andThen o f) (andThen o' f) := by
  cases h with
  | unread hr' => exact hu (hr'.symm.trans hr)
  | asked _ _ _ hr' => exact hu (hr'.symm.trans hr)
  | stopped hq hev he he' hi =>
    have h₁ := andThen_error (f := f) hr
    rcases ho : o'.result with e' | a
    · have h₂ := andThen_error (f := f) ho
      exact .stopped hq hev (h₁.2.2.trans he) (h₂.2.2.trans he') (by rw [h₁.1]; rw [hr] at hi; exact hi)
    · have h₂ := andThen_ok (f := f) ho
      exact .stopped hq hev (h₁.2.2.trans he) (by rw [h₂.2.2, he', List.append_assoc]; rfl)
        (by rw [h₁.1]; rw [hr] at hi; exact hi)

/-- A loop of reads that takes an interruption as it takes the line `n`. -/
def LoopNo (loop : List InputEvent → α × List InputEvent × List InputEvent) : Prop :=
  ∀ pre ev rest, ev.interrupts = true →
    ((loop (pre ++ ev :: rest)).1 = (loop (pre ++ .line "n" :: rest)).1 ∧
      (loop (pre ++ ev :: rest)).2.2 = (loop (pre ++ .line "n" :: rest)).2.2 ∧
      ∃ pre', (loop (pre ++ ev :: rest)).2.1 = pre' ++ ev :: rest ∧
        (loop (pre ++ .line "n" :: rest)).2.1 = pre' ++ .line "n" :: rest) ∨
    ((loop (pre ++ ev :: rest)).1 = (loop (pre ++ .line "n" :: rest)).1 ∧
      (loop (pre ++ ev :: rest)).2.1 = (loop (pre ++ .line "n" :: rest)).2.1 ∧
      ∃ done post, (loop (pre ++ ev :: rest)).2.2 = done ++ ev :: post ∧
        (loop (pre ++ .line "n" :: rest)).2.2 = done ++ .line "n" :: post)

namespace RespectsNo

theorem of_blind {m : Py σ α} (hm : Blind m) : RespectsNo m := by
  rintro w w' ⟨hw, pre, ev, rest, hev, hs, hs'⟩
  obtain ⟨hr, he, hst, hin⟩ := hm w w'.stdin
  rw [hw]
  refine .unread hr.symm he.symm ⟨?_, pre, ev, rest, hev, hin.trans hs, ?_⟩
  · rw [hst]
  · rw [hst]
    exact hs'

theorem bind {x : Py σ α} {f : α → Py σ β} (hx : RespectsNo x) (hf : ∀ a, RespectsNo (f a)) :
    RespectsNo (x >>= f) := by
  intro w w' hw
  show ReadsAsNo (andThen (x w) f) (andThen (x w') f)
  rcases hxr : (x w).result with e | a
  · -- the first run raised: so did the second, unless it went on after a read that stopped the first
    refine ReadsAsNo.prefix_error hxr (hx w w' hw) fun hxr' => ?_
    have h₁ := andThen_error (f := f) hxr
    have h₂ := andThen_error (f := f) hxr'
    rcases hx w w' hw with ⟨-, he, hs⟩ | ⟨hp, he, he', -, hs⟩ | ⟨hq, hev, he, he', hi⟩
    · exact .unread (h₁.1.trans h₂.1.symm) (by rw [h₁.2.2, h₂.2.2, he])
        (by rw [h₁.2.1, h₂.2.1]; exact hs)
    · exact .asked hp (h₁.2.2.trans he) (h₂.2.2.trans he') (h₁.1.trans h₂.1.symm)
        (by rw [h₁.2.1, h₂.2.1, hs])
    · exact .stopped hq hev (h₁.2.2.trans he) (h₂.2.2.trans he') (by rw [h₁.1]; rw [hxr] at hi; exact hi)
  · have h₁ := andThen_ok (f := f) hxr
    rcases hx w w' hw with ⟨hr, he, hs⟩ | ⟨hp, he, he', hr, hs⟩ | ⟨-, -, -, -, hi⟩
    · -- nothing read yet: the rest starts from two `NoSwap` worlds
      have h₂ := andThen_ok (f := f) (hr.symm.trans hxr)
      rw [← he] at h₂
      rcases hf a _ _ hs with ⟨hr', he', hs'⟩ | ⟨hp, hea, heb, hr', hs'⟩ | ⟨hq, hev, hea, heb, hi⟩
      · exact .unread (by rw [h₁.1, h₂.1, hr']) (by rw [h₁.2.2, h₂.2.2, he'])
          (by rw [h₁.2.1, h₂.2.1]; exact hs')
      · exact .asked hp (by rw [h₁.2.2, hea, ← List.append_assoc]) (by rw [h₂.2.2, heb, ← List.append_assoc])
          (by rw [h₁.1, h₂.1, hr']) (by rw [h₁.2.1, h₂.2.1, hs'])
      · exact .stopped hq hev (by rw [h₁.2.2, hea, ← List.append_assoc])
          (by rw [h₂.2.2, heb, ← List.append_assoc]) (by rw [h₁.1]; exact hi)
    · -- read as `n`: from here on both runs are one
      have h₂ := andThen_ok (f := f) (hr.symm.trans hxr)
      rw [← hs] at h₂
      exact .asked hp (by rw [h₁.2.2, he, List.append_assoc]; rfl)
        (by rw [h₂.2.2, he', List.append_assoc]; rfl) (by rw [h₁.1, h₂.1]) (by rw [h₁.2.1, h₂.2.1])
    · simp [hxr, interruptedBy] at hi

theorem ite {c : Prop} [Decidable c] {x y : Py σ α} (hx : RespectsNo x) (hy : RespectsNo y) :
    RespectsNo (if c then x else y) := by
  split <;> assumption

theorem discard {x : Py σ α} (hx : RespectsNo x) : RespectsNo (discard x) :=
  hx.bind fun _ => of_blind fun _ _ => ⟨rfl, rfl, rfl, rfl⟩

/-- Reading the world is harmless when what follows does not look at standard input. -/
theorem world_bind {f : World σ → Py σ β} (hf : ∀ w, RespectsNo (f w))
    (hs : ∀ w s, f { w with stdin := s } = f w) : RespectsNo (world >>= f) := by
  intro w w' hw
  show ReadsAsNo (f w w) (f w' w')
  rw [hw.1, hs w w'.stdin, ← hw.1]
  exact hf w w w' hw

/-- The same, after a statement whose result is dropped. -/
theorem bind_world {x : Py σ α} {f : World σ → Py σ β} (hx : RespectsNo x) (hf : ∀ w, RespectsNo (f w))
    (hs : ∀ w s, f { w with stdin := s } = f w) : RespectsNo ((x >>= fun _ => world) >>= f) := by
  rw [bind_assoc]
  exact hx.bind fun _ => world_bind hf hs

/-- `input()` at a prompt that lets the interruption escape. -/
theorem input {p : Prompt} (hp : p.caught = false) : RespectsNo (input p : Py σ String) := by
  rintro w w' ⟨hw, pre, ev, rest, hev, hs, hs'⟩
  rw [hw]
  cases pre with
  | nil =>
    simp only [List.nil_append] at hs hs'
    refine @ReadsAsNo.stopped _ _ _ _ [] [] p ev hp hev ?_ ?_ ?_ <;>
      cases ev <;> simp_all [Py.input, InputEvent.interrupts, interruptedBy, PyExc.interrupts]
  | cons c pre =>
    simp only [List.cons_append] at hs hs'
    have hw' : ∀ s, ({ { w with stdin := w'.stdin } with stdin := s } : World σ) =
        { w with stdin := s } := fun _ => rfl
    refine .unread ?_ ?_ ⟨?_, pre, ev, rest, hev, ?_, ?_⟩ <;>
      cases c <;> simp_all [Py.input]

theorem readCaught {p : Prompt} (hp : p.caught = true)
    {loop : List InputEvent → α × List InputEvent × List InputEvent} (hl : LoopNo loop) :
    RespectsNo (readCaught p hp loop : Py σ α) := by
  rintro w w' ⟨hw, pre, ev, rest, hev, hs, hs'⟩
  rcases hl pre ev rest hev with ⟨h₁, h₂, pre', h₃, h₄⟩ | ⟨h₁, h₂, done, post, h₃, h₄⟩
  · refine .unread ?_ ?_ ⟨?_, pre', ev, rest, hev, ?_, ?_⟩ <;>
      simp only [Py.readCaught, hs, hs', h₁, h₂, h₃, h₄]
    rw [hw]
  · refine @ReadsAsNo.asked _ _ _ _ (done.map (.read p)) (post.map (.read p)) p ev hp ?_ ?_ ?_ ?_ <;>
      simp only [Py.readCaught, hs, hs', h₁, h₂, h₃, h₄, List.map_append, List.map_cons]
    rw [hw]

end RespectsNo

end Py
end HeliosBuild
