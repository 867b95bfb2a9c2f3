import HeliosBuild.Python.Script

/-!
# `argparse`

The three scripts read their command lines with `argparse`, and the claims
about hand-offs between them are claims about what one script's parser makes
of the vector another script builds.  This module follows `parse_args` of
Python 3.11 for parsers that have only optional arguments: each argument
string is first classified (an option string, an argument, or the `--`
marker), then the option strings are consumed from left to right, each
`store` action taking the next argument.  What is left over is an error,
`unrecognized arguments`.

An argument string that begins with `-`, contains no space and is not a
negative number reads as an option string even when no option has that name;
it cannot be the argument of a `store` action.
-/

namespace HeliosBuild
namespace Argparse

inductive Value
  | none
  | str (s : String)
  | bool (b : Bool)
  | int (n : Int)
  deriving DecidableEq, Repr

def Value.optStr : Value → Option String
  | .str s => some s
  | _ => Option.none

def Value.optBool : Value → Option Bool
  | .bool b => some b
  | _ => Option.none

inductive Action
  | store (choices : Option (List String))
  | storeInt
  | storeConst (value : Bool)
  | help
  deriving DecidableEq, Repr

def Action.takesArg : Action → Bool
  | .store _ | .storeInt => true
  | .storeConst _ | .help => false

structure Argument where
  flags : List String
  dest : String
  action : Action
  deriving DecidableEq, Repr

structure Parser where
  arguments : List Argument
  defaults : List (String × Value)

abbrev Namespace := List (String × Value)

/-- `getattr(ns, dest)`. -/
def Namespace.get (ns : Namespace) (dest : String) : Value :=
  ((ns.find? fun p => p.1 = dest).map Prod.snd).getD .none

/-- `setattr(ns, dest, v)`. -/
def Namespace.set (ns : Namespace) (dest : String) (v : Value) : Namespace :=
  if ns.any (fun p => p.1 = dest) then ns.map fun p => if p.1 = dest then (dest, v) else p
  else ns ++ [(dest, v)]

@[simp] theorem Namespace.get_set (ns : Namespace) (dest : String) (v : Value) (d : String) :
    (ns.set dest v).get d = if dest = d then v else ns.get d := by
  unfold Namespace.set Namespace.get
  split
  · next hany =>
      have hkey : ∀ p : String × Value, (if p.1 = dest then (dest, v) else p).1 = p.1 := by
        intro p; split <;> simp_all
      have hfun : ((fun p => decide (p.1 = d)) ∘ fun p : String × Value =>
          if p.1 = dest then (dest, v) else p) = fun p => decide (p.1 = d) := by
        funext p; simp only [Function.comp_apply, hkey]
      rw [List.find?_map, hfun]
      cases hf : ns.find? (fun p => decide (p.1 = d)) with
      | none =>
          by_cases hd : dest = d
          · subst hd
            obtain ⟨q, hq, hqd⟩ := List.any_eq_true.1 hany
            exact absurd hqd (List.find?_eq_none.1 hf q hq)
          · simp [hd]
      | some r =>
          have hr1 : r.1 = d := by simpa using List.find?_some hf
          by_cases hd : dest = d
          · simp [hd, hr1]
          · simp [hd, hr1, Ne.symm hd]
  · next hany =>
      have hnone : ns.find? (fun p => decide (p.1 = dest)) = none :=
        List.find?_eq_none.2 fun q hq hqd => hany (List.any_eq_true.2 ⟨q, hq, hqd⟩)
      by_cases hd : dest = d
      · subst hd; simp [List.find?_append, hnone]
      · simp [List.find?_append, hd]

theorem Namespace.get_foldl_set {β : Type} (dest : β → String) (val : β → Value) (l : List β)
    (ns : Namespace) (d : String) :
    (l.foldl (fun ns x => ns.set (dest x) (val x)) ns).get d =
      (((l.filter fun x => dest x = d).getLast?).map val).getD (ns.get d) := by
  induction l generalizing ns with
  | nil => rfl
  | cons x l ih =>
      rw [List.foldl_cons, ih, Namespace.get_set, List.filter_cons]
      by_cases hx : dest x = d
      · cases hl : (l.filter fun x => dest x = d).getLast? <;> simp [hx, hl, List.getLast?_cons]
      · simp [hx]

inductive ParseError
  | help
  | ambiguous (arg : String)
  | expectedOne (flag : String)
  | invalidChoice (flag value : String)
  | invalidInt (flag value : String)
  | ignoredExplicit (flag arg : String)
  | unrecognized (args : List String)
  | crash
  deriving DecidableEq, Repr

inductive Kind
  | arg
  | dashdash
  | opt (a : Option Argument) (flag : String) (explicit : Option String)
  deriving DecidableEq, Repr

section Classify

variable (p : Parser)

def lookupFlag (s : String) : Option Argument :=
  p.arguments.find? fun a => a.flags.contains s

def flagTable : List (String × Argument) :=
  p.arguments.flatMap fun a => a.flags.map fun f => (f, a)

/-- `_get_option_tuples`: the options an abbreviated string may name. -/
def optionTuples (s : String) : List Kind :=
  match s.toList with
  | '-' :: '-' :: _ =>
      let (pre, ex) := match PyStr.splitFirst s '=' with
        | some (o, e) => (o, some e)
        | none => (s, none)
      (flagTable p).filterMap fun (f, a) =>
        if PyStr.startswith f pre then some (.opt (some a) f ex) else none
  | '-' :: c :: ex =>
      (flagTable p).filterMap fun (f, a) =>
        if f = ⟨['-', c]⟩ then some (.opt (some a) f (some ⟨ex⟩))
        else if PyStr.startswith f s then some (.opt (some a) f none)
        else none
  | _ => []

/-- `_negative_number_matcher.match(s)` for `^-\d+$|^-\d*\.\d+$`: `\d` is a Unicode decimal digit. -/
def isNegativeNumber (s : String) : Bool :=
  match s.toList with
  | '-' :: rest =>
      -- `$` also matches before a final newline
      let ds := if rest.getLast? = some '\n' then rest.dropLast else rest
      match PyStr.splitFirstChars '.' ds with
      | none => !ds.isEmpty && ds.all Unicode.isDecimal
      | some (i, f) => i.all Unicode.isDecimal && !f.isEmpty && f.all Unicode.isDecimal
  | _ => false

example : isNegativeNumber "-١٢" = true ∧ isNegativeNumber "-.5\n" = true ∧
    isNegativeNumber "-1e5" = false := by decide

/-- `_parse_optional`, for a parser without negative-number-like options. -/
def classify (s : String) : Except ParseError Kind :=
  match s.toList with
  | [] => .ok .arg
  | c :: _ =>
      if c ≠ '-' then .ok .arg
      else match lookupFlag p s with
        | some a => .ok (.opt (some a) s none)
        | none =>
          if s.length = 1 then .ok .arg
          else
            let exact := (PyStr.splitFirst s '=').bind fun (o, e) =>
              (lookupFlag p o).map fun a => Kind.opt (some a) o (some e)
            match exact with
            | some k => .ok k
            | none =>
              match optionTuples p s with
              | [k] => .ok k
              | _ :: _ :: _ => .error (.ambiguous s)
              | [] =>
                if isNegativeNumber s then .ok .arg
                else if PyStr.contains s " " then .ok .arg
                else .ok (.opt none s none)

def classifyAll : List String → Except ParseError (List (String × Kind))
  | [] => .ok []
  | s :: rest =>
      if s = "--" then .ok ((s, .dashdash) :: rest.map fun r => (r, .arg))
      else do
        let k ← classify p s
        let ks ← classifyAll rest
        return (s, k) :: ks

end Classify

/-!
# Consuming the option strings
-/

/-- `take_action`: store what one action read. -/
def takeAction (ns : Namespace) : Argument × List String → Except ParseError Namespace
  | (a, args) =>
    match a.action with
    | .help => .error .help
    | .storeConst v => .ok (ns.set a.dest (.bool v))
    | .store choices =>
        match args.erase "--" with
        | [v] =>
            match choices with
            | some cs => if cs.contains v then .ok (ns.set a.dest (.str v))
                         else .error (.invalidChoice (a.flags.getLast?.getD "") v)
            | none => .ok (ns.set a.dest (.str v))
        | _ => .error .crash
    | .storeInt =>
        match args.erase "--" with
        | [v] =>
            match PyStr.toInt v with
            | some n => .ok (ns.set a.dest (.int n))
            | none => .error (.invalidInt (a.flags.getLast?.getD "") v)
        | _ => .error .crash

inductive Start
  | done (actions : List (Argument × List String))
  | needs (pending : List (Argument × List String)) (a : Argument) (flag : String)

def startPlain (a : Argument) (flag : String) (acc : List (Argument × List String)) : Start :=
  if a.action.takesArg then .needs acc a flag else .done (acc ++ [(a, [])])

def singleDash (flag : String) : Bool :=
  match flag.toList with
  | '-' :: c :: _ => c ≠ '-'
  | _ => false

/-- `consume_optional` for an option string with an explicit argument: a `store` action takes it; after `-h` further single-letter flags may follow. -/
def startExplicit (p : Parser) :
    Argument → String → List Char → List (Argument × List String) → Except ParseError Start
  | a, flag, e, acc =>
    if a.action.takesArg then .ok (.done (acc ++ [(a, [⟨e⟩])]))
    else
      match e with
      | [] => .error (.ignoredExplicit flag "")
      | c :: e' =>
        if singleDash flag then
          match lookupFlag p ⟨['-', c]⟩ with
          | none => .error (.ignoredExplicit flag ⟨c :: e'⟩)
          | some a' =>
            match e' with
            | [] => .ok (startPlain a' ⟨['-', c]⟩ (acc ++ [(a, [])]))
            | d :: ds => startExplicit p a' ⟨['-', c]⟩ (d :: ds) (acc ++ [(a, [])])
        else .error (.ignoredExplicit flag ⟨c :: e'⟩)

def takeActions (ns : Namespace) : List (Argument × List String) → Except ParseError Namespace
  | [] => .ok ns
  | t :: ts => do takeActions (← takeAction ns t) ts

inductive Mode
  | ready
  | awaiting (pending : List (Argument × List String)) (a : Argument) (flag : String)
      (sawDash : Bool)
  | taken
  deriving Inhabited

abbrev ReadState := Mode × Namespace × List String

def step (p : Parser) : ReadState → String × Kind → Except ParseError ReadState
  | (.awaiting pend a flag dash, ns, ex), (s, k) =>
      match k with
      | .arg => do
          let ns' ← takeActions ns (pend ++ [(a, if dash then ["--", s] else [s])])
          return (.taken, ns', ex)
      | .dashdash =>
          if dash then .error (.expectedOne flag) else .ok (.awaiting pend a flag true, ns, ex)
      | .opt _ _ _ => .error (.expectedOne flag)
  | (m, ns, ex), (s, k) =>
      match k with
      | .dashdash =>
          match m with
          | .taken => .ok (.ready, ns, ex)
          | _ => .ok (.ready, ns, ex ++ [s])
      | .arg => .ok (.ready, ns, ex ++ [s])
      | .opt none _ _ => .ok (.ready, ns, ex ++ [s])
      | .opt (some a) flag explicit => do
          let st ← match explicit with
            | none => .ok (startPlain a flag [])
            | some e => startExplicit p a flag e.toList []
          match st with
          | .done acts => return (.ready, ← takeActions ns acts, ex)
          | .needs pend a' flag' => return (.awaiting pend a' flag' false, ns, ex)

/-- `parse_args(argv)`. -/
def parse (p : Parser) (argv : List String) : Except ParseError Namespace := do
  let ks ← classifyAll p argv
  let (m, ns, ex) ← ks.foldlM (step p) (.ready, p.defaults, [])
  match m with
  | .awaiting _ _ flag _ => .error (.expectedOne flag)
  | _ => if ex.isEmpty then .ok ns else .error (.unrecognized ex)

def parseExit : ParseError → PyExc
  | .help => .systemExit 0
  | .crash => .valueError
  | _ => .systemExit 2

/-!
# Vectors built from known option strings

A script that builds another script's command line writes each option string
in full, followed by its value when the action takes one.  When every option
string names its action exactly and no value reads as an option string,
`parse_args` reads such a vector as the actions it names, in order.
-/

@[simp] theorem ok_bind {ε α β : Type} (a : α) (f : α → Except ε β) :
    (Except.ok a >>= f) = f a := rfl

@[simp] theorem error_bind {ε α β : Type} (e : ε) (f : α → Except ε β) :
    (Except.error e >>= f) = .error e := rfl

@[simp] theorem pure_eq_ok {ε α : Type} (a : α) : (pure a : Except ε α) = .ok a := rfl

abbrev Item := Argument × String × Option String

def Item.strings (i : Item) : List String := i.2.1 :: i.2.2.toList

def Item.action (i : Item) : Argument × List String := (i.1, i.2.2.toList)

def Item.kinds (i : Item) : List (String × Kind) :=
  (i.2.1, .opt (some i.1) i.2.1 none) :: i.2.2.toList.map fun v => (v, .arg)

structure Item.Exact (p : Parser) (i : Item) : Prop where
  lookup : lookupFlag p i.2.1 = some i.1
  dash : i.2.1.toList.head? = some '-'
  notDashDash : i.2.1 ≠ "--"
  arity : i.1.action.takesArg = i.2.2.isSome
  value : ∀ v, i.2.2 = some v → v ≠ "--" ∧ classify p v = .ok .arg

theorem classify_item {p : Parser} {i : Item} (hx : i.Exact p) :
    classify p i.2.1 = .ok (.opt (some i.1) i.2.1 none) := by
  have hd : i.2.1.toList.head? = some '-' := hx.dash
  unfold classify
  split
  · next heq => rw [heq] at hd; cases hd
  · next c _ heq =>
      rw [heq] at hd
      simp only [List.head?_cons, Option.some.injEq] at hd
      simp [hd, hx.lookup]

theorem classifyAll_items (p : Parser) :
    ∀ {is : List Item}, (∀ i ∈ is, i.Exact p) →
      classifyAll p (is.flatMap Item.strings) = .ok (is.flatMap Item.kinds)
  | [], _ => rfl
  | ⟨a, f, v⟩ :: is, hx => by
      have hi := hx _ (List.mem_cons_self _ _)
      have ih := classifyAll_items p fun i hi => hx i (List.mem_cons_of_mem _ hi)
      rw [List.flatMap_cons, List.flatMap_cons]
      rcases v with _ | v
      · simp [Item.strings, Item.kinds, classifyAll, hi.notDashDash, classify_item hi, ih]
      · obtain ⟨hv, hcv⟩ := hi.value v rfl
        simp [Item.strings, Item.kinds, classifyAll, hi.notDashDash, classify_item hi, hv, hcv, ih]

def Mode.settled : Mode → Bool
  | .awaiting .. => false
  | _ => true

theorem step_settled_opt (p : Parser) {m : Mode} (hm : m.settled) (ns : Namespace)
    (ex : List String) (a : Argument) (f : String) :
    step p (m, ns, ex) (f, .opt (some a) f none) =
      if a.action.takesArg then .ok (.awaiting [] a f false, ns, ex)
      else (takeAction ns (a, [])).map fun ns' => (.ready, ns', ex) := by
  cases m with
  | awaiting => cases hm
  | ready | taken =>
      by_cases ha : a.action.takesArg <;>
        cases ht : takeAction ns (a, []) <;> simp [step, startPlain, ha, takeActions, ht, Except.map]

theorem step_awaiting_arg (p : Parser) (ns : Namespace) (ex : List String) (a : Argument)
    (f v : String) :
    step p (.awaiting [] a f false, ns, ex) (v, .arg) =
      (takeAction ns (a, [v])).map fun ns' => (.taken, ns', ex) := by
  cases ht : takeAction ns (a, [v]) <;> simp [step, takeActions, ht, Except.map]

theorem foldlM_step_items (p : Parser) :
    ∀ {is : List Item}, (∀ i ∈ is, i.Exact p) → ∀ (m : Mode) (ns : Namespace), m.settled →
      ∃ m', m'.settled ∧ (is.flatMap Item.kinds).foldlM (step p) (m, ns, []) =
        (takeActions ns (is.map Item.action)).map fun ns' => (m', ns', [])
  | [], _, m, ns, hm => ⟨m, hm, rfl⟩
  | ⟨a, f, v⟩ :: is, hx, m, ns, hm => by
      have hi := hx _ (List.mem_cons_self _ _)
      have ih := @foldlM_step_items p is fun i hi => hx i (List.mem_cons_of_mem _ hi)
      have ha : a.action.takesArg = v.isSome := hi.arity
      cases hta : takeAction ns (a, v.toList) with
      | error e =>
          refine ⟨.ready, rfl, ?_⟩
          rcases v with _ | v <;>
            simp_all [Item.kinds, Item.action, step_settled_opt p hm, step_awaiting_arg,
              takeActions, Except.map]
      | ok ns₁ =>
          obtain ⟨m', hm', hf⟩ := ih (if v.isSome then .taken else .ready) ns₁ (by split <;> rfl)
          refine ⟨m', hm', ?_⟩
          rcases v with _ | v <;>
            simp_all [Item.kinds, Item.action, step_settled_opt p hm, step_awaiting_arg,
              takeActions, Except.map]

def Item.stored (i : Item) : Option Value :=
  match i.1.action, i.2.2 with
  | .storeConst b, none => some (.bool b)
  | .store none, some v => if v = "--" then none else some (.str v)
  | .store (some cs), some v => if v ≠ "--" ∧ cs.contains v then some (.str v) else none
  | _, _ => none

theorem takeAction_item {i : Item} {val : Value} (h : i.stored = some val) (ns : Namespace) :
    takeAction ns i.action = .ok (ns.set i.1.dest val) := by
  rcases i with ⟨⟨flags, dest, act⟩, f, v⟩
  cases act <;> cases v <;> simp only [Item.stored, reduceCtorEq] at h
  · next cs v =>
      cases cs with
      | none =>
          simp only [ite_eq_right_iff, reduceCtorEq, imp_false, Option.some.injEq] at h
          split at h <;> simp_all [Item.action, takeAction, List.erase_cons]
      | some cs =>
          split at h <;> simp_all [Item.action, takeAction, List.erase_cons]
  · cases h; rfl

def Item.value (i : Item) : Value :=
  match i.2.2, i.1.action with
  | some v, _ => .str v
  | none, .storeConst b => .bool b
  | none, _ => .none

theorem Item.stored_eq_value {i : Item} (h : i.stored.isSome) : i.stored = some i.value := by
  rcases i with ⟨⟨flags, dest, act⟩, f, v⟩
  cases act with
  | store cs => cases cs <;> cases v <;> simp_all [Item.stored, Item.value]
  | _ => cases v <;> simp_all [Item.stored, Item.value]

theorem takeActions_items {is : List Item} (h : ∀ i ∈ is, i.stored.isSome) (ns : Namespace) :
    takeActions ns (is.map Item.action) =
      .ok (is.foldl (fun ns i => ns.set i.1.dest i.value) ns) := by
  induction is generalizing ns with
  | nil => rfl
  | cons i is ih =>
      have hv := Item.stored_eq_value (h i (List.mem_cons_self _ _))
      simp [takeActions, takeAction_item hv, ih fun j hj => h j (List.mem_cons_of_mem _ hj)]

theorem parse_items (p : Parser) {is : List Item} (hx : ∀ i ∈ is, i.Exact p) :
    parse p (is.flatMap Item.strings) = takeActions p.defaults (is.map Item.action) := by
  obtain ⟨m', hm', hf⟩ := foldlM_step_items p hx .ready p.defaults rfl
  simp only [parse, classifyAll_items p hx, ok_bind, hf]
  cases takeActions p.defaults (is.map Item.action) with
  | error e => rfl
  | ok ns => cases m' <;> simp_all [Mode.settled, Except.map]

end Argparse
end HeliosBuild
