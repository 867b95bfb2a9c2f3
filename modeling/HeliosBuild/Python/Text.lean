import HeliosBuild.Python.Unicode

/-!
# Python string operations

The build scripts decide almost everything by comparing strings: they strip
what the user typed, lower-case build-system names, test `"g++" in path`,
split cache lines at the first `=`, and read menu answers with `int()`.  This
module gives each of these Python operations one definition over the
characters of the string, so that every later module reads them the way the
interpreter does.

Case mappings and digits are Python's, over all of Unicode: `Unicode.lean`
holds the tables the interpreter carries.
-/

namespace HeliosBuild
namespace PyStr

/-- `str.isspace` for one character: the characters `str.strip()` removes. -/
def isSpace (c : Char) : Bool :=
  c = ' ' || c = '\t' || c = '\n' || c = '\r' || c = '\x0b' || c = '\x0c' ||
  c = '\x1c' || c = '\x1d' || c = '\x1e' || c = '\x1f' || c = '\x85' ||
  c = '\xa0' || c = '\u1680' || ('\u2000' ≤ c && c ≤ '\u200a') ||
  c = '\u2028' || c = '\u2029' || c = '\u202f' || c = '\u205f' || c = '\u3000'

/-- `s.strip()`: drop whitespace at both ends. -/
def strip (s : String) : String :=
  ⟨((s.toList.dropWhile isSpace).reverse.dropWhile isSpace).reverse⟩

/-- `s.lower()`, with the final form of a capital sigma at the end of a word. -/
def lower (s : String) : String :=
  ⟨Unicode.lowerChars [] s.toList⟩

def upper (s : String) : String :=
  ⟨s.toList.flatMap Unicode.upperFull⟩

/-- `s.capitalize()`: the first character in title case, the rest lower-cased. -/
def capitalize (s : String) : String :=
  match s.toList with
  | [] => ""
  | c :: rest => ⟨Unicode.titleFull c ++ Unicode.lowerChars [c] rest⟩

/-- `sub` occurs in `s` as a contiguous run of characters. -/
def infixChars (sub : List Char) : List Char → Bool
  | [] => sub.isEmpty
  | c :: rest => sub.isPrefixOf (c :: rest) || infixChars sub rest

def contains (s sub : String) : Bool :=
  infixChars sub.toList s.toList

/-- `s.startswith(pre)`. -/
def startswith (s pre : String) : Bool :=
  pre.toList.isPrefixOf s.toList

def splitCharsBy (p : Char → Bool) : List Char → List (List Char)
  | [] => [[]]
  | c :: rest =>
      if p c then [] :: splitCharsBy p rest
      else match splitCharsBy p rest with
        | [] => [[c]]
        | run :: runs => (c :: run) :: runs

def splitBy (p : Char → Bool) (s : String) : List String :=
  (splitCharsBy p s.toList).map String.mk

def splitFirstChars (sep : Char) : List Char → Option (List Char × List Char)
  | [] => none
  | c :: rest =>
      if c = sep then some ([], rest)
      else (splitFirstChars sep rest).map fun p => (c :: p.1, p.2)

def splitFirst (s : String) (sep : Char) : Option (String × String) :=
  (splitFirstChars sep s.toList).map fun p => (⟨p.1⟩, ⟨p.2⟩)

def partition (s : String) (sep : Char) : String × String :=
  (splitFirst s sep).getD (s, "")

def beforeFirst (s : String) (sep : Char) : String :=
  (partition s sep).1

/-- `s.split()`: the runs of characters between whitespace. -/
def splitWs (s : String) : List String :=
  (splitBy isSpace s).filter (· ≠ "")

def splitOnChars (sep : List Char) : Nat → List Char → List (List Char)
  | 0, l => [l]
  | _ + 1, [] => [[]]
  | n + 1, c :: rest =>
      if sep ≠ [] ∧ sep.isPrefixOf (c :: rest) then [] :: splitOnChars sep n ((c :: rest).drop sep.length)
      else match splitOnChars sep n rest with
        | [] => [[c]]
        | run :: runs => (c :: run) :: runs

/-- `s.split(sep)` for a non-empty separator: the text between its occurrences, from the left. -/
def splitOn (s sep : String) : List String :=
  (splitOnChars sep.toList s.length s.toList).map String.mk

/-- The line boundaries of `str.splitlines` besides `\n` and `\r`. -/
def isOtherLineBreak (c : Char) : Bool :=
  c = '\x0b' || c = '\x0c' || c = '\x1c' || c = '\x1d' || c = '\x1e' || c = '\x85' ||
    c = '\u2028' || c = '\u2029'

/-- `text.splitlines()` of a text read in universal-newline mode, given by its lines. -/
def splitlines (lines : List String) : List String :=
  lines.flatMap (splitBy isOtherLineBreak)

def readDigits : Nat → List Char → Option Nat
  | acc, [] => some acc
  | acc, '_' :: d :: rest =>
      match Unicode.decimalValue d with
      | some v => readDigits (acc * 10 + v) rest
      | none => none
  | acc, d :: rest =>
      match Unicode.decimalValue d with
      | some v => readDigits (acc * 10 + v) rest
      | none => none

def natOfDigits : List Char → Option Nat
  | [] => none
  | d :: rest =>
      match Unicode.decimalValue d with
      | some v => readDigits v rest
      | none => none

def toInt (s : String) : Option Int :=
  match (strip s).toList with
  | '+' :: rest => (natOfDigits rest).map Int.ofNat
  | '-' :: rest => (natOfDigits rest).map fun n => -(n : Int)
  | cs => (natOfDigits cs).map Int.ofNat

@[simp] theorem upper_upper (s : String) : upper (upper s) = upper s := by
  simp only [upper, String.toList, List.flatMap_assoc, Unicode.flatMap_upperFull]

theorem strip_eq_self {s : String} (hhead : s.toList.head?.all (fun c => !isSpace c) = true)
    (hlast : s.toList.getLast?.all (fun c => !isSpace c) = true) : strip s = s := by
  obtain ⟨l⟩ := s
  have keep : ∀ l' : List Char, l'.head?.all (fun c => !isSpace c) = true → l'.dropWhile isSpace = l' := by
    intro l' h'
    cases l' with
    | nil => rfl
    | cons c cs => simp_all [List.dropWhile_cons_of_neg]
  have h₁ := keep l hhead
  have h₂ := keep l.reverse (by simpa [List.head?_reverse] using hlast)
  simp [strip, h₁, h₂]

theorem isPrefixOf_append_sep {pre : List Char} {c : Char} (hc : c ∉ pre) (n r : List Char) :
    pre.isPrefixOf (n ++ c :: r) = pre.isPrefixOf n := by
  induction pre generalizing n with
  | nil => simp [List.isPrefixOf]
  | cons p ps ih =>
    cases n with
    | nil =>
      have : p ≠ c := fun h => hc (h ▸ List.mem_cons_self _ _)
      simp [List.isPrefixOf, this]
    | cons x xs => simp [List.isPrefixOf, ih (fun h => hc (List.mem_cons_of_mem _ h))]

theorem infixChars_singleton (c : Char) (l : List Char) : infixChars [c] l = true ↔ c ∈ l := by
  induction l with
  | nil => simp [infixChars]
  | cons x xs ih => simp [infixChars, List.isPrefixOf, ih]

theorem splitFirstChars_append {sep : Char} {a : List Char} (ha : sep ∉ a) (b : List Char) :
    splitFirstChars sep (a ++ sep :: b) = some (a, b) := by
  induction a with
  | nil => simp [splitFirstChars]
  | cons x xs ih =>
    have hx : x ≠ sep := fun h => ha (h ▸ List.mem_cons_self _ _)
    simp [splitFirstChars, hx, ih (fun h => ha (List.mem_cons_of_mem _ h))]

/-!
## `shlex.split`
-/

inductive LexState
  | space
  | word
  | quoted (q : Char)
  | escaped
  | escapedInQuotes
  deriving DecidableEq, Repr

def isLexSpace (c : Char) : Bool :=
  c = ' ' || c = '\t' || c = '\r' || c = '\n'

def shlexLoop : LexState → List Char → Bool → List String → List Char → Option (List String)
  | .space, _, _, acc, [] => some acc.reverse
  | .space, tok, q, acc, c :: cs =>
      if isLexSpace c then shlexLoop .space tok q acc cs
      else if c = '\\' then shlexLoop .escaped tok q acc cs
      else if c = '\'' || c = '"' then shlexLoop (.quoted c) tok q acc cs
      else shlexLoop .word [c] q acc cs
  | .word, tok, _, acc, [] => some (⟨tok⟩ :: acc).reverse
  | .word, tok, q, acc, c :: cs =>
      if isLexSpace c then shlexLoop .space [] false (⟨tok⟩ :: acc) cs
      else if c = '\'' || c = '"' then shlexLoop (.quoted c) tok q acc cs
      else if c = '\\' then shlexLoop .escaped tok q acc cs
      else shlexLoop .word (tok ++ [c]) q acc cs
  | .quoted _, _, _, _, [] => none
  | .quoted qc, tok, _, acc, c :: cs =>
      if c = qc then shlexLoop .word tok true acc cs
      else if c = '\\' && qc = '"' then shlexLoop .escapedInQuotes tok true acc cs
      else shlexLoop (.quoted qc) (tok ++ [c]) true acc cs
  | .escaped, _, _, _, [] => none
  | .escaped, tok, q, acc, c :: cs => shlexLoop .word (tok ++ [c]) q acc cs
  | .escapedInQuotes, _, _, _, [] => none
  | .escapedInQuotes, tok, q, acc, c :: cs =>
      let kept := if c ≠ '"' && c ≠ '\\' then ['\\', c] else [c]
      shlexLoop (.quoted '"') (tok ++ kept) q acc cs

def shlexSplit (s : String) : Option (List String) :=
  shlexLoop .space [] false [] s.toList

example : shlexSplit "-DA=1 '-DB=x y'" = some ["-DA=1", "-DB=x y"] := by decide
example : shlexSplit "\"open" = none := by decide
example : toInt " 1_0 " = some 10 := by decide
example : toInt "x" = none := by decide
example : toInt "١٢" = some 12 := by decide
set_option maxRecDepth 2000 in
example : lower "ΟΔΟΣ" = "οδος" := by decide
example : upper "straße" = "STRASSE" := by decide
example : splitOn "clang version 17.0.1 (x)" "version" = ["clang ", " 17.0.1 (x)"] := by decide
example : splitWs " g++ (GCC)  13.2.0\n" = ["g++", "(GCC)", "13.2.0"] := by decide
example : contains "/usr/bin/clang++" "clang" = true := by decide

end PyStr
end HeliosBuild

namespace HeliosBuild

instance exceptDecidableEq {ε α : Type} [DecidableEq ε] [DecidableEq α] :
    DecidableEq (Except ε α)
  | .ok a, .ok b => if h : a = b then isTrue (congrArg _ h) else isFalse fun e => h (by injection e)
  | .error a, .error b =>
      if h : a = b then isTrue (congrArg _ h) else isFalse fun e => h (by injection e)
  | .ok _, .error _ => isFalse fun e => by cases e
  | .error _, .ok _ => isFalse fun e => by cases e

end HeliosBuild
