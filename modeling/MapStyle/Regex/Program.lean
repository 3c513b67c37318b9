import MapStyle.Regex.Basic
/-!
# Search programs

An expression is compiled into instructions that name their successors, and searched for by walking
pairs of an instruction and a position, the preferred successor first. Whether a pair leads to a
match does not depend on how it was reached, so each pair is tried at most once; this bounds the
walk by the number of pairs, and it also ends the rounds of a repetition that match nothing.
-/

namespace MapStyle.Regex

open Text (CharSet)

/-- An instruction of a search program; successors are given by their index. -/
inductive Instr where
  /-- The text matches. -/
  | accept
  | char (set : CharSet) (next : Nat)
  /-- Goes on if the condition holds. -/
  | assert (a : Assertion) (next : Nat)
  /-- Notes the position under a slot: `2 * i` is the start of group `i`, `2 * i + 1` its end. -/
  | save (slot next : Nat)
  /-- Tries the first successor, then the second. -/
  | split (first second : Nat)
  deriving Repr, Inhabited

/-- A search program: its instructions and where it starts. -/
structure Program where
  instrs : Array Instr
  start : Nat
  deriving Inhabited

namespace Program

/-- Instructions under construction, and the entry of the part compiled last. -/
abbrev Build := Array Instr × Nat

def add (code : Array Instr) (i : Instr) : Build := (code.push i, code.size)

/-- The choice between a body and going on, the preferred one first. -/
def choose (greedy : Bool) (body next : Nat) : Instr :=
  if greedy then .split body next else .split next body

/-- Compiles `n` copies of a part in a row. -/
def copies (part : Array Instr → Nat → Build) : Nat → Array Instr → Nat → Build
  | 0, code, next => (code, next)
  | n + 1, code, next =>
    let (code, entry) := copies part n code next
    part code entry

/-- Compiles up to `n` copies of a part, each of which may be the last. -/
def optionals (part : Array Instr → Nat → Build) (greedy : Bool) :
    Nat → Array Instr → Nat → Build
  | 0, code, next => (code, next)
  | n + 1, code, next =>
    let (code, inner) := optionals part greedy n code next
    let (code, body) := part code inner
    add code (choose greedy body next)

/-- Compiles one copy of a part or more: the choice behind the part leads back to it. -/
def oneOrMore (part : Array Instr → Nat → Build) (greedy : Bool) (code : Array Instr) (next : Nat) :
    Build :=
  let (code, loop) := add code .accept
  let (code, body) := part code loop
  (code.setIfInBounds loop (choose greedy body next), body)

/-- Compiles any number of copies of a part. A part that can match nothing is entered once before
the choice to leave, so that leaving does not come before what the first round matches. -/
def zeroOrMore (part : Array Instr → Nat → Build) (nullable greedy : Bool) (code : Array Instr)
    (next : Nat) : Build :=
  if nullable then
    let (code, body) := oneOrMore part greedy code next
    add code (choose greedy body next)
  else
    let (code, loop) := add code .accept
    let (code, body) := part code loop
    (code.setIfInBounds loop (choose greedy body next), loop)

/-- Compiles an expression in front of the instruction `next`. -/
def compile : Regex → Array Instr → Nat → Build
  | .empty, code, next => (code, next)
  | .char set, code, next => add code (.char set next)
  | .assert a, code, next => add code (.assert a next)
  | .group i body, code, next =>
    let (code, close) := add code (.save (2 * i + 1) next)
    let (code, inner) := compile body code close
    add code (.save (2 * i) inner)
  | .seq a b, code, next =>
    let (code, second) := compile b code next
    compile a code second
  | .alt a b, code, next =>
    let (code, second) := compile b code next
    let (code, first) := compile a code next
    add code (.split first second)
  | .repeats body least most greedy, code, next =>
    match least, most with
    | 0, none => zeroOrMore (compile body) body.nullable greedy code next
    | least + 1, none =>
      let (code, last) := oneOrMore (compile body) greedy code next
      copies (compile body) least code last
    | least, some most =>
      let (code, tail) := optionals (compile body) greedy (most - least) code next
      copies (compile body) least code tail

def ofRegex (r : Regex) : Program :=
  let (code, start) := compile r #[.accept] 0
  ⟨code, start⟩

end Program

end MapStyle.Regex
