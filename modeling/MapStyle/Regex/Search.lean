import Std.Data.HashSet
import MapStyle.Regex.Program
/-!
# Searching

The leftmost match is the first start position from which the program accepts, and among the matches
from there the one that prefers earlier alternatives. The walk keeps its untried choices on a stack.
-/

namespace MapStyle.Regex

/-- The positions noted on the way to a match, the latest first. -/
abbrev Slots := List (Nat × Nat)

/-- An untried choice: an instruction, a position, and what was noted before it. -/
structure Thread where
  instr : Nat
  position : Nat
  slots : Slots

/-- Whether the characters before and after a position belong to words. -/
def aroundWord (word : Text.CharSet) (text : Array Char) (i : Nat) : Bool × Bool :=
  (i != 0 && text[i - 1]?.any word.contains, text[i]?.any word.contains)

/-- Whether an assertion holds at a position of a text. -/
def Assertion.holds (a : Assertion) (text : Array Char) (i : Nat) : Bool :=
  let before := if i = 0 then none else text[i - 1]?
  let after := text[i]?
  match a with
  | .textStart => i = 0
  | .textEnd => i = text.size
  | .lineStart false => i = 0 || before = some '\n'
  | .lineStart true =>
    i = 0 || before = some '\n' || (before = some '\r' && after != some '\n')
  | .lineEnd false => i = text.size || after = some '\n'
  | .lineEnd true =>
    i = text.size || after = some '\r' || (after = some '\n' && before != some '\r')
  | .boundary word => let (b, a) := aroundWord word text i; b != a
  | .notBoundary word => let (b, a) := aroundWord word text i; b == a
  | .wordStart word => let (b, a) := aroundWord word text i; !b && a
  | .wordEnd word => let (b, a) := aroundWord word text i; b && !a
  | .wordStartHalf word => let (b, _) := aroundWord word text i; !b
  | .wordEndHalf word => let (_, a) := aroundWord word text i; !a

namespace Program

/-- What a walk comes to: a match, or the pairs that were tried in vain. -/
abbrev Outcome := Except (Std.HashSet Nat) Slots

/-- Walks from the choices on the stack. Every step either drops a choice that was tried before or
marks a new pair and adds at most two choices, so `fuel` steps suffice if it is more than twice the
number of pairs. -/
def walk (p : Program) (text : Array Char) : Nat → Std.HashSet Nat → List Thread → Outcome
  | 0, tried, _ => .error tried
  | _ + 1, tried, [] => .error tried
  | fuel + 1, tried, t :: stack =>
    let pair := t.instr * (text.size + 1) + t.position
    if tried.contains pair then walk p text fuel tried stack
    else
      let tried := tried.insert pair
      match p.instrs[t.instr]? with
      | none => walk p text fuel tried stack
      | some .accept => .ok t.slots
      | some (.char set next) =>
        if text[t.position]?.any set.contains then
          walk p text fuel tried (⟨next, t.position + 1, t.slots⟩ :: stack)
        else walk p text fuel tried stack
      | some (.assert a next) =>
        if a.holds text t.position then
          walk p text fuel tried (⟨next, t.position, t.slots⟩ :: stack)
        else walk p text fuel tried stack
      | some (.save slot next) =>
        walk p text fuel tried (⟨next, t.position, (slot, t.position) :: t.slots⟩ :: stack)
      | some (.split first second) =>
        walk p text fuel tried
          (⟨first, t.position, t.slots⟩ :: ⟨second, t.position, t.slots⟩ :: stack)

/-- Walks from `count` start positions beginning with `position`, until one matches. -/
def searchFrom (p : Program) (text : Array Char) :
    (count position : Nat) → Std.HashSet Nat → Option Slots
  | 0, _, _ => none
  | count + 1, position, tried =>
    let fuel := 2 * p.instrs.size * (text.size + 1) + 2
    match walk p text fuel tried [⟨p.start, position, []⟩] with
    | .ok slots => some slots
    | .error tried => searchFrom p text count (position + 1) tried

/-- The positions noted by the leftmost match, if there is a match. -/
def search (p : Program) (text : Array Char) : Option Slots :=
  searchFrom p text (text.size + 1) 0 ∅

/-- The text between the latest start and end noted for a group. -/
def groupText (text : Array Char) (slots : Slots) (index : Nat) : Option (List Char) := do
  let start ← slots.lookup (2 * index)
  let stop ← slots.lookup (2 * index + 1)
  pure (text.extract start stop).toList

end Program

end MapStyle.Regex
