/-!
# Readers of text

A reader takes the text that is left and either reads a value from its front, or does not apply
there, or finds the text beyond repair. A reader that does not apply lets another one try the same
text; one that gives up ends the choice. Repetition goes on only while the text that is left gets
shorter, so every reader built from these ends on every text.
-/

namespace MapStyle.Text

/-- What a reader makes of a text. -/
inductive Reply (α : Type) where
  /-- A value was read, and this text is left. -/
  | ok (value : α) (rest : List Char)
  /-- The rule does not apply here; another may. -/
  | miss
  /-- The text is malformed in a way that no other rule can mend. -/
  | abort
  deriving Repr, DecidableEq

def Reply.map {α β : Type} (f : α → β) : Reply α → Reply β
  | .ok value rest => .ok (f value) rest
  | .miss => .miss
  | .abort => .abort

/-- A reader of values of type `α`. -/
abbrev Reader (α : Type) := List Char → Reply α

namespace Reader

variable {α β γ : Type}

/-- Reads nothing and gives the value. -/
def yield (a : α) : Reader α := fun s ↦ .ok a s

/-- Applies nowhere. -/
def fail : Reader α := fun _ ↦ .miss

/-- Reads a value and goes on with the reader made from it. -/
def andThen (p : Reader α) (f : α → Reader β) : Reader β := fun s ↦
  match p s with
  | .ok a rest => f a rest
  | .miss => .miss
  | .abort => .abort

instance : Monad Reader where
  pure := yield
  bind := andThen

/-- The first reader, or the second where the first does not apply. -/
def orElse (p q : Reader α) : Reader α := fun s ↦
  match p s with
  | .ok a rest => .ok a rest
  | .miss => q s
  | .abort => .abort

/-- The first reader of the list that applies. -/
def choice : List (Reader α) → Reader α
  | [] => fail
  | p :: rest => orElse p (choice rest)

/-- Reads a value where the reader applies, and nothing elsewhere. -/
def optional (p : Reader α) : Reader (Option α) := fun s ↦
  match p s with
  | .ok a rest => .ok (some a) rest
  | .miss => .ok none s
  | .abort => .abort

/-- Reads a value where the reader succeeds; a failure of any kind reads nothing. -/
def attempt (p : Reader α) : Reader (Option α) := fun s ↦
  match p s with
  | .ok a rest => .ok (some a) rest
  | .miss => .ok none s
  | .abort => .ok none s

def satisfy (accept : Char → Bool) : Reader Char
  | [] => .miss
  | c :: rest => if accept c then .ok c rest else .miss

def char (c : Char) : Reader Char := satisfy (· == c)

def text : List Char → Reader Unit
  | [], s => .ok () s
  | _ :: _, [] => .miss
  | c :: cs, d :: s => if c = d then text cs s else .miss

/-- Reads the longest run of characters of a class; the run may be empty. -/
def run (accept : Char → Bool) : Reader (List Char) := fun s ↦
  .ok (s.takeWhile accept) (s.dropWhile accept)

/-- Reads the longest run of characters of a class, at least one. -/
def run1 (accept : Char → Bool) : Reader (List Char) := fun s ↦
  match s.takeWhile accept with
  | [] => .miss
  | c :: cs => .ok (c :: cs) (s.dropWhile accept)

/-- Reads items as long as the reader applies. An item that takes nothing from the text ends the
repetition with a miss. -/
def many (p : Reader α) (s : List Char) : Reply (List α) :=
  match p s with
  | .miss => .ok [] s
  | .abort => .abort
  | .ok a rest =>
    if rest.length < s.length then
      match many p rest with
      | .ok as left => .ok (a :: as) left
      | .miss => .miss
      | .abort => .abort
    else .miss
termination_by s.length

/-- Reads items with a separator between each two. A separator that no item follows is left in the
text. -/
def separated (p : Reader α) (separator : Reader β) : Reader (List α) := fun s ↦
  match p s with
  | .miss => .ok [] s
  | .abort => .abort
  | .ok a rest =>
    match many (andThen separator fun _ ↦ p) rest with
    | .ok as left => .ok (a :: as) left
    | .miss => .miss
    | .abort => .abort

/-- Reads a value, and accepts only if nothing is left. -/
def whole (p : Reader α) (s : List Char) : Option α :=
  match p s with
  | .ok a [] => some a
  | _ => none

theorem bind_apply (p : Reader α) (f : α → Reader β) (s : List Char) :
    (p >>= f) s = match p s with
      | .ok a rest => f a rest
      | .miss => .miss
      | .abort => .abort := rfl

end Reader

end MapStyle.Text
