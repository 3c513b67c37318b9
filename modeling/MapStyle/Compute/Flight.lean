import MapStyle.Compute.Session
/-!
# Commands that overlap

A command that waits for features does not hold up the next one: further commands may be issued, and
the fetches of the waiting commands may be answered in any order. A session with its waiting
commands is a flight, and a schedule tells in which order commands are issued and fetches are
answered. The answer to a fetch depends only on the data and the range that are asked for.
-/

namespace MapStyle

/-- What may happen to a session whose commands overlap. -/
inductive Event where
  | issue (command : Command)
  /-- The fetch of the waiting command at a place is answered. -/
  | answer (place : Nat)
  deriving Repr

def Event.command? : Event → Option Command
  | issue command => some command
  | answer _ => none

/-- A session with the commands that wait, in the order in which they began to wait. -/
structure Flight where
  session : Session
  waiting : List Waiting := []
  deriving Repr

namespace Flight

def start (config : Config) : Flight := { session := { memo := Memo.empty config } }

/-- A command is started, and waits unless it is finished. -/
def issue (f : Flight) (command : Command) : Flight where
  session := (f.session.start command).1
  waiting := f.waiting ++ (f.session.start command).2.toList

variable (fetcher : Fetcher Id)

/-- The waiting command at a place gets its features and is finished. -/
def answer (f : Flight) (place : Nat) : Flight :=
  match f.waiting[place]? with
  | none => f
  | some w =>
    { session := (f.session.resume w (fetcher w.data w.range)).2
      waiting := f.waiting.eraseIdx place }

def step (f : Flight) : Event → Flight
  | .issue command => f.issue command
  | .answer place => f.answer fetcher place

def run (f : Flight) (schedule : List Event) : Flight := schedule.foldl (step fetcher) f

end Flight

def commandsOf (schedule : List Event) : List Command := schedule.filterMap Event.command?

/-- Each command is awaited before the next one is issued. -/
def Session.runAll (fetcher : Fetcher Id) (s : Session) (commands : List Command) : Session :=
  commands.foldl (fun s command ↦ (Session.run fetcher s command).2) s

end MapStyle
