import Cutscene.Fault
import Cutscene.Log
import Cutscene.Source.Cursor

/-!
Constructs: what spans several commands.

A construct is given one command after another and says of each what becomes of it: it wants
more, it is complete with this command, it was complete before it and leaves the command to
others, or it cannot go on. Nothing but the commands reaches it, so prose, blank lines and the
way a command is set never matter.
-/

namespace Cutscene

/-- What a construct makes of a command. -/
inductive Reply (σ α : Type)
  | more (state : σ)
  | done (result : α)
  /-- The construct ends before the command, which is not part of it. -/
  | leave (result : α)
  | fail (fault : Fault)

/-- A way to read several commands as one thing. -/
structure Construct (σ α : Type) where
  feed : σ → Command → Reply σ α × Log
  /-- The input is over. -/
  finish : σ → Except Fault α

/-- What a piece of reading came to, where it left off, and what it noted. -/
structure Outcome (α : Type) where
  result : Except Fault α
  cursor : Cursor
  log : Log

namespace Outcome

variable {α β : Type}

def map (f : α → β) (o : Outcome α) : Outcome β := { o with result := f <$> o.result }

def after (log : Log) (o : Outcome α) : Outcome α := { o with log := log ++ o.log }

end Outcome

namespace Construct

variable {σ α : Type}

/-- Feed the commands ahead of a position, each given with the position after it. A failure leaves
the cursor after the command that caused it. -/
def run (k : Construct σ α) (s : σ) (here : Cursor) : List (Command × Cursor) → Outcome α
  | [] => ⟨k.finish s, here.toEnd, []⟩
  | (c, next) :: ahead =>
    match k.feed s c with
    | (.more s, log) => (run k s next ahead).after log
    | (.done a, log) => ⟨.ok a, next, log⟩
    | (.leave a, log) => ⟨.ok a, here, log⟩
    | (.fail e, log) => ⟨.error e, next, log⟩

def read (k : Construct σ α) (s : σ) (c : Cursor) : Outcome α := k.run s c c.upcoming

/-- The commands before an end marker, which has to come. -/
def commands (marker : Text) : Construct (List Command) (List Command) where
  feed cs c := (if c.token = marker then .done cs else .more (cs ++ [c]), [])
  finish _ := throw (.unterminated marker)

end Construct

end Cutscene
