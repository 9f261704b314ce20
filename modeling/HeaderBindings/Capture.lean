import HeaderBindings.Export

/-!
# Captured output

A capture collects the lines that are emitted to it until they are taken.
-/

namespace HeaderBindings

/-- The lines emitted and not yet taken, in order. -/
structure Capture where
  held : List String
deriving DecidableEq, Repr

namespace Capture

def empty : Capture := ⟨[]⟩

def emit (c : Capture) (line : String) : Capture :=
  ⟨c.held ++ [line]⟩

/-- Takes the lines held, which leaves none. -/
def take (c : Capture) : List String × Capture :=
  (c.held, empty)

/-- Prints a value through an export and tells whether it was taken. -/
def print (c : Capture) (e : Export) (value : Int) : Bool × Capture :=
  ((e.print value).accepted, (e.print value).lines.foldl emit c)

/-- An operation on a capture. -/
inductive Step where
  | emit (line : String)
  | take
  | print (e : Export) (value : Int)

inductive Answer where
  | emitted
  | taken (lines : List String)
  | printed (accepted : Bool)
deriving DecidableEq, Repr

def step (c : Capture) : Step → Answer × Capture
  | .emit line => (.emitted, c.emit line)
  | .take => (.taken c.take.1, c.take.2)
  | .print e value => (.printed (c.print e value).1, (c.print e value).2)

def run (c : Capture) : List Step → List Answer × Capture
  | [] => ([], c)
  | s :: rest =>
    let first := c.step s
    let others := first.2.run rest
    (first.1 :: others.1, others.2)

end Capture

end HeaderBindings
