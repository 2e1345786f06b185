import BuildRunner.Error

/-! Where runners show their lines: a text that grows by whole writes and may be closed after a
number of lines. -/
namespace BuildRunner

def lineCount (text : String) : Nat := text.toList.count '\n'

structure Writer where
  /-- How many more lines are taken; no number means any. -/
  room : Option Nat
  written : String
deriving DecidableEq, Repr

namespace Writer

def new (limit : Option Nat) : Writer := ⟨limit, ""⟩

def isClosed (w : Writer) : Bool := w.room == some 0

def append (w : Writer) (text : String) : Writer := ⟨w.room.map (· - lineCount text), w.written ++ text⟩

/-- A write is refused once no room is left, and taken whole before. -/
def write (w : Writer) (text : String) : Except IoError Writer :=
  if w.isClosed then .error .closed else .ok (w.append text)

/-- A line is written in two writes, its text and its line feed; what was taken before a refusal
stays. An empty text is no write. -/
def writeLine (w : Writer) (text : String) : Writer × Option IoError :=
  if w.isClosed then (w, some .closed)
  else
    let begun := w.append text
    if begun.isClosed then (begun, some .closed) else (begun.append "\n", none)

/-- What was written so far, and the writer without it. -/
def take (w : Writer) : String × Writer := (w.written, { w with written := "" })

end Writer
end BuildRunner
