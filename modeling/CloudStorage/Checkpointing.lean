import CloudStorage.Storage
import CloudStorage.Lib.Runs

/-!
# Connection threads that checkpoint

The threads of one storage server that carry out writes, and what `threadFunc` does after a
command: the thread that finds the counter at the threshold writes the snapshot. A thread
takes its steps between those of the others, with no lock around any of them. The table is
iterated over the cells it had when the snapshot began, and the temporary file is found by
its name: two threads that have it open at once would write at offsets of their own.
-/

namespace CloudStorage
open DelimitedText

/-- Where a thread stands in its command. -/
inductive SavePhase where
  /-- The table is to be updated. -/
  | updating
  /-- The line is to be appended to the log. -/
  | logging
  /-- The counter is to be compared with the threshold. -/
  | checking
  /-- The cells that are still to be written to the temporary file. -/
  | snapshot (rest : List (Str × Str))
  /-- The old data file was removed. -/
  | replacing
  /-- The temporary file has become the data file. -/
  | truncating
  /-- The log was truncated. -/
  | resetting
  /-- The client was answered. -/
  | answered
deriving DecidableEq

structure SaveThread where
  write : Write
  phase : SavePhase

/-- One step of a thread, where `result` is the time. -/
def SaveThread.step (result : Nat) (n : Node) (t : SaveThread) : Option (Node × SaveThread) :=
  let path := n.server.diskFilePath
  match t.phase with
  | .updating =>
    let (tab, ok) := t.write.run n.server.table
    some (n.setTable tab, { t with phase := if ok then .logging else .checking })
  | .logging => some (handleAppend t.write.line n, { t with phase := .checking })
  | .checking =>
    if n.writes = CHECKPOINTING_THRESHOLD then
      let d := appendToFile (tmpPath path) (toStr result) (truncateFile (tmpPath path) n.disk)
      let keys := n.server.table.cells.map Prod.fst
      some ({ n with disk := d }, { t with phase := .snapshot keys })
    else some (n, { t with phase := .answered })
  | .snapshot ((row, column) :: rest) =>
    match n.server.table.get row column with
    | some value =>
      let d := appendToFile (tmpPath path) (joined ',' [row, column, value]) n.disk
      some ({ n with disk := d }, { t with phase := .snapshot rest })
    | none => some (n, { t with phase := .snapshot rest })
  | .snapshot [] =>
    some ({ n with disk := (FileStep.remove path).run n.disk }, { t with phase := .replacing })
  | .replacing =>
    some ({ n with disk := (FileStep.rename (tmpPath path) path).run n.disk },
      { t with phase := .truncating })
  | .truncating =>
    some ({ n with disk := truncateFile (checkpointPath path) n.disk },
      { t with phase := .resetting })
  | .resetting => some (n.setWrites 0, { t with phase := .answered })
  | .answered => none

/-- A server and the threads that carry out writes there. -/
structure Saving where
  node : Node
  threads : List SaveThread

inductive SaveEvent where
  | accept (x : Write)
  | step (i result : Nat)

def Saving.next (s : Saving) : SaveEvent → Option Saving
  | .accept x => some { s with threads := s.threads ++ [⟨x, .updating⟩] }
  | .step i result => do
    let t ← s.threads[i]?
    let (n, t) ← t.step result s.node
    return { node := n, threads := s.threads.set i t }

/-- Every write that was accepted has been answered. -/
def Saving.Idle (s : Saving) : Prop := ∀ t ∈ s.threads, t.phase = .answered

end CloudStorage
