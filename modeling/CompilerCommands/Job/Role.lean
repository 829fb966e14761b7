import CompilerCommands.Job.Tool

/-!
# Planned jobs

A job is a line of words that a driver plans to run. Most jobs are the work of a tool; a job may
also be a driver that plans jobs of its own, or rustc.
-/

namespace CompilerCommands

structure Job where
  executable : String
  args : List String
  deriving DecidableEq, Repr

namespace Job

def words (job : Job) : List String := job.executable :: job.args

/-- The job of a list of words, if there are any. -/
def ofWords? : List String → Option Job
  | [] => none
  | executable :: args => some ⟨executable, args⟩

@[simp] theorem ofWords?_words (job : Job) : ofWords? job.words = some job := rfl

theorem words_ne_nil (job : Job) : job.words ≠ [] := by simp [words]

inductive Role where
  | driver (driver : Driver)
  | rustc
  | tool (tool : Tool)
  deriving DecidableEq, Repr

/-- A driver that runs as its own frontend is a tool. -/
def role (job : Job) : Role :=
  let tool := Tool.classify job.executable job.args
  match Toolchain.classify job.executable with
  | some (.driver driver) => if tool = .other then .driver driver else .tool tool
  | some .rustc => .rustc
  | none => .tool tool

end Job

end CompilerCommands
