import Pipeline.Log
import Pipeline.Run.Command

/-!
# Collaborators of a run

A run reaches the outside world in two places (specification, sections 6 and 14): a manifest that
maps script names to commands, and a runner that carries commands out. Both may depend on all that
happened before and may report about themselves, so each takes the state of the outside world and
gives it back.
-/

namespace Pipeline

/-- What comes of an action in an outside world of type `σ`. -/
structure Answer (σ α : Type) where
  result : α
  log : List LogEntry
  world : σ

/-- The manifest and the runner of a run. -/
structure Collaborators (σ : Type) where
  /-- The command of a script. -/
  lookup : String → σ → Answer σ (Except ManifestError String)
  /-- Carries a command out. -/
  run : String → σ → Answer σ (Except SpawnError CommandOutput)

end Pipeline
