/-!
# Stages

Where an extraction stands. A run begins idle, goes through the stages in the middle, and ends
either persisted or failed.
-/

namespace ContractBindings.Extraction

/-- The stages of an extraction. -/
inductive Stage where
  | idle
  | compiling
  | locating
  | classifying
  | generating
  /-- All outputs are written. -/
  | persisted
  | failed
  deriving DecidableEq, Repr

/-- The name of a stage. -/
def Stage.name : Stage → String
  | .idle => "idle"
  | .compiling => "compiling"
  | .locating => "locating"
  | .classifying => "classifying"
  | .generating => "generating"
  | .persisted => "persisted"
  | .failed => "failed"

end ContractBindings.Extraction
