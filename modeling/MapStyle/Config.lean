import MapStyle.Fault
import MapStyle.Toml.Parser
/-!
# Settings

How much the evaluation remembers, and from how many features on it may be spread over several
processors. Settings are read from TOML; what is left out has a default, and entries of other names
are ignored.
-/

namespace MapStyle

/-- The settings of an evaluation. -/
structure Config where
  /-- How many texts with their references are remembered. -/
  referenceCapacity : Nat := 1000
  /-- How many texts with their expressions are remembered. -/
  programCapacity : Nat := 1000
  /-- How many results are remembered. -/
  resultCapacity : Nat := 10000
  /-- The number of features from which on they may be evaluated in parallel. -/
  parallelThreshold : Nat := 512
  deriving Repr, DecidableEq

namespace Config

/-- The natural number under a key, or a default where there is no such key. -/
def natural (entries : Toml.Entries) (key : String) (default : Nat) : Except Fault Nat :=
  match entries.lookup key with
  | none => .ok default
  | some (.integer n) => if 0 ≤ n then .ok n.toNat else .error .config
  | some _ => .error .config

/-- The settings that the entries of a document give. -/
def ofEntries (entries : Toml.Entries) : Except Fault Config := do
  let d : Config := {}
  let referenceCapacity ← natural entries "reference_cache_size" d.referenceCapacity
  let programCapacity ← natural entries "program_cache_size" d.programCapacity
  let resultCapacity ← natural entries "result_cache_size" d.resultCapacity
  let parallelThreshold ← natural entries "parallel_threshold" d.parallelThreshold
  pure { referenceCapacity, programCapacity, resultCapacity, parallelThreshold }

/-- The settings that a document gives. -/
def read (text : String) : Except Fault Config :=
  match Toml.read? text with
  | none => .error .config
  | some entries => ofEntries entries

end Config

end MapStyle
