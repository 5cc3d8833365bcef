import ServiceWiring.Config.Basic
import ServiceWiring.Error
import ServiceWiring.RawPath

/-!
# Candidates

A candidate is a file that may declare a service. A source of candidates yields those
of each module in a fixed order, with the faults met on the way in between, and names
the modules that it leaves out.
-/

namespace ServiceWiring

/-- A file of a module, by the path of the module and the path inside it. The former has been
configured and is a text; the latter is what a source has found. -/
structure CandidateFile where
  root : String
  relative : RawPath
deriving DecidableEq, Repr

/-- The path of the file. -/
def CandidateFile.path (candidate : CandidateFile) : RawPath :=
  .join candidate.root candidate.relative

/-- Where candidates come from. -/
structure CandidateSource where
  /-- Whether a module is left out. -/
  skips : Module → Bool
  /-- The candidates of a module. -/
  candidates : Module → List (Except DiscoveryError CandidateFile)

end ServiceWiring
