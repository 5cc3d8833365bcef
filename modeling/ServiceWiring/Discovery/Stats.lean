import ServiceWiring.Json.Basic

/-!
# Statistics

What a discovery counts: modules, candidates, what became of the candidates that led
to no service, and the directives that were emitted.
-/

namespace ServiceWiring

/-- The numbers of a discovery. -/
structure Stats where
  modulesScanned : Nat
  modulesVendored : Nat
  candidateFiles : Nat
  unresolvedClasses : Nat
  undocumentedClasses : Nat
  nonServiceClasses : Nat
  environmentExcluded : Nat
  directivesEmitted : Nat
deriving DecidableEq, Repr

namespace Stats

/-- The numbers before anything was found. -/
def zero : Stats := ⟨0, 0, 0, 0, 0, 0, 0, 0⟩

/-- The number of candidates that led to no service. Candidates of a class that was
found before are not among them. -/
def skipped (stats : Stats) : Nat :=
  stats.unresolvedClasses + stats.undocumentedClasses + stats.nonServiceClasses +
    stats.environmentExcluded

/-- The record of the numbers, with the number of classes that were skipped. -/
def toJson (stats : Stats) : Json :=
  .obj [("modules_scanned", .int stats.modulesScanned),
    ("modules_vendored", .int stats.modulesVendored),
    ("candidate_files", .int stats.candidateFiles),
    ("unresolved_classes", .int stats.unresolvedClasses),
    ("undocumented_classes", .int stats.undocumentedClasses),
    ("non_service_classes", .int stats.nonServiceClasses),
    ("environment_excluded", .int stats.environmentExcluded),
    ("directives_emitted", .int stats.directivesEmitted),
    ("skipped", .int stats.skipped)]

/-- The totals in words, for a reader. -/
def summary (stats : Stats) : String :=
  "modules: " ++ toString stats.modulesScanned ++
    " (vendor skipped: " ++ toString stats.modulesVendored ++
    "), candidates: " ++ toString stats.candidateFiles ++
    ", directives: " ++ toString stats.directivesEmitted ++
    ", skipped: " ++ toString stats.skipped

end Stats

end ServiceWiring
