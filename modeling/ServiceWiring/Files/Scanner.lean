import ServiceWiring.Discovery.Candidate
import ServiceWiring.Files.Glob
import ServiceWiring.Files.Walk

/-!
# Scanning modules

A scanner finds the source files of a module: those below its directory whose names
match one of some patterns and on whose way there is no excluded name. A module that
is marked as third-party code has no source files.
-/

namespace ServiceWiring

/-- A scanner: the rules of a configuration with their patterns taken apart. -/
structure FileScanner where
  config : ScanConfig
  patterns : List (List Glob.Token)

namespace FileScanner

/-- The name under which this scanner is known. -/
def name : String := "FileScanner"

/-- The tokens of a pattern; the pattern is named in the error. -/
def pattern (glob : String) : Except DiscoveryError (List Glob.Token) :=
  (Glob.parse glob).mapError (.badPattern glob)

/-- The scanner for a configuration, unless one of its patterns is not well formed. -/
def ofConfig (config : ScanConfig) : Except DiscoveryError FileScanner :=
  (config.filePatterns.mapM pattern).map fun patterns => ⟨config, patterns⟩

/-- The rules by which the scanner walks. -/
def rules (scanner : FileScanner) : WalkRules where
  excludes name := scanner.config.excludedNames.contains name
  wants name := scanner.patterns.any fun tokens => Glob.matchesName tokens name
  followsLinks := scanner.config.followLinks

/-- Whether a module is left out altogether. -/
def skips (scanner : FileScanner) (module : Module) : Bool :=
  module.isVendored scanner.config.vendorMarkers

/-- The source files of a module, and the faults met on the way. -/
def scan (scanner : FileScanner) (system : FileSystem) (module : Module) :
    List (Except DiscoveryError CandidateFile) :=
  if scanner.skips module then []
  else
    let walked := if scanner.config.sorted then system.sorted else system
    (walked.walk scanner.rules module.path).map fun
      | .ok names => .ok ⟨module.path, String.intercalate "/" names⟩
      | .error fault => .error (.scan module.path fault)

/-- The scanner as the source of the candidates in a file system. -/
def source (scanner : FileScanner) (system : FileSystem) : CandidateSource where
  skips := scanner.skips
  candidates := scanner.scan system

end FileScanner

end ServiceWiring
