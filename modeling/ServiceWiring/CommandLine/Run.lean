import ServiceWiring.CommandLine.Arguments
import ServiceWiring.CommandLine.Report
import ServiceWiring.Discovery.Plan
import ServiceWiring.Json.Printer

/-!
# Running a command line

A command line runs one discovery and shows the directives that a container holds
afterwards, as a JSON array or with one line each and the totals at the end. They go to
the standard output or to a file. When anything fails nothing is shown and no file is
written; what failed is told on the standard error output.
-/

namespace ServiceWiring.CommandLine

/-- What a run leaves behind. -/
structure Outcome where
  code : Nat
  output : String
  errors : String
  system : FileSystem

/-- What is told of a command line that is not well formed. -/
def usage : String :=
  "Usage: service-discovery [-c <config>] [-e <env>] [-m <path>=<namespace>]... " ++
    "[-o <output>] [-f json|summary] [-v]\n"

/-- The directives and the numbers of a run, as they are shown. -/
def render (format : Format) (directives : List ConstructionDirective) (stats : Stats) : String :=
  match format with
  | .json => (Json.arr (directives.map ConstructionDirective.toJson)).indented ++ "\n"
  | .summary =>
    String.join (directives.map fun directive => directive.id ++ " " ++ directive.classId ++ "\n") ++
      stats.summary ++ "\n"

/-- A step of the run, by what is being done. -/
def during {α : Type} (context : String) (step : Except DiscoveryError α) : Except Report α :=
  step.mapError fun error => ⟨context, error.chain⟩

/-- The plan of an invocation: the configuration in the file, the environment in place of
its own, and the modules behind its own. -/
def Invocation.plan (invocation : Invocation) (system : FileSystem)
    (bindings : List (String × String)) : Except Report DiscoveryPlan := do
  let plan ← match invocation.config with
    | none => .ok .standard
    | some path =>
      during ("无法加载配置文件: " ++ path)
        (DiscoveryPlan.standard.loadConfig system bindings path)
  let plan := match invocation.environment with
    | none => plan
    | some environment => plan.withEnvironment environment
  return invocation.modules.foldl (fun plan module => plan.withModule module) plan

/-- What an invocation shows. -/
def Invocation.rendered (invocation : Invocation) (system : FileSystem)
    (bindings : List (String × String)) : Except Report String := do
  let plan ← invocation.plan system bindings
  if plan.config.modules.isEmpty then
    throw ⟨"没有可扫描的模块，请通过 --config 或 --module 指定", []⟩
  let discovery ← during "服务发现流水线构建失败" (plan.build system)
  let (directives, stats) ← during "服务发现失败" (discovery.directives system)
  return render (invocation.format.getD .json) directives stats

/-- Runs an invocation. The result is what goes to the standard output, and the files
afterwards. -/
def Invocation.run (invocation : Invocation) (system : FileSystem)
    (bindings : List (String × String)) : Except Report (String × FileSystem) := do
  let shown ← invocation.rendered system bindings
  match invocation.output with
  | none => return (shown, system)
  | some path =>
    match system.write path shown.toUTF8 with
    | .ok system => return ("", system)
    | .error fault => throw ⟨"无法写入输出文件: " ++ path, [fault.message]⟩

/-- Runs a command line. -/
def run (arguments : List String) (system : FileSystem) (bindings : List (String × String)) :
    Outcome :=
  match Invocation.ofArguments arguments with
  | .error .help => ⟨0, usage, "", system⟩
  | .error .usage => ⟨2, "", usage, system⟩
  | .ok invocation =>
    match invocation.run system bindings with
    | .ok (output, system) => ⟨0, output, "", system⟩
    | .error report => ⟨1, "", report.message, system⟩

end ServiceWiring.CommandLine
