import ServiceWiring.Container.Builder
import ServiceWiring.Service.Declared
import ServiceWiring.Service.DocBlock

/-!
# Errors

Everything that can end a run, by cause, and the wording of each. An error of a
part carries its own wording; the error of a run adds which part it comes from.
-/

namespace ServiceWiring

/-- Why a documentation block could not be used. -/
inductive MetadataError
  /-- The block is not well formed. -/
  | block (classId : ClassIdentifier) (fault : DocBlock.Fault)
  /-- A parser of the host refused the block with a reason of its own. -/
  | refused (classId : ClassIdentifier) (reason : String)
  | payload (classId : ClassIdentifier) (mismatch : DeclaredService.Mismatch)
deriving DecidableEq, Repr

/-- A class with several public methods that may have one only. -/
structure SingleMethodViolation where
  classId : ClassIdentifier
  methods : List String
deriving DecidableEq, Repr

/-- Why the operating system did not do something. -/
inductive SystemFault
  | notFound
  | notDirectory
  | isDirectory
  | tooManyLinks
deriving DecidableEq, Repr

/-- What went wrong with an entry of a directory tree. -/
inductive WalkFault
  | system (path : String) (fault : SystemFault)
  /-- A link leads to a directory that is being visited. -/
  | loop (path ancestor : String)
deriving DecidableEq, Repr

/-- What is wrong with a file name pattern. -/
inductive PatternFault
  | unclosedClass
  | invalidRange (first last : Char)
  | unopenedAlternates
  | unclosedAlternates
  | danglingEscape
deriving DecidableEq, Repr

/-- One rule that a configuration violates. -/
inductive ConfigIssue
  | blankEnvironment
  | noPatterns
  | badPattern (glob : String) (fault : PatternFault)
  | emptySeparator
  | emptyModulePath (index : Nat)
deriving DecidableEq, Repr

/-- Why a configuration could not be loaded or saved. -/
inductive ConfigError
  | fileNotFound (path : String)
  | fileAccess (fault : SystemFault)
  | unreadable
  | invalid (issues : List ConfigIssue)
deriving DecidableEq, Repr

/-- Why a discovery failed. -/
inductive DiscoveryError
  | scan (module : String) (fault : WalkFault)
  | badPattern (glob : String) (fault : PatternFault)
  | config (error : ConfigError)
  | metadata (error : MetadataError)
  | validation (violation : SingleMethodViolation)
  | registration (refusal : Refusal)
deriving DecidableEq, Repr

/-- The wording of what is wrong with the annotations of a class. -/
def MetadataError.message : MetadataError → String
  | .block classId fault => "元数据块解析失败: " ++ classId ++ ", 原因: " ++ fault.message
  | .refused classId reason => "元数据块解析失败: " ++ classId ++ ", 原因: " ++ reason
  | .payload classId mismatch =>
    "Service 注解字段无效: " ++ classId ++ ", 原因: " ++ mismatch.message

/-- The wording of a violation, which counts and names the methods. -/
def SingleMethodViolation.message (violation : SingleMethodViolation) : String :=
  "单一公共方法约束被违反: " ++ violation.classId ++ " 暴露了 " ++
    toString violation.methods.length ++ " 个公共方法 (" ++
    String.intercalate ", " violation.methods ++ ")"

/-- The wording of a refusal. -/
def Refusal.message (refusal : Refusal) : String :=
  "组件注册失败: " ++ refusal.id ++ ", 原因: " ++ refusal.reason

/-- The wording of the system for a fault. -/
def SystemFault.message : SystemFault → String
  | .notFound => "No such file or directory (os error 2)"
  | .notDirectory => "Not a directory (os error 20)"
  | .isDirectory => "Is a directory (os error 21)"
  | .tooManyLinks => "Too many levels of symbolic links (os error 40)"

/-- The wording of a fault of a walk, which names the path. -/
def WalkFault.message : WalkFault → String
  | .system path fault => "IO error for operation on " ++ path ++ ": " ++ fault.message
  | .loop path ancestor =>
    "File system loop found: " ++ path ++ " points to an ancestor " ++ ancestor

/-- The wording of what is wrong with a pattern. -/
def PatternFault.reason : PatternFault → String
  | .unclosedClass => "unclosed character class; missing ']'"
  | .invalidRange first last =>
    "invalid range; '" ++ first.toString ++ "' > '" ++ last.toString ++ "'"
  | .unopenedAlternates =>
    "unopened alternate group; missing '\x7b' (maybe escape '\x7d' with '[\x7d]'?)"
  | .unclosedAlternates =>
    "unclosed alternate group; missing '\x7d' (maybe escape '\x7b' with '[\x7b]'?)"
  | .danglingEscape => "dangling '\\'"

/-- The wording of what is wrong with a pattern, the pattern included. -/
def PatternFault.message (glob : String) (fault : PatternFault) : String :=
  "error parsing glob '" ++ glob ++ "': " ++ fault.reason

/-- The wording of a violation, which begins with the field that it is about. -/
def ConfigIssue.message : ConfigIssue → String
  | .blankEnvironment => "environment 不能为空"
  | .noPatterns => "scan.file_patterns 至少需要一个匹配模式"
  | .badPattern glob fault =>
    "scan.file_patterns 中的模式无效: " ++ glob ++ " (" ++ fault.message glob ++ ")"
  | .emptySeparator => "resolver.namespace_separator 不能为空"
  | .emptyModulePath index => "modules[" ++ toString index ++ "].path 不能为空"

/-- The wording of what is wrong with a configuration. -/
def ConfigError.message : ConfigError → String
  | .fileNotFound path => "配置文件不存在: " ++ path
  | .fileAccess fault => "配置文件读取失败: " ++ fault.message
  | .unreadable => "配置解析失败"
  | .invalid issues =>
    "配置验证失败: " ++ String.intercalate "; " (issues.map ConfigIssue.message)

/-- The wording of an error: what failed, and why. -/
def DiscoveryError.message : DiscoveryError → String
  | .scan module fault => "模块扫描失败: " ++ module ++ ", 原因: " ++ fault.message
  | .badPattern glob fault =>
    "文件匹配模式无效: " ++ glob ++ ", 原因: " ++ fault.message glob
  | .config error => "配置错误: " ++ error.message
  | .metadata error => "元数据错误: " ++ error.message
  | .validation violation => "验证错误: " ++ violation.message
  | .registration refusal => "依赖注册错误: " ++ refusal.message

/-- What a fault of a walk goes back to. -/
def WalkFault.causes : WalkFault → List String
  | .system _ fault => [fault.message]
  | .loop _ _ => []

/-- What an error of a configuration goes back to. -/
def ConfigError.causes : ConfigError → List String
  | .fileAccess fault => [fault.message]
  | _ => []

/-- What an error of a documentation block goes back to. -/
def MetadataError.causes : MetadataError → List String
  | .payload _ mismatch => [mismatch.message]
  | _ => []

/-- An error and what it goes back to, each cause before its own cause. -/
def DiscoveryError.chain (error : DiscoveryError) : List String :=
  error.message :: match error with
    | .scan _ fault => fault.message :: fault.causes
    | .badPattern _ _ => []
    | .config inner => inner.message :: inner.causes
    | .metadata inner => inner.message :: inner.causes
    | .validation violation => [violation.message]
    | .registration refusal => [refusal.message]

end ServiceWiring
