import ServiceWiring.Error

/-!
# Building descriptors

Whether a class is a service, and its descriptor if it is. A class without
documentation block is not one, nor is a class whose block has no service
annotation; further service annotations after the first have no effect. A broken
block, an invalid payload and a violated single-method constraint are errors, in
this order of precedence and before the environment is looked at.
-/

namespace ServiceWiring

/-- Something that finds the annotations in the documentation block of a class. -/
abbrev MetadataParser := ClassIdentifier → String → Except MetadataError (List DocEntry)

/-- The parser for blocks of the documented form. -/
def DocBlock.parser : MetadataParser := fun classId block =>
  (DocBlock.parse block).mapError (.block classId ·)

/-- A parser that finds the same annotations in every block. -/
def MetadataParser.always (annotations : List DocEntry) : MetadataParser := fun _ _ =>
  .ok annotations

/-- A parser that refuses every block. -/
def MetadataParser.never (reason : String) : MetadataParser := fun classId _ =>
  .error (.refused classId reason)

/-- What became of a class. -/
inductive BuildOutcome
  | registered (descriptor : ServiceDescriptor)
  | undocumented
  | notService
  | environmentExcluded
deriving DecidableEq, Repr

/-- The service annotation in a payload; the class is named in the error. -/
def DeclaredService.read (classId : ClassIdentifier) (payload : Json) :
    Except MetadataError DeclaredService :=
  (DeclaredService.ofPayload payload).mapError (.payload classId ·)

/-- Whether a class with several public methods may have one only. -/
def singleMethodViolation? (definition : ClassDefinition) : Option SingleMethodViolation :=
  let methods := definition.publicMethods
  if 1 < methods.length then some ⟨definition.id, methods.map MethodSignature.name⟩ else none

/-- The outcome for a class with a documentation block and its annotations. -/
def buildAnnotated (environment : String) (definition : ClassDefinition)
    (annotations : List DocEntry) : Except DiscoveryError BuildOutcome :=
  match annotations.find? DocEntry.isService with
  | none => .ok .notService
  | some entry =>
    match DeclaredService.read definition.id entry.payload with
    | .error error => .error (.metadata error)
    | .ok declared =>
      let descriptor := declared.descriptor definition.id
      match if descriptor.singleMethod then singleMethodViolation? definition else none with
      | some violation => .error (.validation violation)
      | none =>
        if descriptor.appliesTo environment then .ok (.registered descriptor)
        else .ok .environmentExcluded

/-- The outcome for a class in an environment. -/
def buildDescriptor (parser : MetadataParser) (environment : String)
    (definition : ClassDefinition) : Except DiscoveryError BuildOutcome :=
  match definition.docComment with
  | none => .ok .undocumented
  | some block =>
    match parser definition.id block with
    | .error error => .error (.metadata error)
    | .ok annotations => buildAnnotated environment definition annotations

end ServiceWiring
