import ServiceWiring.Container.Emission

/-!
# What a builder receives

Emission hands directives to a builder until one is refused. Two views of this are
related here: a builder that keeps a record of every directive it is handed, beside
the state of the builder it stands for, and the statement that a builder accepts some
directives in order and passes from one state to another on the way.

The main statement is that emission either hands over all directives, each of which is
accepted, or ends with the first that is refused, after those before it and before any
other. Recording changes neither the result nor the state.
-/

namespace ServiceWiring

variable {σ : Type} (builder : ContainerBuilder σ)

/-- The builder together with a record of the directives that it has been handed,
refused ones included. -/
def ContainerBuilder.recorded : ContainerBuilder (σ × List ConstructionDirective) where
  define directive state :=
    ((builder.define directive state.1).1,
      ((builder.define directive state.1).2, state.2 ++ [directive]))

/-- Whether the builder accepts some directives one after the other, and passes from the
one state to the other on the way. -/
inductive Accepts : List ConstructionDirective → σ → σ → Prop
  | none (state : σ) : Accepts [] state state
  | next {directive : ConstructionDirective} {directives : List ConstructionDirective}
      {before between after : σ}
      (accepted : builder.define directive before = (.ok (), between))
      (rest : Accepts directives between after) :
      Accepts (directive :: directives) before after

/-- Whether the builder accepts the directives of `accepted` and then refuses `refused`,
when it is handed the directives of `directives` one after the other. Any directives may
follow the refused one. -/
def RefusesAfter (directives accepted : List ConstructionDirective)
    (refused : ConstructionDirective) (before after : σ) (refusal : Refusal) : Prop :=
  ∃ (following : List ConstructionDirective) (between : σ),
    directives = accepted ++ refused :: following ∧ Accepts builder accepted before between ∧
      builder.define refused between = (.error refusal, after)

/-- Directives that are all accepted are all counted and recorded. -/
theorem emit_of_accepts {descriptors : List ServiceDescriptor} {before after : σ}
    (accepts : Accepts builder (descriptors.map ConstructionDirective.ofDescriptor) before after)
    (log : List ConstructionDirective) :
    emit builder descriptors before = (.ok descriptors.length, after) ∧
      emit builder.recorded descriptors (before, log) =
        (.ok descriptors.length,
          (after, log ++ descriptors.map ConstructionDirective.ofDescriptor)) := by
  induction descriptors generalizing before log with
  | nil =>
    cases accepts
    simp [emit]
  | cons descriptor descriptors inductionHypothesis =>
    rw [List.map_cons] at accepts ⊢
    cases accepts with
    | next accepted rest =>
      obtain ⟨plain, recorded⟩ := inductionHypothesis rest
        (log ++ [ConstructionDirective.ofDescriptor descriptor])
      constructor
      · simp [emit, accepted, plain]
      · simp [emit, ContainerBuilder.recorded, accepted] at recorded ⊢
        simp [recorded]

/-- A refused directive ends emission with its refusal. It is the last one recorded, and
those before it are the accepted ones. -/
theorem emit_of_refusesAfter {descriptors : List ServiceDescriptor}
    {accepted : List ConstructionDirective} {refused : ConstructionDirective}
    {before after : σ} {refusal : Refusal}
    (refuses : RefusesAfter builder (descriptors.map ConstructionDirective.ofDescriptor)
      accepted refused before after refusal)
    (log : List ConstructionDirective) :
    emit builder descriptors before = (.error refusal, after) ∧
      emit builder.recorded descriptors (before, log) =
        (.error refusal, (after, log ++ accepted ++ [refused])) := by
  obtain ⟨following, between, parts, accepts, answer⟩ := refuses
  induction accepts generalizing descriptors log with
  | none state =>
    obtain ⟨descriptor, rest, rfl, rfl, rfl⟩ := List.map_eq_cons_iff.mp parts
    simp [emit, ContainerBuilder.recorded, answer]
  | next taken rest inductionHypothesis =>
    rw [List.cons_append] at parts
    obtain ⟨descriptor, remaining, rfl, rfl, others⟩ := List.map_eq_cons_iff.mp parts
    obtain ⟨plain, recorded⟩ := inductionHypothesis
      (log ++ [ConstructionDirective.ofDescriptor descriptor]) others answer
    constructor
    · simp [emit, taken, plain]
    · simp [emit, ContainerBuilder.recorded, taken] at recorded ⊢
      simp [recorded]

/-- A builder that is handed directives accepts all of them, or refuses one after those
before it. -/
theorem accepts_or_refusesAfter (directives : List ConstructionDirective) (before : σ) :
    (∃ after, Accepts builder directives before after) ∨
      ∃ accepted refused after refusal,
        RefusesAfter builder directives accepted refused before after refusal := by
  induction directives generalizing before with
  | nil => exact .inl ⟨before, .none before⟩
  | cons directive directives inductionHypothesis =>
    cases answer : builder.define directive before with
    | mk verdict between =>
      cases verdict with
      | error refusal =>
        exact .inr ⟨[], directive, between, refusal, directives, before, rfl, .none before, answer⟩
      | ok _ =>
        rcases inductionHypothesis between with ⟨after, accepts⟩ | refuses
        · exact .inl ⟨after, .next answer accepts⟩
        · obtain ⟨accepted, refused, after, refusal, following, state, parts, accepts, refusing⟩ :=
            refuses
          exact .inr ⟨directive :: accepted, refused, after, refusal, following, state, by
            rw [parts, List.cons_append], .next answer accepts, refusing⟩

end ServiceWiring
