import ServiceWiring.Container.Builder

/-!
# Emission

Emission hands the directives of descriptors to a builder, one after the other,
and stops at the first refusal. What was accepted before the refusal stays with
the builder.
-/

namespace ServiceWiring

/-- Hands the directives of descriptors to a builder. The result is their number,
or the first refusal; the state is that after the last directive handed over. -/
def emit {σ : Type} (builder : ContainerBuilder σ) :
    List ServiceDescriptor → σ → Except Refusal Nat × σ
  | [], state => (.ok 0, state)
  | descriptor :: descriptors, state =>
    match builder.define (ConstructionDirective.ofDescriptor descriptor) state with
    | (.error refusal, state) => (.error refusal, state)
    | (.ok (), state) =>
      match emit builder descriptors state with
      | (.error refusal, state) => (.error refusal, state)
      | (.ok emitted, state) => (.ok (emitted + 1), state)

/-- A run of emission that meets no refusal counts all descriptors. -/
theorem emit_count {σ : Type} (builder : ContainerBuilder σ)
    (descriptors : List ServiceDescriptor) (before after : σ) (emitted : Nat)
    (accepted : emit builder descriptors before = (.ok emitted, after)) :
    emitted = descriptors.length := by
  induction descriptors generalizing before emitted with
  | nil => simp [emit] at accepted; simp [accepted]
  | cons descriptor descriptors inductionHypothesis =>
    simp only [emit] at accepted
    split at accepted
    · simp at accepted
    · split at accepted
      · simp at accepted
      · rename_i further _ rest
        simp only [Prod.mk.injEq, Except.ok.injEq] at accepted
        obtain ⟨rfl, rfl⟩ := accepted
        rw [inductionHypothesis _ _ rest, List.length_cons]

end ServiceWiring
