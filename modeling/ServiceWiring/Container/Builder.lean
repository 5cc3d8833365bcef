import ServiceWiring.Service.Directive

/-!
# Container builders

A builder receives directives one at a time and may refuse one. What it does with
them is its own affair: its state is of any type, and a refusal may change it too.
The bounded builder stores what it accepts, refuses chosen identifiers, and
refuses everything once it is full.
-/

namespace ServiceWiring

/-- Why a builder did not accept a directive. -/
structure Refusal where
  id : String
  reason : String
deriving DecidableEq, Repr

/-- Something that directives can be handed to. -/
structure ContainerBuilder (σ : Type) where
  define : ConstructionDirective → σ → Except Refusal Unit × σ

/-- The directives that a builder has accepted, in order. -/
abbrev Accepted := List ConstructionDirective

/-- A builder that refuses some identifiers, and all directives beyond a limit. -/
def boundedBuilder (refused : List String) (limit : Option Nat) : ContainerBuilder Accepted where
  define directive accepted :=
    if refused.contains directive.id then (.error ⟨directive.id, "refused"⟩, accepted)
    else if limit.any (· ≤ accepted.length) then
      (.error ⟨directive.id, "container is full"⟩, accepted)
    else (.ok (), accepted ++ [directive])

end ServiceWiring
