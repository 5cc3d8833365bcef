import ServiceWiring.Service.Descriptor

/-!
# Definition order

Descriptors are defined in ascending priority. Descriptors of one priority keep
the order in which they were found.
-/

namespace ServiceWiring.ServiceDescriptor

/-- Descriptors in the order in which they are defined: a stable sort by priority. -/
def order (descriptors : List ServiceDescriptor) : List ServiceDescriptor :=
  descriptors.mergeSort fun left right => left.priority ≤ right.priority

end ServiceWiring.ServiceDescriptor
