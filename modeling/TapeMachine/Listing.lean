import TapeMachine.Library
import TapeMachine.Text.Boxed

/-! The listing of a registry: a table with one row for each library. -/
namespace TapeMachine

def Library.cells (l : Library) : List String :=
  [l.name, l.description, l.initial, l.final, Names.joined ", " (Names.sorted l.used)]

/-- The lines of the listing. -/
def Registry.listing (r : Registry) : List String :=
  Text.boxed "Composition libraries"
    [⟨"Library name", false⟩, ⟨"Description", false⟩, ⟨"Initial state", true⟩,
      ⟨"Final state", true⟩, ⟨"Used states", false⟩]
    (r.map Library.cells)

end TapeMachine
