import Patrol.Toml.Decode

/-! The two switches that say what becomes of violations. -/
namespace Patrol

/-- Nothing is done unless enforcement is enabled; a strict one stops at the first violation. -/
structure Enforcement where
  enabled : Bool
  strict : Bool
deriving DecidableEq

namespace Enforcement
open Toml (Decoder Field Record optional?)

/-- Everything is reported and nothing stops. -/
def normal : Enforcement := ⟨true, false⟩

def strictly : Enforcement := ⟨true, true⟩

def disabled : Enforcement := ⟨false, false⟩

def record : Record where
  name := "EnforcementOptions"
  fields := [.optional "enabled" Decoder.boolean, .optional "strict" Decoder.boolean]

def decode : Decoder Enforcement := fun v => do
  let entries ← record.entries v
  return {
    enabled := ← optional? entries "enabled" Decoder.boolean normal.enabled
    strict := ← optional? entries "strict" Decoder.boolean normal.strict }

end Enforcement
end Patrol
