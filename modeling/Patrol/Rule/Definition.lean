import Patrol.Language
import Patrol.Toml.Decode

/-! Rules as they are written down. -/
namespace Patrol.Rule

/-- What a rule says: its pattern and the text to be shown where it occurs. Without languages it
holds for every file. -/
structure Definition where
  id : String
  title : String
  marker : String
  pattern : String
  message : String
  languages : List Language
deriving DecidableEq

namespace Definition
open Toml (Decoder Field Record needed optional?)

def language : Decoder Language :=
  Decoder.variant (Language.all.map fun l => (l.name, l))

def record : Record where
  name := "RuleDefinition"
  fields :=
    [ .needed "id" Decoder.string, .needed "title" Decoder.string,
      .needed "marker" Decoder.string, .needed "pattern" Decoder.string,
      .needed "message" Decoder.string, .optional "languages" (Decoder.list language) ]

def decode : Decoder Definition := fun v => do
  let entries ← record.entries v
  return {
    id := ← needed entries "id" Decoder.string
    title := ← needed entries "title" Decoder.string
    marker := ← needed entries "marker" Decoder.string
    pattern := ← needed entries "pattern" Decoder.string
    message := ← needed entries "message" Decoder.string
    languages := ← optional? entries "languages" (Decoder.list language) [] }

end Definition
end Patrol.Rule
