import Patrol.Proofs.Config.Written
import Patrol.Proofs.Init.Run
import Patrol.Proofs.Text.Lossy
import Patrol.Proofs.Toml.Comment

/-! The file with the standard settings is read as the standard settings. -/
namespace Patrol.Init
open Toml (IsLine IsSilent Lines)

/-- Its lines say the standard settings; all else in it is comments. -/
theorem lines_document : Lines document.toList Config.standard.statements := by
  have blank : IsSilent "\n".toList := Toml.isSilent_newline
  have note {line : String} (comment : Toml.isComment line.toList = true) :
      IsSilent line.toList :=
    Toml.isSilent_comment comment
  have heading {key line : String} (bare : Toml.IsBarePart key)
      (same : line.toList = Toml.heading key) : IsLine line.toList (.heading [key]) :=
    same ▸ Toml.isLine_section bare
  have switch {key line : String} (bare : Toml.IsBarePart key) (b : Bool)
      (same : line.toList = Toml.entry key (Toml.boolean b)) :
      IsLine line.toList (.entry [key] (.boolean b)) :=
    same ▸ Toml.isLine_switch bare b
  have texts {key line : String} (bare : Toml.IsBarePart key) (all : List String)
      (same : line.toList = Toml.entry key (Toml.array (all.map Toml.quoted))) :
      IsLine line.toList (.entry [key] (.array (all.map .string))) :=
    same ▸ Toml.isLine_texts bare all
  unfold document
  simp only [String.toList_append, List.append_assoc]
  refine .silent (note rfl) (.silent blank (.line (heading (by decide) rfl) (.silent (note rfl)
    (.line (switch (by decide) true rfl) (.silent (note rfl)
    (.line (switch (by decide) false rfl) (.silent blank ?_)))))))
  refine .line (heading (by decide) rfl) (.silent (note rfl)
    (.line (texts (by decide) Filter.defaultGlobs rfl) (.silent blank ?_)))
  refine .line (heading (by decide) rfl) (.silent (note rfl)
    (.line (switch (by decide) true rfl) (.silent (note rfl)
    (.line (texts (by decide) [] rfl) (.silent blank ?_)))))
  exact .silent (note rfl) (.silent (note rfl) (.silent (note rfl) (.silent (note rfl)
    (.silent (note rfl) (.silent (note rfl) (.silent (note rfl) (.silent (note rfl)
    (.silent (note rfl) (note rfl).lines))))))))

/-- A comment in it tells of the comments that a rule for TypeScript looks for. -/
theorem tsIgnore_document : "@ts-ignore".toList <:+: document.toList := by
  have line : "@ts-ignore".toList <:+:
      "# Keep rules that only apply to TypeScript and Vue files (any, @ts-ignore, ...)\n".toList :=
    ⟨"# Keep rules that only apply to TypeScript and Vue files (any, ".toList, ", ...)\n".toList, rfl⟩
  unfold document
  simp only [String.toList_append]
  iterate 14 refine .trans ?_ (List.prefix_append _ _).isInfix
  exact line.trans (List.suffix_append _ _).isInfix

theorem read_document : Toml.read document = some Config.standard.fields := by
  rw [← String.ofList_toList (s := document), lines_document.read, Config.ofStatements_statements]

theorem parse_document : Config.parse document = .ok Config.standard := by
  have valid : Config.standard.validate = .ok () :=
    Config.validate_eq_ok Filter.ofGlobs_defaultGlobs List.nodup_nil
  rw [Config.parse_of_decode read_document (Config.decode_fields _), valid]
  rfl

theorem text?_written : Text.text? written = some document :=
  (Text.text?_bytesOf _).trans (congrArg some String.ofList_toList)

/-- The settings in a file that holds the document are the standard ones. -/
theorem load_of_read {w : Tree.World} {path : String}
    (read : w.read path = .ok written) : Config.load w path = .ok Config.standard :=
  (Config.load_of_text read text?_written).trans parse_document

end Patrol.Init
