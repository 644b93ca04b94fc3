import Patrol.Proofs.Catalog.Builtin
import Patrol.Violation

/-! Files whose lines end in a carriage return and a line feed break the same builtin rules as files
whose lines end in a line feed alone. -/
namespace Patrol

/-- The text with a carriage return directly before each line feed. -/
def Text.withReturnsText (text : String) : String := .ofList (withReturns text.toList)

theorem Rule.matchesIn_withReturnsText {r : Rule}
    (ignores : Pattern.ignoresReturns r.pattern.regex = true) (text : String) :
    r.matchesIn (Text.withReturnsText text) = r.matchesIn text := by
  rw [Bool.eq_iff_iff]
  simp only [matchesIn, Pattern.matchesIn, Text.withReturnsText, String.toList_ofList,
    Regex.occursIn_iff]
  exact Pattern.occurs_withReturns_iff ignores

/-- Not every pattern ignores returns: a letter at the end of a line is not there any more. -/
example : (Pattern.compile "(?m)a$").toOption.map (fun p =>
    (p.matchesIn "a\n", p.matchesIn (Text.withReturnsText "a\n"))) = some (true, false) := by
  decide +kernel

/-- A catalog whose patterns ignore returns finds the same violations with and without them. -/
theorem Violation.collect_withReturnsText {c : Catalog}
    (ignore : ∀ r ∈ c.rules, Pattern.ignoresReturns r.pattern.regex = true) (file text : String) :
    collect c file (Text.withReturnsText text) = collect c file text := by
  have same : ∀ r ∈ c.rules, found file (Text.withReturnsText text) r = found file text r := by
    intro r member
    rw [found, found, Rule.matchesIn_withReturnsText (ignore r member)]
  rw [collect, collect, List.filter_congr same]

namespace Catalog

/-- **The way in which lines end does not matter** to the rules that come with the program: they find
the same in a text with carriage returns before its line feeds. -/
theorem ids_collect_withReturnsText :
    ∃ b, builtin = .ok b ∧ ∀ file text,
      (Violation.collect b file (Text.withReturnsText text)).map (·.rule.id) =
        (Violation.collect b file text).map (·.rule.id) := by
  obtain ⟨b, built⟩ := exists_builtin
  refine ⟨b, built, fun file text => ?_⟩
  rw [Violation.collect_withReturnsText fun r member => (pattern_of_builtin built member).1]

end Catalog
end Patrol
