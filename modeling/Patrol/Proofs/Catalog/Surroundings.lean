import Patrol.Proofs.Catalog.Built

/-! Violations in a part of a file are violations in all of it, for rules whose patterns have no
anchors. These are all rules that come with the program but five. -/
namespace Patrol

theorem Rule.matchesIn_of_part {r : Rule} (free : r.pattern.regex.anchorless = true)
    {text whole : String} (inside : text.toList <:+: whole.toList)
    (occurs : r.matchesIn text = true) : r.matchesIn whole = true := by
  rw [matchesIn_iff] at occurs ⊢
  exact occurs.of_part free inside

theorem Violation.mem_collect_of_part {c : Catalog} {file text whole : String} {v : Violation}
    (free : v.rule.pattern.regex.anchorless = true) (inside : text.toList <:+: whole.toList)
    (member : v ∈ collect c file text) : v ∈ collect c file whole := by
  rw [mem_collect_iff, found_iff] at member ⊢
  obtain ⟨rule, ⟨applies, occurs⟩, here⟩ := member
  exact ⟨rule, ⟨applies, occurs.of_part free inside⟩, here⟩

theorem Text.infix_surrounded (before text behind : String) :
    text.toList <:+: (before ++ text ++ behind).toList := by
  rw [String.toList_append, String.toList_append]
  exact List.infix_append ..

namespace Catalog

theorem anchorless_of_builtin {b : Catalog} (built : builtin = .ok b) {r : Rule}
    (member : r ∈ b.rules) (other : r.id.text ∉ lookingAround) :
    r.pattern.regex.anchorless = true := by
  rw [(pattern_of_builtin built member).2]
  simpa using other

/-- **What stands around a violation cannot hide it**, unless its rule is one of the five that look
around: where a builtin rule matches a text, it matches every text with that text in it, and the
violations found in a file with the one are found in it with the other. -/
theorem surroundings_hide_nothing :
    ∃ b, builtin = .ok b ∧
      (∀ r ∈ b.rules, r.id.text ∉ lookingAround → ∀ before text behind : String,
        r.matchesIn text = true → r.matchesIn (before ++ text ++ behind) = true) ∧
      ∀ file before text behind, ∀ v ∈ Violation.collect b file text,
        v.rule.id.text ∉ lookingAround →
          v ∈ Violation.collect b file (before ++ text ++ behind) := by
  obtain ⟨b, built⟩ := exists_builtin
  refine ⟨b, built, ?_, ?_⟩
  · intro r member other before text behind occurs
    apply Rule.matchesIn_of_part _ (Text.infix_surrounded ..) occurs
    exact anchorless_of_builtin built member other
  · intro file before text behind v member other
    have rule := (Violation.mem_collect_iff.1 member).1
    apply Violation.mem_collect_of_part _ (Text.infix_surrounded ..) member
    exact anchorless_of_builtin built rule other

/-- One of the five: what stands before the word makes it another word. -/
example : (Pattern.compile "\\bvar\\s+").toOption.map (fun p =>
    (p.matchesIn "var x", p.matchesIn ("my" ++ "var x"))) = some (true, false) := by
  decide +kernel

end Catalog
end Patrol
