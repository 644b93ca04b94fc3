import Patrol.Rule.Basic

/-! Rules on one line, for those who look into the program. -/
namespace Patrol

/-- A dialect with the capitals of its name. -/
def Language.title : Language → String
  | .vue => "Vue"
  | .javaScript => "JavaScript"
  | .typeScript => "TypeScript"

/-- All of a rule but its message. -/
def Rule.describe (r : Rule) : String :=
  "Rule \x7b id: RuleId(" ++ Text.quoted r.id.text ++ "), pattern: " ++ Text.quoted r.pattern.source ++
    ", title: " ++ Text.quoted r.title ++ ", marker: " ++ Text.quoted r.marker ++
    ", languages: [" ++ ", ".intercalate (r.languages.map (·.title)) ++ "], .. \x7d"

end Patrol
