import Patrol.Proofs.Banner
import Patrol.Proofs.Listing.Records
import Patrol.Proofs.Listing.Table
import Patrol.Proofs.Program.Stages

/-! Those who use settings agree on them. Checks, lists and inspectors load them and make a catalog
of their rules each on its own; they fail together, and where they do not they tell the same number
of rules. -/
namespace Patrol

theorem Inspector.ofConfig_eq_ok_iff {c : Config} {i : Inspector} :
    ofConfig c = .ok i ↔
      ∃ catalog filter, Catalog.ofSelection c.rules = .ok catalog ∧
        Filter.ofGlobs c.exclude = .ok filter ∧ i = ⟨catalog, c.enforcement, filter⟩ := by
  rw [ofConfig]
  generalize Catalog.ofSelection c.rules = rules
  generalize Filter.ofGlobs c.exclude = globs
  cases rules with
  | error e => simp [bind, Except.bind, Except.mapError]
  | ok catalog =>
    cases globs with
    | error bad => simp [bind, Except.bind, Except.mapError]
    | ok filter => simp [bind, Except.bind, pure, Except.pure, Except.mapError, eq_comm]

/-- Where the globs make a filter, what can be wrong is the rules alone. -/
theorem Inspector.ofConfig_ne_config {c : Config} {filter : Filter}
    (globs : Filter.ofGlobs c.exclude = .ok filter) (e : ConfigError) :
    ofConfig c ≠ .error (.config e) := by
  rw [ofConfig, globs]
  generalize Catalog.ofSelection c.rules = rules
  cases rules with
  | error cause => simp [bind, Except.bind, Except.mapError]
  | ok catalog => simp [bind, Except.bind, pure, Except.pure, Except.mapError]

theorem Check.run_ne_badGlob {c : Config} {filter : Filter}
    (globs : Filter.ofGlobs c.exclude = .ok filter) (w : Tree.World) (catalog : Catalog)
    (paths : List String) (bad : BadGlob) :
    (run w c catalog paths).result ≠ .error (.badGlob bad) := by
  rw [result_run w c globs]
  split <;> simp

namespace Program
open Patrol.Listing (EndsWithLine IsLines tally)
open Patrol.Tree (World)
variable {w : World} {config : String} {override : Option Bool} {paths : List String}
  {c : Config} {catalog : Catalog} {strict colored : Bool} {format : ListFormat}

/-! ## Lists -/

theorem list_of_failed (format : ListFormat) {e : ConfigError}
    (failed : Config.Loads w config (.error e)) :
    list w config format =
      ⟨configExit e, "", loading w config ++ [.failure e.headline e.explanation], w⟩ := by
  simp only [list, failed.eq]

theorem list_of_loads (format : ListFormat) (loads : Config.Loads w config (.ok c)) :
    list w config format =
      match Catalog.ofSelection c.rules with
      | .error e =>
        ⟨2, "", loading w config ++ [.failure ("Rule error: " ++ e.headline) e.explanation], w⟩
      | .ok catalog =>
        ⟨0, match format with
          | .human => Listing.table catalog
          | .jsonl => Listing.records catalog, loading w config, w⟩ := by
  -- how catalogs are made is kept out of sight, so that nothing has to make one
  obtain ⟨rulesOf, same⟩ : ∃ rulesOf, rulesOf = Catalog.ofSelection := ⟨_, rfl⟩
  rw [list, loads.eq, ← same]
  rfl

/-- A list goes well if the rules make a catalog. -/
theorem exit_list_iff (format : ListFormat) (loads : Config.Loads w config (.ok c)) :
    (list w config format).exit = 0 ↔ ∃ catalog, Catalog.ofSelection c.rules = .ok catalog := by
  rw [list_of_loads format loads]
  cases Catalog.ofSelection c.rules with
  | error e => simp
  | ok catalog => simp

/-! ## Banners -/

/-- The first of the messages that is not about progress. -/
def Run.first? (r : Run) : Option Message :=
  r.messages.find? fun
    | .event _ => false
    | .text _ | .failure _ _ => true

/-- Whether the first thing that is shown is the banner for so many rules and a mode. -/
def ShowsBanner (colored : Bool) (r : Run) (count : Nat) (strict : Bool) : Prop :=
  r.first? = some (.text (painted colored true cyan (Banner.render count strict)))

theorem painted_inj {bold : Bool} {color s t : String} :
    painted colored bold color s = painted colored bold color t ↔ s = t := by
  cases colored with
  | false => rfl
  | true =>
    refine ⟨fun same => ?_, fun same => by rw [same]⟩
    have chars := congrArg String.toList same
    simp only [painted, if_true, String.toList_append] at chars
    exact String.toList_inj.1 (List.append_cancel_left (List.append_cancel_right chars))

/-- What is said on loading is about progress. -/
theorem first?_loading (w' : World) (exit : Nat) (output : String) (messages : List Message) :
    Run.first? ⟨exit, output, loading w config ++ messages, w'⟩ =
      Run.first? ⟨exit, output, messages, w'⟩ := by
  unfold loading
  split <;> rfl

theorem not_showsBanner_of_badRules {e : RuleError} (loads : Config.Loads w config (.ok c))
    (enabled : c.enforcement.enabled = true) (failed : Catalog.ofSelection c.rules = .error e)
    {count : Nat} : ¬ShowsBanner colored (check colored w config override paths) count strict := by
  rw [check_of_badRules colored loads enabled failed, ShowsBanner, first?_loading]
  simp [Run.first?]

/-- The banner comes first, whatever the paths lead to. -/
theorem Begins.showsBanner_iff (begins : Begins w config override c catalog strict) {count : Nat}
    {mode : Bool} :
    ShowsBanner colored (Program.check colored w config override paths) count mode ↔
      count = catalog.size ∧ mode = strict := by
  have banner : (Program.check colored w config override paths).first? =
      some (.text (painted colored true cyan (Banner.render catalog.size strict))) := by
    rw [begins.check, first?_loading, checkWith]
    split
    · rfl
    · split <;> rfl
  rw [ShowsBanner, banner, Option.some.injEq, Message.text.injEq, painted_inj, Banner.render_inj,
    eq_comm, @eq_comm _ mode]

/-! ## All of them -/

/-- **Those who use settings agree.** Where the settings cannot be loaded, a list and a check end with
the same code, 3 if their text is malformed. Where they are loaded, a list goes well exactly if the
rules make a catalog, and exactly if there is an inspector; a check that is enabled shows its banner
in just these cases. The banner, the last line of the listing for readers, the lines of the listing
for programs and the inspector all tell the size of that catalog. Settings that are read never turn
out to be wrong later on. -/
theorem consumers_agree (w : World) (config : String) :
    (∀ e, Config.loadOrStandard w config = .error e → ∀ colored override paths format,
      (list w config format).exit = (check colored w config override paths).exit ∧
        (list w config format).exit = match e with
          | .unfit _ => 3
          | .badGlob _ | .disabledTwice _ | .unreadable _ | .notText => 2) ∧
    (∀ c, Config.loadOrStandard w config = .ok c →
      (∀ format, (list w config format).exit = 0 ↔
        ∃ catalog, Catalog.ofSelection c.rules = .ok catalog) ∧
      ((∃ catalog, Catalog.ofSelection c.rules = .ok catalog) ↔
        ∃ i, Inspector.ofConfig c = .ok i) ∧
      (c.enforcement.enabled = true → ∀ colored override paths format,
        (∃ count strict, ShowsBanner colored (check colored w config override paths) count strict) ↔
          (list w config format).exit = 0) ∧
      ∀ catalog, Catalog.ofSelection c.rules = .ok catalog →
        (c.enforcement.enabled = true → ∀ colored override paths count strict,
          ShowsBanner colored (check colored w config override paths) count strict ↔
            count = catalog.size ∧ strict = override.getD c.enforcement.strict) ∧
        (catalog.rules ≠ [] → ∀ count,
          EndsWithLine (list w config .human).output (tally count) ↔ count = catalog.size) ∧
        (∀ count, IsLines (list w config .jsonl).output count ↔ count = catalog.size) ∧
        ∀ i, Inspector.ofConfig c = .ok i → i.catalog = catalog) ∧
    ∀ text c, Config.parse text = .ok c →
      (∀ e, Inspector.ofConfig c ≠ .error (.config e)) ∧
      ∀ e w catalog paths bad,
        (Check.run w (enforced c e) catalog paths).result ≠ .error (.badGlob bad) := by
  refine ⟨fun e failed colored override paths format => ?_, fun c loaded => ?_,
    fun text c read => ?_⟩
  · have loads := Config.loads_iff.2 failed
    rw [list_of_failed format loads, check_of_failed colored loads]
    refine ⟨rfl, ?_⟩
    cases e with
    | unfit | badGlob | disabledTwice | unreadable | notText => rfl
  · have loads := Config.loads_iff.2 loaded
    obtain ⟨filter, globs⟩ := loads.globs
    refine ⟨fun format => exit_list_iff format loads, ?_, ?_, fun catalog rules => ?_⟩
    · simp [Inspector.ofConfig_eq_ok_iff, globs]
    · intro enabled colored override paths format
      rw [exit_list_iff format loads]
      constructor
      · rintro ⟨count, strict, shows⟩
        cases rules : Catalog.ofSelection c.rules with
        | error e => exact absurd shows (not_showsBanner_of_badRules loads enabled rules)
        | ok catalog => exact ⟨catalog, rfl⟩
      · rintro ⟨catalog, rules⟩
        have begins : Begins w config override c catalog _ := ⟨loads, enabled, rules, rfl⟩
        exact ⟨_, _, begins.showsBanner_iff.2 ⟨rfl, rfl⟩⟩
    · refine ⟨fun enabled colored override paths count strict => ?_, fun some count => ?_,
        fun count => ?_, fun i made => ?_⟩
      · exact Begins.showsBanner_iff ⟨loads, enabled, rules, rfl⟩
      · rw [list_of_loads .human loads, rules]
        exact Listing.endsWithLine_table_iff some
      · rw [list_of_loads .jsonl loads, rules]
        exact Listing.isLines_records_iff
      · obtain ⟨catalog', filter', rules', -, rfl⟩ := Inspector.ofConfig_eq_ok_iff.1 made
        exact Except.ok.inj (rules'.symm.trans rules)
  · obtain ⟨filter, globs⟩ := Config.globs_of_parse read
    refine ⟨Inspector.ofConfig_ne_config globs, fun e w catalog paths bad => ?_⟩
    exact Check.run_ne_badGlob (c := enforced c e) globs w catalog paths bad

end Program
end Patrol
