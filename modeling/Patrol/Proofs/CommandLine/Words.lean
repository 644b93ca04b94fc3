import Patrol.CommandLine.Words
import Patrol.Proofs.CommandLine.Sides

/-! The words that ask for a command line are read as that command line. Values that are joined to
their option and paths behind two dashes may be any texts but the empty one, those that look like
options or commands among them. -/
namespace Patrol
open CommandLine (Given Level)

/-- Whether a command can be asked for: a check has some paths, and none of them is empty. -/
def Command.CanBeAsked : Command → Prop
  | .check paths _ => paths ≠ [] ∧ "" ∉ paths
  | .list _ | .init _ => True

/-- What is read of the words of a command. -/
def Command.reading : Command → Except CommandLine.Error Command
  | .check paths strict =>
    if "" ∈ paths then .error .badValue
    else .ok (.check (if paths.isEmpty then CommandLine.standardPaths else paths) strict)
  | command => .ok command

/-- Where the words behind a command are read. -/
def Command.level : Command → Level
  | .check _ _ => .check
  | .list _ => .list
  | .init _ => .init

theorem Command.reading_eq_ok_iff {command : Command} :
    command.reading = .ok command ↔ command.CanBeAsked := by
  cases command with
  | check paths strict =>
    simp only [reading, CanBeAsked]
    split
    · next empty => simp [empty]
    · next full =>
      -- no paths are not what is read, but the path that stands for them
      cases paths with
      | nil => simp [CommandLine.standardPaths]
      | cons path paths => simp [full]
  | list | init => simp [reading, CanBeAsked]

namespace CommandLine

/-- Whether a command line can be asked for: no more repetitions of the switch for messages than are
counted, a name for the file with the settings, and a command that can be asked for. -/
structure CanBeAsked (c : CommandLine) : Prop where
  counted : c.verbosity ≤ maxVerbosity
  named : c.config ≠ ""
  command : c.command.CanBeAsked

variable {c : CommandLine}

/-! ## The options -/

/-- The options of a command line. -/
def shared (c : CommandLine) : List SharedOption :=
  [.color c.color false, .config c.config true] ++ List.replicate c.verbosity (.verboseShort 0)

theorem wordsOf_shared (c : CommandLine) : wordsOf c.shared = c.options := by
  have switches : wordsOf (List.replicate c.verbosity (.verboseShort 0)) =
      List.replicate c.verbosity "-v" :=
    List.flatMap_replicate.trans List.flatten_replicate_singleton
  rw [wordsOf, shared, List.flatMap_append, ← wordsOf, ← wordsOf, switches]
  rfl

/-- The switches at the end set nothing that can be set once only. -/
theorem filterMap_shared {α : Type} {f : SharedOption → Option α} (c : CommandLine)
    (other : f (.verboseShort 0) = none) :
    c.shared.filterMap f = [.color c.color false, .config c.config true].filterMap f := by
  rw [shared, List.filterMap_append, List.filterMap_replicate_of_none other, List.append_nil]

theorem atMostOnce_shared (c : CommandLine) : AtMostOnce c.shared := by
  rw [AtMostOnce, filterMap_shared c rfl, filterMap_shared c rfl]
  exact ⟨Nat.le_refl 1, Nat.le_refl 1⟩

theorem isValid_shared (named : c.config ≠ "") : ∀ o ∈ c.shared, o.IsValid := by
  intro o member
  obtain first | switch := List.mem_append.1 member
  · obtain rfl | first := List.mem_cons.1 first
    · trivial
    · obtain rfl := List.mem_singleton.1 first
      exact ⟨named, .inl rfl⟩
  · obtain rfl := List.eq_of_mem_replicate switch
    trivial

theorem givenBy_shared (c : CommandLine) :
    givenBy c.shared =
      { color := some c.color, config := some c.config,
        verbosity := min maxVerbosity c.verbosity } := by
  have sum : messages c.shared = c.verbosity := by
    simp [messages, shared, SharedOption.count]
  rw [givenBy, sum, filterMap_shared c rfl, filterMap_shared c rfl]
  rfl

/-- The option for the file with the settings is not obeyed without a name. -/
theorem read_of_unnamed (unnamed : c.config = "") : read c.words = .error .badValue := by
  have split : splitCommand {} c.words = .error .badValue := by
    rw [words, options, unnamed]
    cases c.color <;> rfl
  rw [read, split]
  rfl

/-! ## Paths -/

namespace State
variable {g : Given}

/-- Behind two dashes all words are paths. -/
theorem foldlM_paths (paths more : List String) :
    more.foldlM (readWord .check) ⟨g, .paths paths, true⟩ = .ok ⟨g, .paths (paths ++ more), true⟩ := by
  induction more generalizing paths with
  | nil =>
    rw [List.append_nil]
    rfl
  | cons path more ih =>
    have read : readWord .check ⟨g, .paths paths, true⟩ path =
        .ok ⟨g, .paths (paths ++ [path]), true⟩ := rfl
    rw [List.foldlM_cons, read, List.append_cons paths path more]
    exact ih (paths ++ [path])

theorem finish_paths (paths : List String) :
    finish .check ⟨g, .nothing, true⟩ paths =
      if "" ∈ paths then .error .badValue
      else .ok ⟨{ g with paths := g.paths ++ paths }, .nothing, true⟩ := by
  cases paths with
  | nil =>
    rw [if_neg List.not_mem_nil, List.append_nil]
    rfl
  | cons path more =>
    have read : (path :: more).foldlM (readWord .check) ⟨g, .nothing, true⟩ =
        .ok ⟨g, .paths (path :: more), true⟩ := foldlM_paths [path] more
    have added : g.addPaths (path :: more) =
        if "" ∈ path :: more then .error .badValue
        else .ok { g with paths := g.paths ++ path :: more } := by
      simp only [Given.addPaths, List.contains_iff_mem]
    have looked : finish .check ⟨g, .nothing, true⟩ (path :: more) =
        (fun given => ⟨given, .nothing, true⟩) <$> g.addPaths (path :: more) := by
      rw [finish, read]
      rfl
    rw [looked, added]
    split <;> rfl

end State

/-! ## The command -/

/-- The words that are for the command alone. -/
theorem readLevel_tail (command : Command) :
    readLevel command.level command.words.tail =
      match command with
      | .check paths strict =>
        if "" ∈ paths then .error .badValue
        else .ok { paths, strict := strict == some true, noStrict := strict == some false }
      | .list format => .ok { format := some format }
      | .init force => .ok { force } := by
  cases command with
  | check paths strict =>
    have front : State.finish .check {} (Command.check paths strict).words.tail =
        State.finish .check
          ⟨{ strict := strict == some true, noStrict := strict == some false }, .nothing, true⟩
          paths := by
      obtain _ | _ | _ := strict <;> rfl
    rw [readLevel_eq]
    simp only [Command.level, front, State.finish_paths]
    split
    · rfl
    · obtain _ | _ | _ := strict <;> rfl
  | list format => cases format <;> rfl
  | init force => cases force <;> rfl

/-- The words of a command line with a file for the settings: the options stand in front of the
command, and none of them among the words behind it. -/
theorem read_words_of (named : c.config ≠ "") :
    read c.words =
      (Given.asked c.command.level · (givenBy c.shared)) <$>
        readLevel c.command.level c.command.words.tail := by
  have own : ∃ sub, c.command.words = sub :: c.command.words.tail ∧
      Level.ofCommand? sub = some c.command.level := by
    obtain ⟨paths, _ | _ | _⟩ | format | force := c.command <;> exact ⟨_, rfl, rfl⟩
  obtain ⟨sub, written, known⟩ := own
  rw [words, written, ← wordsOf_shared]
  exact read_options known (isValid_shared named) (atMostOnce_shared c) _

theorem asked_shared (level : Level) {own : Given} (color : own.color = none)
    (config : own.config = none) (verbosity : own.verbosity = 0) :
    own.asked level (givenBy c.shared) =
      { c with command := own.command level, verbosity := min maxVerbosity c.verbosity } := by
  simp [Given.asked, givenBy_shared, color, config, verbosity]

/-- What is read of any words that ask for a command line with a file for the settings. -/
theorem read_words_eq (named : c.config ≠ "") :
    read c.words =
      (fun command => { c with command, verbosity := min maxVerbosity c.verbosity }) <$>
        c.command.reading := by
  rw [read_words_of named, readLevel_tail]
  cases command : c.command with
  | check paths strict =>
    simp only [Command.reading]
    split
    · rfl
    · refine congrArg Except.ok ((asked_shared .check rfl rfl rfl).trans ?_)
      obtain _ | _ | _ := strict <;> rfl
  | list format => exact congrArg Except.ok (asked_shared .list rfl rfl rfl)
  | init force => exact congrArg Except.ok (asked_shared .init rfl rfl rfl)

/-- **What can be asked for is read back.** The words of a command line are read as that command line
exactly if it can be asked for: with any choice of colours, no more repetitions of the switch for
messages than are counted, any name for the file with the settings but the empty one, and any command,
provided that a check has some paths and none of them is empty. The name and the paths may begin with a
dash, hold an equals sign or be the name of a command. -/
theorem read_words_iff (c : CommandLine) : read c.words = .ok c ↔ c.CanBeAsked := by
  by_cases named : c.config = ""
  · rw [read_of_unnamed named]
    exact ⟨nofun, fun can => absurd named can.named⟩
  · rw [read_words_eq named]
    constructor
    · intro back
      cases reading : c.command.reading with
      | error e =>
        rw [reading] at back
        cases back
      | ok command =>
        rw [reading] at back
        have same := Except.ok.inj back
        have own : command = c.command := congrArg CommandLine.command same
        have counted : min maxVerbosity c.verbosity = c.verbosity :=
          congrArg CommandLine.verbosity same
        exact ⟨by omega, named, Command.reading_eq_ok_iff.1 (own ▸ reading)⟩
    · rintro ⟨counted, -, command⟩
      rw [Command.reading_eq_ok_iff.2 command, Nat.min_eq_right counted]
      rfl

example :
    let c : CommandLine := ⟨.check ["check", "--strict", "-", "--", "a=b"] (some false), .never, 2, "-c=d"⟩
    c.words = ["--color", "never", "--config=-c=d", "-v", "-v", "check", "--no-strict", "--", "check",
      "--strict", "-", "--", "a=b"] ∧ read c.words = .ok c := by
  decide +kernel

end CommandLine
end Patrol
