import Patrol.Config.Load
import Patrol.Proofs.Filter.Standard

/-! The ways in which settings are loaded, or are not. -/
namespace Patrol.Config
open Patrol.Tree (World)

/-- The text of a file that is there. -/
structure IsWritten (w : World) (path text : String) : Prop where
  held : w.holds path = true
  read : ∃ bytes, w.read path = .ok bytes ∧ Text.text? bytes = some text

/-- What comes of the settings in a file. The standard ones stand in for a file that is not there,
and for no other. -/
inductive Loads (w : World) (path : String) : Except ConfigError Config → Prop where
  | absent (missing : w.holds path = false) : Loads w path (.ok standard)
  | unreadable {cause : Tree.Error} (held : w.holds path = true)
      (failed : w.read path = .error cause) : Loads w path (.error (.unreadable cause))
  | notText {bytes : List UInt8} (held : w.holds path = true) (read : w.read path = .ok bytes)
      (failed : Text.text? bytes = none) : Loads w path (.error .notText)
  | malformed {text : String} (written : IsWritten w path text)
      (failed : Toml.read text = none) : Loads w path (.error (.unfit .malformed))
  | mismatched {text : String} {entries : List (String × Toml.Value)} {m : Toml.Mismatch}
      (written : IsWritten w path text) (read : Toml.read text = some entries)
      (failed : decode (.table entries) = .error m) : Loads w path (.error (.unfit (.mismatch m)))
  | badGlob {text : String} {entries : List (String × Toml.Value)} {c : Config} {bad : BadGlob}
      (written : IsWritten w path text) (read : Toml.read text = some entries)
      (decoded : decode (.table entries) = .ok c) (failed : Filter.ofGlobs c.exclude = .error bad) :
      Loads w path (.error (.badGlob bad))
  | disabledTwice {text : String} {entries : List (String × Toml.Value)} {c : Config}
      {filter : Filter} {id : RuleId} (written : IsWritten w path text)
      (read : Toml.read text = some entries) (decoded : decode (.table entries) = .ok c)
      (globs : Filter.ofGlobs c.exclude = .ok filter)
      (failed : firstRepeated? c.rules.disabled = some id) :
      Loads w path (.error (.disabledTwice id))
  | valid {text : String} {entries : List (String × Toml.Value)} {c : Config} {filter : Filter}
      (written : IsWritten w path text) (read : Toml.read text = some entries)
      (decoded : decode (.table entries) = .ok c) (globs : Filter.ofGlobs c.exclude = .ok filter)
      (distinct : firstRepeated? c.rules.disabled = none) : Loads w path (.ok c)

variable {w : World} {path text : String} {entries : List (String × Toml.Value)} {c : Config}

/-! ## Settings in a text -/

theorem parse_of_decode (read : Toml.read text = some entries)
    (decoded : decode (.table entries) = .ok c) : parse text = c.validate.map fun () => c := by
  simp only [parse, read, decoded, bind, Except.bind, Except.mapError]
  cases c.validate <;> rfl

theorem parse_of_mismatch (read : Toml.read text = some entries) {m : Toml.Mismatch}
    (failed : decode (.table entries) = .error m) : parse text = .error (.unfit (.mismatch m)) := by
  simp [parse, read, failed, bind, Except.bind, Except.mapError]

theorem load_of_text {bytes : List UInt8} (read : w.read path = .ok bytes)
    (decoded : Text.text? bytes = some text) : load w path = parse text := by
  simp only [load, read, decoded, bind, Except.bind, Except.mapError]

theorem parse_eq_ok_iff :
    parse text = .ok c ↔
      ∃ entries, Toml.read text = some entries ∧ decode (.table entries) = .ok c ∧
        c.validate = .ok () := by
  constructor
  · intro parsed
    cases read : Toml.read text with
    | none =>
      simp only [parse, read] at parsed
      cases parsed
    | some entries =>
      cases decoded : decode (.table entries) with
      | error m =>
        rw [parse_of_mismatch read decoded] at parsed
        cases parsed
      | ok config =>
        rw [parse_of_decode read decoded] at parsed
        cases valid : config.validate with
        | error e => rw [valid] at parsed; cases parsed
        | ok _ => rw [valid] at parsed; cases parsed; exact ⟨entries, rfl, decoded, valid⟩
  · rintro ⟨entries, read, decoded, valid⟩
    rw [parse_of_decode read decoded, valid]
    rfl

theorem validate_eq_ok_iff :
    c.validate = .ok () ↔
      (∃ filter, Filter.ofGlobs c.exclude = .ok filter) ∧ c.rules.disabled.Nodup := by
  rw [← firstRepeated?_eq_none_iff, validate]
  cases Filter.ofGlobs c.exclude with
  | error bad => simp [bind, Except.bind, Except.mapError]
  | ok filter =>
    cases firstRepeated? c.rules.disabled with
    | none => simp [bind, Except.bind, Except.mapError, pure, Except.pure]
    | some id =>
      simp [bind, Except.bind, Except.mapError, throw, throwThe, MonadExceptOf.throw]

/-- Settings that are read have globs that make a filter. -/
theorem globs_of_parse (parsed : parse text = .ok c) :
    ∃ filter, Filter.ofGlobs c.exclude = .ok filter := by
  obtain ⟨entries, -, -, valid⟩ := parse_eq_ok_iff.1 parsed
  exact (validate_eq_ok_iff.1 valid).1

/-! ## Settings in a file -/

theorem IsWritten.loadOrStandard (written : IsWritten w path text) :
    loadOrStandard w path = parse text := by
  obtain ⟨held, bytes, read, text⟩ := written
  simp [Config.loadOrStandard, held, load, read, text, bind, Except.bind, Except.mapError]

theorem IsWritten.loadOrStandard_of_decoded (written : IsWritten w path text)
    (read : Toml.read text = some entries) (decoded : decode (.table entries) = .ok c) :
    Config.loadOrStandard w path = c.validate.map fun () => c := by
  rw [written.loadOrStandard, parse_of_decode read decoded]

theorem Loads.eq {result : Except ConfigError Config} (loads : Loads w path result) :
    loadOrStandard w path = result := by
  cases loads with
  | absent missing => simp [loadOrStandard, missing]
  | unreadable held failed =>
    simp [loadOrStandard, held, load, failed, bind, Except.bind, Except.mapError]
  | notText held read failed =>
    simp only [loadOrStandard, held, load, read, failed, bind, Except.bind, Except.mapError]
    rfl
  | malformed written failed =>
    simp only [written.loadOrStandard, parse, failed]
    rfl
  | mismatched written read failed =>
    rw [written.loadOrStandard, parse_of_mismatch read failed]
  | badGlob written read decoded failed =>
    rw [written.loadOrStandard_of_decoded read decoded, validate, failed]
    rfl
  | disabledTwice written read decoded globs failed =>
    rw [written.loadOrStandard_of_decoded read decoded, validate, globs]
    simp only [bind, Except.bind, Except.mapError, failed]
    rfl
  | valid written read decoded globs distinct =>
    rw [written.loadOrStandard_of_decoded read decoded, validate, globs]
    simp only [bind, Except.bind, Except.mapError, distinct]
    rfl

theorem exists_loads (w : World) (path : String) : ∃ result, Loads w path result := by
  cases held : w.holds path with
  | false => exact ⟨_, .absent held⟩
  | true =>
    cases bytes : w.read path with
    | error cause => exact ⟨_, .unreadable held bytes⟩
    | ok bytes' =>
      cases text : Text.text? bytes' with
      | none => exact ⟨_, .notText held bytes text⟩
      | some text' =>
        have written : IsWritten w path text' := ⟨held, bytes', bytes, text⟩
        cases read : Toml.read text' with
        | none => exact ⟨_, .malformed written read⟩
        | some entries =>
          cases decoded : decode (.table entries) with
          | error m => exact ⟨_, .mismatched written read decoded⟩
          | ok c =>
            cases globs : Filter.ofGlobs c.exclude with
            | error bad => exact ⟨_, .badGlob written read decoded globs⟩
            | ok filter =>
              cases repeated : firstRepeated? c.rules.disabled with
              | some id => exact ⟨_, .disabledTwice written read decoded globs repeated⟩
              | none => exact ⟨_, .valid written read decoded globs repeated⟩

theorem loads_iff {result : Except ConfigError Config} :
    Loads w path result ↔ loadOrStandard w path = result := by
  refine ⟨Loads.eq, ?_⟩
  rintro rfl
  obtain ⟨result, loads⟩ := exists_loads w path
  exact loads.eq ▸ loads

/-- Settings that are loaded have globs that make a filter. -/
theorem Loads.globs {c : Config} (loads : Loads w path (.ok c)) :
    ∃ filter, Filter.ofGlobs c.exclude = .ok filter := by
  cases loads with
  | absent => exact ⟨_, Filter.ofGlobs_defaultGlobs⟩
  | valid _ _ _ globs => exact ⟨_, globs⟩

end Patrol.Config
