import Patrol.Proofs.CommandLine.Settled
import Patrol.Proofs.Results

/-! Reading the words behind a command on top of what is given already. What words give by themselves
they give there too, unless they give again what can be given once. -/
namespace Patrol.CommandLine

/-! ## One on top of the other -/

/-- What is given by words on top of what was given before: of colours and of the file with the settings
only what the words themselves give, if they do, and all repetitions of the switch for messages. -/
def Given.over (base own : Given) : Given :=
  { own with
    color := own.color <|> base.color
    config := own.config <|> base.config
    verbosity := min maxVerbosity (base.verbosity + own.verbosity) }

/-- Whether something is given twice that can be given once. -/
def Clash (base own : Given) : Prop :=
  (base.color.isSome = true ∧ own.color.isSome = true) ∨
    (base.config.isSome = true ∧ own.config.isSome = true)

instance (base own : Given) : Decidable (Clash base own) :=
  inferInstanceAs (Decidable (_ ∨ _))

/-- What becomes of something that gave `own`, on top of what is given. -/
def Ontop (base own : Given) (result : Except Error Given) : Prop :=
  (Clash base own ∧ result = .error .conflict) ∨ (¬Clash base own ∧ result = .ok (base.over own))

/-- Whether a step does on top of what is given what it does by itself, or fails because of a clash, and
never undoes a clash. -/
def Carries (base : Given) (f : Given → Except Error Given) : Prop :=
  ∀ g g', f g = .ok g' →
    (Clash base g → Clash base g') ∧ (¬Clash base g → Ontop base g' (f (base.over g)))

variable {base : Given}

theorem carries_setValue (s : Switch) (value : String) : Carries base (·.setValue s value) := by
  intro g g' done
  cases s with
  | color =>
    simp only [Given.setValue] at done
    split at done
    · cases done
    · split at done
      · next named =>
        cases done
        simp only [Ontop, Clash, Given.over, Given.setValue, named]
        cases own : g.color <;> cases given : base.color <;> simp_all
      · cases done
  | config =>
    simp only [Given.setValue] at done
    split at done
    · cases done
    · split at done
      · cases done
      · next some =>
        cases done
        simp only [Ontop, Clash, Given.over, Given.setValue, some]
        cases own : g.config <;> cases given : base.config <;> simp_all
  | format =>
    simp only [Given.setValue] at done
    split at done
    · cases done
    · next none =>
      split at done
      · next named =>
        cases done
        simp [Ontop, Clash, Given.over, Given.setValue, named, none]
      · cases done
  | _ => cases done

theorem carries_setSwitch (s : Switch) : Carries base (·.setSwitch s) := by
  intro g g' done
  cases s with
  | verbose =>
    cases done
    simp only [Ontop, Clash, Given.over, Given.setSwitch]
    grind
  | strict | noStrict | force =>
    simp only [Given.setSwitch] at done
    split at done
    · cases done
    · next none =>
      cases done
      simp [Ontop, Clash, Given.over, Given.setSwitch, none]
  | _ => cases done

theorem carries_addPaths (paths : List String) : Carries base (·.addPaths paths) := by
  intro g g' done
  simp only [Given.addPaths] at done
  split at done
  · cases done
  · next none =>
    cases done
    simp only [Ontop, Clash, Given.over, Given.addPaths, none]
    grind

/-! ## Words -/

def State.over (base : Given) (st : State) : State := { st with given := base.over st.given }

/-- The same for what is done to a state. -/
def CarriesAt (base : Given) (f : State → Except Error State) (st : State) : Prop :=
  ∀ st', f st = .ok st' →
    (Clash base st.given → Clash base st'.given) ∧
    (¬Clash base st.given →
      (Clash base st'.given ∧ f (st.over base) = .error .conflict) ∨
        (¬Clash base st'.given ∧ f (st.over base) = .ok (st'.over base)))

def CarriesState (base : Given) (f : State → Except Error State) : Prop := ∀ st, CarriesAt base f st

theorem CarriesState.at {f h : State → Except Error State} (carries : CarriesState base h)
    {st : State} (here : f st = h st) (there : f (st.over base) = h (st.over base)) :
    CarriesAt base f st := by
  unfold CarriesAt
  rw [here, there]
  exact carries st

namespace CarriesState
variable {f h : State → Except Error State}

theorem bind (first : CarriesState base f) (next : CarriesState base h) :
    CarriesState base fun st => f st >>= h := by
  intro st st'' done
  obtain ⟨st', once, done⟩ := bind_eq_ok_iff.1 done
  obtain ⟨keeps, carries⟩ := first st st' once
  obtain ⟨keeps', carries'⟩ := next st' st'' done
  refine ⟨keeps' ∘ keeps, fun apart => ?_⟩
  simp only
  obtain ⟨clash, failed⟩ | ⟨apart', same⟩ := carries apart
  · exact .inl ⟨keeps' clash, by rw [failed]; rfl⟩
  · rw [same]
    exact carries' apart'

/-- What is changed besides what is given. -/
theorem change {f : State → State} (kept : ∀ st, (f st).given = st.given)
    (carried : ∀ st, f (st.over base) = (f st).over base) :
    CarriesState base fun st => .ok (f st) := by
  rintro st _ ⟨⟩
  simp only [kept]
  exact ⟨id, fun apart => .inr ⟨apart, congrArg _ (carried st)⟩⟩

theorem fails (e : Error) : CarriesState base fun _ => .error e :=
  fun _ _ => nofun

theorem given {f : Given → Except Error Given} (carries : Carries base f) :
    CarriesState base fun st => do return { st with given := ← f st.given } := by
  intro st st' done
  obtain ⟨g', once, ⟨⟩⟩ := bind_eq_ok_iff.1 done
  obtain ⟨keeps, carries⟩ := carries _ g' once
  refine ⟨keeps, fun apart => ?_⟩
  obtain ⟨clash, failed⟩ | ⟨apart', same⟩ := carries apart
  · exact .inl ⟨clash, by simp only [State.over, failed]; rfl⟩
  · exact .inr ⟨apart', by simp only [State.over, same]; rfl⟩

theorem settle : CarriesState base State.settle := by
  rintro ⟨g, pending, onlyPaths⟩ st' done
  cases pending with
  | nothing =>
    cases done
    exact ⟨id, fun apart => .inr ⟨apart, rfl⟩⟩
  | value s value =>
    cases value with
    | none => cases done
    | some v => exact given (carries_setValue s v) { given := g, onlyPaths } st' done
  | paths paths => exact given (carries_addPaths paths) { given := g, onlyPaths } st' done

theorem setSwitch (s : Switch) : CarriesState base (·.setSwitch s) :=
  settle.bind (given (carries_setSwitch s))

theorem setValue (s : Switch) (value : String) : CarriesState base (·.setValue s value) :=
  settle.bind (given (carries_setValue s value))

theorem await (s : Switch) : CarriesState base (·.await s) :=
  settle.bind (change (f := fun st => { st with pending := .value s none }) (fun _ => rfl) fun _ => rfl)

theorem readLong (level : Level) (word : List Char) :
    CarriesState base (State.readLong level · word) := by
  unfold State.readLong
  split
  next name value _ =>
  cases level.longNames.lookup (String.ofList name) with
  | none => exact fails _
  | some s =>
    cases hs : s.takesValue <;> cases value
    · simpa [hs] using setSwitch s
    · simp only [hs]
      exact fails _
    · simpa [hs] using await s
    · simpa [hs] using setValue s _

theorem readShort (level : Level) (cs : List Char) :
    CarriesState base (State.readShort level · cs) := by
  induction cs with
  | nil => exact change (f := id) (fun _ => rfl) fun _ => rfl
  | cons c cs ih =>
    -- the switch itself, and then, if it needs no value, the characters behind it
    unfold State.readShort
    cases level.shortNames.lookup c with
    | none => exact fails _
    | some s =>
      cases hs : s.takesValue with
      | false => simpa [hs] using (setSwitch s).bind ih
      | true =>
        simp only [hs, if_true]
        split
        · exact await s
        · exact setValue s _
        · exact setValue s _

theorem readPath (level : Level) (word : String) :
    CarriesState base (State.readPath level · word) := by
  rintro ⟨g, pending, onlyPaths⟩
  have begun : CarriesState base fun st => st.settle >>= _ := settle.bind
    (change (f := fun st => { st with pending := .paths [word] }) (fun _ => rfl) fun _ => rfl)
  cases level with
  | check =>
    cases pending with
    | paths paths =>
      exact (change (f := fun st => { st with pending := .paths (paths ++ [word]) })
        (fun _ => rfl) fun _ => rfl).at rfl rfl
    | _ => exact begun.at rfl rfl
  | _ => exact (fails _).at rfl rfl

theorem readPlain (level : Level) (word : String) :
    CarriesState base (State.readPlain level · word) := by
  rintro ⟨g, pending, onlyPaths⟩
  rcases pending with _ | ⟨s, _ | v⟩ | paths
  case value.none =>
    exact (change (f := fun st => { st with pending := .value s (some word) })
      (fun _ => rfl) fun _ => rfl).at rfl rfl
  all_goals exact (readPath level word).at rfl rfl

theorem readWord (level : Level) (word : String) :
    CarriesState base (State.readWord level · word) := by
  rintro ⟨g, pending, onlyPaths⟩
  cases onlyPaths with
  | true => exact (readPath level word).at rfl rfl
  | false =>
    obtain same | ⟨cs, same⟩ | ⟨cs, same⟩ | same := State.readWord_shape word
    · exact (change (f := fun st => { st with onlyPaths := true }) (fun _ => rfl) fun _ => rfl).at
        (same level _ rfl) (same level _ rfl)
    · exact (readLong level cs).at (same level _ rfl) (same level _ rfl)
    · exact (readShort level cs).at (same level _ rfl) (same level _ rfl)
    · exact (readPlain level word).at (same level _ rfl) (same level _ rfl)

theorem foldlM {α : Type} {step : State → α → Except Error State}
    (each : ∀ x, CarriesState base (step · x)) (xs : List α) :
    CarriesState base fun st => xs.foldlM step st := by
  induction xs with
  | nil => exact change (f := id) (fun _ => rfl) fun _ => rfl
  | cons x xs ih =>
    simp only [List.foldlM_cons]
    exact (each x).bind ih

end CarriesState

/-! ## All words of a level -/

theorem CarriesState.finish (level : Level) (words : List String) :
    CarriesState base (State.finish level · words) :=
  (CarriesState.foldlM (CarriesState.readWord level) words).bind CarriesState.settle

end Patrol.CommandLine
