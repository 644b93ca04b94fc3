import Patrol.Proofs.CommandLine.Carried
import Patrol.Proofs.Text.Split
import Patrol.Total

/-! The options that stand in front of a command or behind it. -/
namespace Patrol.CommandLine

/-- An option that every command has, as it can be written: a value in the same word as the option or in
the next, the switch for messages by its long name, or by its short name, followed by itself. -/
inductive SharedOption where
  | color (choice : ColorChoice) (joined : Bool)
  | config (file : String) (joined : Bool)
  | verbose
  | verboseShort (more : Nat)
deriving DecidableEq

namespace SharedOption

def words : SharedOption → List String
  | color choice false => ["--color", choice.name]
  | color choice true => ["--color=" ++ choice.name]
  | config file false => ["--config", file]
  | config file true => ["--config=" ++ file]
  | verbose => ["--verbose"]
  | verboseShort more => [String.ofList ('-' :: List.replicate (more + 1) 'v')]

/-- Whether the words are read as the option at all (`isValid_iff`): no file has an empty name, and what
looks like an option is not taken for a value. -/
def IsValid : SharedOption → Prop
  | config file joined => file ≠ "" ∧ (joined = true ∨ file = "-" ∨ file.toList.head? ≠ some '-')
  | _ => True

instance : DecidablePred IsValid
  | config _ _ => inferInstanceAs (Decidable (_ ∧ _))
  | color _ _ | verbose | verboseShort _ => inferInstanceAs (Decidable True)

def choice? : SharedOption → Option ColorChoice
  | color choice _ => some choice
  | _ => none

def file? : SharedOption → Option String
  | config file _ => some file
  | _ => none

/-- How often the option repeats the switch for messages. -/
def count : SharedOption → Nat
  | verbose => 1
  | verboseShort more => more + 1
  | _ => 0

end SharedOption

open SharedOption

def wordsOf (options : List SharedOption) : List String := options.flatMap SharedOption.words

/-- The switch for messages may be repeated, and no other option. -/
def AtMostOnce (options : List SharedOption) : Prop :=
  (options.filterMap choice?).length ≤ 1 ∧ (options.filterMap file?).length ≤ 1

instance : DecidablePred AtMostOnce := fun _ => inferInstanceAs (Decidable (_ ∧ _))

theorem AtMostOnce.of_append {options more : List SharedOption} (once : AtMostOnce (options ++ more)) :
    AtMostOnce options := by
  simp only [AtMostOnce, List.filterMap_append, List.length_append] at once ⊢
  omega

/-- How often options repeat the switch for messages. -/
def messages (options : List SharedOption) : Nat := total count options

/-- What options give. -/
def givenBy (options : List SharedOption) : Given where
  color := (options.filterMap choice?).head?
  config := (options.filterMap file?).head?
  verbosity := min maxVerbosity (messages options)

section
variable {done : List SharedOption}

theorem setValue_color {choice : ColorChoice} {joined : Bool}
    (once : AtMostOnce (done ++ [.color choice joined])) :
    (givenBy done).setValue .color choice.name = .ok (givenBy (done ++ [.color choice joined])) := by
  have first : done.filterMap choice? = [] := by
    simpa [AtMostOnce, choice?] using once.1
  have named : ColorChoice.ofName? choice.name = some choice := by cases choice <;> rfl
  simp [Given.setValue, givenBy, messages, first, named, choice?, file?, count]

theorem setValue_config {file : String} {joined : Bool} (some : file ≠ "")
    (once : AtMostOnce (done ++ [.config file joined])) :
    (givenBy done).setValue .config file = .ok (givenBy (done ++ [.config file joined])) := by
  have first : done.filterMap file? = [] := by
    simpa [AtMostOnce, file?] using once.2
  simp [Given.setValue, givenBy, messages, first, some, choice?, file?, count]

theorem setSwitch_verbose :
    (givenBy done).setSwitch .verbose = .ok (givenBy (done ++ [.verbose])) := by
  simp [Given.setSwitch, givenBy, messages, choice?, file?, count]
  omega

theorem givenBy_verboseShort {more : Nat} :
    givenBy (done ++ [.verboseShort more]) = givenBy (done ++ List.replicate (more + 1) .verbose) := by
  simp [givenBy, messages, choice?, file?, count]

end

/-! ## One option -/

namespace State
variable {st : State} {g g' : Given} {s : Switch} (level : Level)

theorem readWord_long {word : String} {c : Char} {cs : List Char}
    (long : word.toList = '-' :: '-' :: c :: cs) (options : st.onlyPaths = false) :
    st.readWord level word = st.readLong level (c :: cs) := by
  simp [readWord, options, long]

theorem readLong_bare {name : List Char} (whole : Text.splitAtFirst ['='] name = none)
    (named : level.longNames.lookup (String.ofList name) = some s) :
    st.readLong level name = if s.takesValue then st.await s else st.setSwitch s := by
  cases takes : s.takesValue <;> simp [readLong, whole, named, takes]

theorem readLong_joined {name : List Char} (whole : '=' ∉ name) (value : String)
    (named : level.longNames.lookup (String.ofList name) = some s) (takes : s.takesValue = true) :
    st.readLong level (name ++ '=' :: value.toList) = st.setValue s value := by
  simp [readLong, Text.splitAtFirst_append whole, named, takes]

namespace Settles
variable {level} (settles : Settles st ⟨g, .nothing, false⟩)
include settles

theorem setValue {value : String} (done : g.setValue s value = .ok g') :
    st.setValue s value = .ok ⟨g', .nothing, false⟩ := by
  simp only [State.setValue, settles.settle]
  simp only [bind, Except.bind, done]
  rfl

theorem setSwitch (done : g.setSwitch s = .ok g') :
    st.setSwitch s = .ok ⟨g', .nothing, false⟩ := by
  simp only [State.setSwitch, settles.settle]
  simp only [bind, Except.bind, done]
  rfl

theorem await : st.await s = .ok ⟨g, .value s none, false⟩ := by
  simp only [State.await, settles.settle]
  rfl

end Settles

/-- The word behind an option that needs a value. -/
theorem readWord_value {value : String} (plain : value = "-" ∨ value.toList.head? ≠ some '-') :
    State.readWord level ⟨g, .value s none, false⟩ value = .ok ⟨g, .value s (some value), false⟩ := by
  obtain rfl | plain := plain
  · rfl
  · unfold readWord
    split
    · contradiction
    · split
      all_goals simp_all

namespace Settles
variable {level} (settles : Settles st ⟨g, .nothing, false⟩)
include settles

/-- An option with its value in the next word. -/
theorem name {word : String} {c : Char} {cs : List Char}
    (long : word.toList = '-' :: '-' :: c :: cs) (whole : Text.splitAtFirst ['='] (c :: cs) = none)
    (named : level.longNames.lookup (String.ofList (c :: cs)) = some s) (takes : s.takesValue = true) :
    st.readWord level word = .ok ⟨g, .value s none, false⟩ := by
  rw [readWord_long level long settles.onlyPaths, readLong_bare level whole named, if_pos takes,
    settles.await]

theorem nameAndValue {word value : String} {c : Char} {cs : List Char}
    (long : word.toList = '-' :: '-' :: c :: cs) (whole : Text.splitAtFirst ['='] (c :: cs) = none)
    (named : level.longNames.lookup (String.ofList (c :: cs)) = some s) (takes : s.takesValue = true)
    (plain : value = "-" ∨ value.toList.head? ≠ some '-') :
    [word, value].foldlM (State.readWord level) st = .ok ⟨g, .value s (some value), false⟩ := by
  have first := settles.name long whole named takes
  have second := readWord_value level (g := g) (s := s) plain
  simp only [List.foldlM_cons, List.foldlM_nil, first]
  simp only [bind, Except.bind, second]
  rfl

/-- An option with its value in the same word. -/
theorem joined {word value : String} {c : Char} {cs : List Char}
    (long : word.toList = '-' :: '-' :: c :: (cs ++ '=' :: value.toList)) (whole : '=' ∉ c :: cs)
    (named : level.longNames.lookup (String.ofList (c :: cs)) = some s) (takes : s.takesValue = true)
    (done : g.setValue s value = .ok g') :
    [word].foldlM (State.readWord level) st = .ok ⟨g', .nothing, false⟩ := by
  have read : st.readWord level word = .ok ⟨g', .nothing, false⟩ :=
    (readWord_long level long settles.onlyPaths).trans
      ((readLong_joined level whole value named takes).trans (settles.setValue done))
  rw [List.foldlM_cons, read]
  rfl

end Settles

theorem readShort_verbose (done : List SharedOption) (n : Nat) :
    State.readShort level ⟨givenBy done, .nothing, false⟩ (List.replicate n 'v') =
      .ok ⟨givenBy (done ++ List.replicate n .verbose), .nothing, false⟩ := by
  have named : level.shortNames.lookup 'v' = some .verbose := by cases level <;> rfl
  induction n generalizing done with
  | zero => simp [readShort]
  | succ n ih =>
    have first := Settles.setSwitch (.nothing (givenBy done) false) setSwitch_verbose
    simp only [List.replicate_succ, readShort, named]
    simp only [Switch.takesValue, Bool.false_eq_true, if_false, first]
    rw [List.append_cons _ _ (List.replicate n _)]
    exact ih _

/-- An option of all commands does on every level what it is for. -/
theorem readOption {done : List SharedOption} {o : SharedOption}
    (settles : Settles st ⟨givenBy done, .nothing, false⟩) (valid : o.IsValid)
    (once : AtMostOnce (done ++ [o])) :
    ∃ st', o.words.foldlM (readWord level) st = .ok st' ∧
      Settles st' ⟨givenBy (done ++ [o]), .nothing, false⟩ := by
  have color : level.longNames.lookup "color" = some .color := by cases level <;> rfl
  have config : level.longNames.lookup "config" = some .config := by cases level <;> rfl
  have verbose : level.longNames.lookup "verbose" = some .verbose := by cases level <;> rfl
  cases o with
  | color choice joined =>
    have done := setValue_color once
    cases joined with
    | false =>
      have plain : choice.name.toList.head? ≠ some '-' := by cases choice <;> decide
      exact ⟨_, settles.nameAndValue rfl rfl color rfl (.inr plain), .value _ done⟩
    | true =>
      exact ⟨_, settles.joined (by simp) (by decide) color rfl done, .nothing _ _⟩
  | config file joined =>
    have done := setValue_config valid.1 once
    cases joined with
    | false =>
      exact ⟨_, settles.nameAndValue rfl rfl config rfl (valid.2.resolve_left nofun), .value _ done⟩
    | true =>
      exact ⟨_, settles.joined (by simp) (by decide) config rfl done, .nothing _ _⟩
  | verbose =>
    have read : st.readWord level "--verbose" = .ok ⟨givenBy (done ++ [.verbose]), .nothing, false⟩ :=
      (readWord_long level rfl settles.onlyPaths).trans
        ((readLong_bare level rfl verbose).trans (settles.setSwitch setSwitch_verbose))
    exact ⟨_, by simp only [SharedOption.words, List.foldlM_cons, read]; rfl, .nothing _ _⟩
  | verboseShort more =>
    have read : st.readWord level (String.ofList ('-' :: List.replicate (more + 1) 'v')) =
        st.readShort level (List.replicate (more + 1) 'v') := by
      simp [readWord, settles.onlyPaths, List.replicate_succ]
    have same := settles.readShort_cons level 'v' (List.replicate more 'v')
    rw [← List.replicate_succ, readShort_verbose] at same
    refine ⟨_, ?_, .nothing _ _⟩
    simp only [SharedOption.words, List.foldlM_cons, read, same]
    rw [givenBy_verboseShort]
    rfl

/-! ## Several options -/

/-- Options of all commands do on every level what they are for. -/
theorem readOptions {done options : List SharedOption}
    (settles : Settles st ⟨givenBy done, .nothing, false⟩) (valid : ∀ o ∈ options, o.IsValid)
    (once : AtMostOnce (done ++ options)) :
    ∃ st', (wordsOf options).foldlM (readWord level) st = .ok st' ∧
      Settles st' ⟨givenBy (done ++ options), .nothing, false⟩ := by
  -- over the options, for all that was read before them
  induction options generalizing st done with
  | nil => exact ⟨st, rfl, by simpa using settles⟩
  | cons o options ih =>
    obtain ⟨fine, valid⟩ := List.forall_mem_cons.1 valid
    rw [List.append_cons] at once ⊢
    obtain ⟨st₁, read, settles⟩ := readOption level settles fine once.of_append
    obtain ⟨st₂, reads, settles⟩ := ih settles valid once
    refine ⟨st₂, ?_, settles⟩
    rw [wordsOf, List.flatMap_cons, List.foldlM_append, read]
    exact reads

end State

/-! ## Valid options -/

namespace State
variable {st : State} {e : Error} (level : Level)

theorem readLong_of_unsettled (failed : st.settle = .error e) (cs : List Char) :
    (st.readLong level cs).isOk = false := by
  unfold readLong
  split
  next name value _ =>
  cases level.longNames.lookup (String.ofList name) with
  | none => rfl
  | some s =>
    cases takes : s.takesValue <;> cases value <;>
      simp only [takes, setValue, await, setSwitch, failed] <;> rfl

theorem readShort_of_unsettled (failed : st.settle = .error e) (c : Char) (cs : List Char) :
    (st.readShort level (c :: cs)).isOk = false := by
  unfold readShort
  cases level.shortNames.lookup c with
  | none => rfl
  | some s =>
    simp only [setValue, await, setSwitch, failed]
    split
    · split <;> rfl
    · rfl

/-- What looks like an option is not taken for a value. -/
theorem finish_of_dash {g : Given} {s : Switch} {word : String} (other : word ≠ "-")
    (dash : word.toList.head? = some '-') :
    (finish level ⟨g, .value s none, false⟩ [word]).isOk = false := by
  have failed : settle ⟨g, .value s none, false⟩ = .error .badValue := rfl
  have fails {r : Except Error State} (failed : r.isOk = false) : (r >>= settle).isOk = false := by
    cases r with
    | error e => rfl
    | ok st => cases failed
  simp only [finish, List.foldlM_cons, List.foldlM_nil, bind_pure]
  unfold readWord
  split
  · contradiction
  · split
    · rfl
    · exact fails (readLong_of_unsettled level failed _)
    · exact fails (readShort_of_unsettled level failed _ _)
    · next short =>
      obtain ⟨cs, shape⟩ := List.head?_eq_some_iff.1 dash
      cases cs with
      | nil => exact absurd (String.toList_inj.1 (shape.trans rfl)) other
      | cons c cs => exact (short c cs shape).elim

end State

/-- The words of an option are read, on whatever level, exactly if it is valid. -/
theorem isValid_iff (level : Level) (o : SharedOption) :
    o.IsValid ↔ (State.finish level {} o.words).isOk = true := by
  constructor
  · intro valid
    have once : AtMostOnce ([] ++ [o]) :=
      ⟨List.length_filterMap_le _ _, List.length_filterMap_le _ _⟩
    obtain ⟨st, reads, settles⟩ :=
      State.readOption level (.nothing (givenBy []) false) valid once
    have done : State.finish level {} o.words = .ok _ :=
      (congrArg (· >>= State.settle) reads).trans settles.settle
    rw [done]
    rfl
  · intro reads
    cases o with
    | config file joined =>
      have some : file ≠ "" := by
        rintro rfl
        cases joined <;> cases level <;> cases reads
      refine ⟨some, or_iff_not_imp_left.2 fun apart => ?_⟩
      cases joined with
      | true => exact absurd rfl apart
      | false =>
        have named : State.readWord level {} "--config" = .ok ⟨{}, .value .config none, false⟩ := by
          cases level <;> rfl
        have reads : (State.finish level ⟨{}, .value .config none, false⟩ [file]).isOk = true := by
          cases level <;> exact reads
        by_contra dash
        obtain ⟨other, dash⟩ := not_or.1 dash
        rw [State.finish_of_dash level other (not_not.1 dash)] at reads
        cases reads
    | _ => trivial

/-! ## In front of a command -/

section
variable {st st' : State} {word : String}

theorem isCommand_eq_false (dash : word.toList.head? = some '-') :
    ((Level.ofCommand? word).isSome || word == "help") = false := by
  have other (name : String) (plain : name.toList.head? ≠ some '-') : word ≠ name := by
    rintro rfl
    exact plain dash
  simp [Level.ofCommand?, other "check" (by decide), other "list" (by decide),
    other "init" (by decide), other "help" (by decide)]

theorem splitCommand_cons (reads : st.readWord .front word = .ok st') (words : List String)
    (option : word.toList.head? = some '-' ∨ st.awaitsValue = true) :
    splitCommand st (word :: words) = splitCommand st' words := by
  obtain dash | awaits := option
  · have other := isCommand_eq_false dash
    simp only [splitCommand, other, reads]
    rfl
  · simp only [splitCommand, awaits, reads, Bool.not_true, Bool.and_false, Bool.false_eq_true, if_false]
    rfl

theorem splitCommand_option {g : Given} {o : SharedOption}
    (settles : State.Settles st ⟨g, .nothing, false⟩)
    (reads : o.words.foldlM (State.readWord .front) st = .ok st') (words : List String) :
    splitCommand st (o.words ++ words) = splitCommand st' words := by
  have single {word : String} (dash : word.toList.head? = some '-')
      (reads : [word].foldlM (State.readWord .front) st = .ok st') :
      splitCommand st (word :: words) = splitCommand st' words :=
    splitCommand_cons (by simpa using reads) words (.inl dash)
  have double {word value : String} {s : Switch} (dash : word.toList.head? = some '-')
      (named : st.readWord .front word = .ok ⟨g, .value s none, false⟩)
      (reads : [word, value].foldlM (State.readWord .front) st = .ok st') :
      splitCommand st (word :: value :: words) = splitCommand st' words := by
    rw [List.foldlM_cons, named] at reads
    replace reads : [value].foldlM (State.readWord .front) ⟨g, .value s none, false⟩ = .ok st' := reads
    rw [splitCommand_cons named _ (.inl dash)]
    exact splitCommand_cons (by simpa using reads) words (.inr rfl)
  cases o with
  | color choice joined =>
    cases joined with
    | false => exact double rfl (settles.name rfl rfl rfl rfl) reads
    | true => exact single (by simp) reads
  | config file joined =>
    cases joined with
    | false => exact double rfl (settles.name rfl rfl rfl rfl) reads
    | true => exact single (by simp) reads
  | verbose => exact single rfl reads
  | verboseShort more => exact single (by simp) reads

/-- The words of options are not taken for a command. -/
theorem splitCommand_options {done options : List SharedOption}
    (settles : State.Settles st ⟨givenBy done, .nothing, false⟩)
    (valid : ∀ o ∈ options, o.IsValid) (once : AtMostOnce (done ++ options)) :
    ∃ st', State.Settles st' ⟨givenBy (done ++ options), .nothing, false⟩ ∧
      ∀ words, splitCommand st (wordsOf options ++ words) = splitCommand st' words := by
  induction options generalizing st done with
  | nil => exact ⟨st, by simpa using settles, fun _ => rfl⟩
  | cons o options ih =>
    obtain ⟨fine, valid⟩ := List.forall_mem_cons.1 valid
    rw [List.append_cons] at once ⊢
    obtain ⟨st₁, read, settles₁⟩ := State.readOption .front settles fine once.of_append
    obtain ⟨st₂, settles₂, same⟩ := ih settles₁ valid once
    refine ⟨st₂, settles₂, fun words => ?_⟩
    rw [wordsOf, List.flatMap_cons, List.append_assoc, splitCommand_option settles read]
    exact same words

end

/-! ## Behind a command -/

theorem over_initial (options : List SharedOption) :
    State.over (givenBy options) {} = ⟨givenBy options, .nothing, false⟩ := by
  simp [State.over, Given.over, givenBy]

/-- Words behind options of all commands do what they do alone, on top of what the options give. -/
theorem readLevel_options {level : Level} {rest : List String} {own : Given}
    (alone : readLevel level rest = .ok own) {options : List SharedOption}
    (valid : ∀ o ∈ options, o.IsValid) (once : AtMostOnce options) :
    Ontop (givenBy options) own (readLevel level (wordsOf options ++ rest)) := by
  obtain ⟨st, reads, settles⟩ :=
    State.readOptions level (.nothing (givenBy []) false) valid once
  have same : State.finish level {} (wordsOf options ++ rest) =
      State.finish level (State.over (givenBy options) {}) rest := by
    rw [over_initial, ← (show State.Settles st ⟨givenBy options, .nothing, false⟩ from settles).finish,
      State.finish, List.foldlM_append]
    exact congrArg (· >>= (List.foldlM (State.readWord level) · rest) >>= State.settle) reads
  rw [readLevel_eq] at alone ⊢
  obtain ⟨st', done, alone⟩ := bind_eq_ok_iff.1 alone
  have strictness : (st'.given.strict && st'.given.noStrict) = false ∧ st'.given = own := by
    split at alone
    · cases alone
    · next consistent => exact ⟨Bool.eq_false_iff.2 consistent, Except.ok.inj alone⟩
  obtain ⟨consistent, rfl⟩ := strictness
  have whole : CarriesState (givenBy options) (State.finish level · rest) := .finish level rest
  obtain ⟨-, carries⟩ := whole {} st' done
  rw [same]
  obtain ⟨clash, failed⟩ | ⟨apart, done⟩ := carries (by simp [Clash])
  · exact .inl ⟨clash, by simp only [failed]; rfl⟩
  · refine .inr ⟨apart, ?_⟩
    simp only [done]
    show (if (st'.given.strict && st'.given.noStrict) = true then _ else _) = _
    rw [consistent]
    rfl

end Patrol.CommandLine
