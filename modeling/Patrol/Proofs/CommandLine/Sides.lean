import Patrol.Proofs.CommandLine.Options

/-! Options in front of a command and options behind it. -/
namespace Patrol.CommandLine

/-! ## A command with options on both sides -/

section
variable {sub : String} {level : Level} {rest : List String} {own : Given}

/-- What is read of a command, from what stands behind it and what stands in front of it. -/
def Given.asked (level : Level) (behind front : Given) : CommandLine where
  command := behind.command level
  color := (behind.color <|> front.color).getD .auto
  verbosity := if behind.verbosity == 0 then front.verbosity else behind.verbosity
  config := (behind.config <|> front.config).getD standardConfig

theorem read_options (named : Level.ofCommand? sub = some level) {front : List SharedOption}
    (valid : ∀ o ∈ front, o.IsValid) (once : AtMostOnce front) (words : List String) :
    read (wordsOf front ++ sub :: words) =
      (Given.asked level · (givenBy front)) <$> readLevel level words := by
  obtain ⟨st, settles, same⟩ := splitCommand_options (.nothing (givenBy []) false) valid once
  have split : splitCommand {} (wordsOf front ++ sub :: words) = .ok (st, some (sub, words)) := by
    refine (same _).trans ?_
    have waits : st.awaitsValue = false := by cases settles <;> rfl
    simp [splitCommand, named, waits, settles.onlyPaths]
  simp only [read, split]
  simp only [bind, Except.bind, named, settles.settle]
  cases readLevel level words <;> rfl

theorem read_command (named : Level.ofCommand? sub = some level) (words : List String) :
    read (sub :: words) = (Given.asked level · {}) <$> readLevel level words :=
  have once : AtMostOnce [] := by decide
  read_options named (List.forall_mem_nil _) once words

end

/-! ## Options on either side -/

section
variable {all front behind : List SharedOption}

theorem AtMostOnce.perm (once : AtMostOnce all) (split : all.Perm behind) : AtMostOnce behind := by
  simpa [AtMostOnce, (split.filterMap _).length_eq] using once

theorem head?_perm {α : Type} {xs ys : List α} (once : xs.length ≤ 1) (perm : xs.Perm ys) :
    xs.head? = ys.head? := by
  match xs, once with
  | [], _ => rw [perm.nil_eq]
  | [x], _ => rw [List.singleton_perm.1 perm]

theorem head?_append_swap {α : Type} {xs ys : List α} (once : (xs ++ ys).length ≤ 1) :
    (ys.head? <|> xs.head?) = (xs ++ ys).head? := by
  rcases xs with _ | ⟨x, xs⟩ <;> rcases ys with _ | ⟨y, ys⟩ <;> simp at once ⊢

/-- What options give does not depend on their order. -/
theorem givenBy_perm (once : AtMostOnce all) (split : all.Perm behind) :
    givenBy all = givenBy behind := by
  simp only [givenBy, messages, head?_perm once.1 (split.filterMap _),
    head?_perm once.2 (split.filterMap _), total_perm SharedOption.count split]

theorem color_append (once : AtMostOnce (front ++ behind)) :
    ((givenBy behind).color <|> (givenBy front).color) = (givenBy (front ++ behind)).color := by
  simpa only [givenBy, List.filterMap_append] using head?_append_swap (by simpa using once.1)

theorem config_append (once : AtMostOnce (front ++ behind)) :
    ((givenBy behind).config <|> (givenBy front).config) = (givenBy (front ++ behind)).config := by
  simpa only [givenBy, List.filterMap_append] using head?_append_swap (by simpa using once.2)

theorem Clash.append {own : Given} (clash : Clash (givenBy behind) own) :
    Clash (givenBy (front ++ behind)) own := by
  refine clash.imp (fun ⟨given, own⟩ => ⟨?_, own⟩) fun ⟨given, own⟩ => ⟨?_, own⟩
  · rw [givenBy, List.filterMap_append, List.head?_append, Option.isSome_or]
    exact Bool.or_eq_true_iff.2 (.inr given)
  · rw [givenBy, List.filterMap_append, List.filterMap_append, List.head?_append, List.head?_append,
      Option.isSome_or]
    exact Bool.or_eq_true_iff.2 (.inr given)

end

/-! ## All splits of the options -/

/-- What a command line asks for with options of all commands besides what stands behind its command
already. -/
def withOptions (c : CommandLine) (own : Given) (options : List SharedOption) (verbosity : Nat) :
    CommandLine :=
  { c with
    color := (own.color <|> (givenBy options).color).getD .auto
    config := (own.config <|> (givenBy options).config).getD standardConfig
    verbosity := min maxVerbosity verbosity }

theorem withOptions_inj {c : CommandLine} {own : Given} {options : List SharedOption} {m n : Nat} :
    c.withOptions own options m = c.withOptions own options n ↔
      min maxVerbosity m = min maxVerbosity n := by
  simp [withOptions]

section
variable {sub : String} {level : Level} {rest : List String} {alone : CommandLine}
  {all front behind : List SharedOption}

/-- Options behind a command count more than options in front of it, and less than what stands behind the
command already; but there is only one of each. -/
theorem asked_over (own : Given) (once : AtMostOnce (front ++ behind)) :
    ((givenBy behind).over own).asked level (givenBy front) =
      withOptions (own.asked level {}) own (front ++ behind)
        (if messages behind + own.verbosity = 0 then messages front
        else messages behind + own.verbosity) := by
  have command : ((givenBy behind).over own).command level = own.command level := by
    cases level <;> rfl
  simp only [Given.asked, withOptions, command, ← color_append once, ← config_append once]
  simp only [Given.over, givenBy, CommandLine.mk.injEq, true_and]
  refine ⟨?_, ?_, ?_⟩
  · simp
  · -- repetitions in front count only if there are none behind, whatever is cut off at the most
    simp only [maxVerbosity, beq_iff_eq]
    split <;> split <;> omega
  · simp

theorem read_around {own : Given} (named : Level.ofCommand? sub = some level)
    (reads : readLevel level rest = .ok own) (valid : ∀ o ∈ front ++ behind, o.IsValid)
    (once : AtMostOnce (front ++ behind)) :
    read (wordsOf front ++ sub :: (wordsOf behind ++ rest)) =
      if Clash (givenBy behind) own then .error .conflict
      else .ok (withOptions (own.asked level {}) own (front ++ behind)
        (if messages behind + own.verbosity = 0 then messages front
        else messages behind + own.verbosity)) := by
  have once' : AtMostOnce behind := (once.perm List.perm_append_comm).of_append
  rw [read_options named (fun o h => valid o (List.mem_append_left _ h)) once.of_append]
  obtain ⟨clash, behind⟩ | ⟨apart, behind⟩ :=
    readLevel_options reads (fun o h => valid o (List.mem_append_right _ h)) once'
  · rw [if_pos clash, behind]
    rfl
  · rw [if_neg apart, behind]
    exact congrArg Except.ok (asked_over own once)

theorem read_behind {own : Given} (named : Level.ofCommand? sub = some level)
    (reads : readLevel level rest = .ok own) (valid : ∀ o ∈ all, o.IsValid) (once : AtMostOnce all) :
    read (sub :: (wordsOf all ++ rest)) =
      if Clash (givenBy all) own then .error .conflict
      else .ok (withOptions (own.asked level {}) own all (messages all + own.verbosity)) := by
  have total :
      (if messages all + own.verbosity = 0 then messages [] else messages all + own.verbosity) =
        messages all + own.verbosity := by
    split
    · next none => exact none.symm
    · rfl
  have once : AtMostOnce ([] ++ all) := once
  have reads := read_around named reads valid once
  rwa [total] at reads

/-- Whatever options of all commands stand in front of a command and the others behind it, they ask for
the same, with two exceptions. If the switch for messages stands on both sides, only the repetitions
behind the command are counted. And what the words of the command give again is a conflict only with
options behind the command; it counts more than options in front of it. -/
theorem read_sides (named : Level.ofCommand? sub = some level) (reads : read (sub :: rest) = .ok alone)
    (split : all.Perm (front ++ behind)) (valid : ∀ o ∈ all, o.IsValid) (once : AtMostOnce all) :
    ∃ own, readLevel level rest = .ok own ∧
      read (sub :: (wordsOf all ++ rest)) =
        (if Clash (givenBy all) own then .error .conflict
        else .ok (withOptions alone own all (messages all + alone.verbosity))) ∧
      read (wordsOf front ++ sub :: (wordsOf behind ++ rest)) =
        (if Clash (givenBy behind) own then .error .conflict
        else .ok (withOptions alone own all
          (if messages behind + alone.verbosity = 0 then messages front
          else messages behind + alone.verbosity))) ∧
      (Clash (givenBy behind) own → Clash (givenBy all) own) ∧
      (read (wordsOf front ++ sub :: (wordsOf behind ++ rest)) = read (sub :: (wordsOf all ++ rest)) ↔
        Clash (givenBy behind) own ∨
          ¬Clash (givenBy all) own ∧
            (messages front = 0 ∨ messages behind + alone.verbosity = 0 ∨
              maxVerbosity ≤ messages behind + alone.verbosity)) := by
  obtain ⟨own, behaves, rfl⟩ : ∃ own, readLevel level rest = .ok own ∧ own.asked level {} = alone := by
    rw [read_command named] at reads
    cases result : readLevel level rest with
    | error e => rw [result] at reads; cases reads
    | ok own => rw [result] at reads; exact ⟨own, rfl, Except.ok.inj reads⟩
  have verbosity : (own.asked level {}).verbosity = own.verbosity := by
    simp only [Given.asked, beq_iff_eq]
    split <;> simp_all
  have sides := read_around named behaves (fun o h => valid o (split.mem_iff.2 h)) (once.perm split)
  have same : withOptions (own.asked level {}) own (front ++ behind) =
      withOptions (own.asked level {}) own all := by
    funext verbosity
    simp only [withOptions, givenBy_perm once split]
  have clash : Clash (givenBy behind) own → Clash (givenBy all) own := by
    rw [givenBy_perm once split]
    exact Clash.append
  have sum : messages all = messages front + messages behind := by
    rw [messages, total_perm SharedOption.count split, total_append, messages, messages]
  rw [verbosity, sides, read_behind named behaves valid once, same]
  refine ⟨own, behaves, rfl, rfl, clash, ?_⟩
  -- a conflict either way, or only with all options behind the command, or none: then only the
  -- repetitions can differ
  by_cases onBoth : Clash (givenBy behind) own
  · simp [onBoth, clash onBoth]
  · by_cases given : Clash (givenBy all) own
    · simp [onBoth, given]
    · simp only [onBoth, given, if_false, false_or, not_false_eq_true, true_and, Except.ok.injEq]
      rw [withOptions_inj, sum, maxVerbosity]
      split <;> omega

end

theorem read_sides_check :
    let front := [.color .never false, .verboseShort 1]
    let behind := [.config "ci/police.toml" true]
    let rest := ["src", "--strict"]
    let alone : CommandLine := ⟨.check ["src"] (some true), .auto, 0, "police.toml"⟩
    Level.ofCommand? "check" = some .check ∧ read ("check" :: rest) = .ok alone ∧
      (front ++ behind).Perm (front ++ behind) ∧ (∀ o ∈ front ++ behind, o.IsValid) ∧
      AtMostOnce (front ++ behind) ∧
      read (wordsOf front ++ "check" :: (wordsOf behind ++ rest)) =
        read ("check" :: (wordsOf (front ++ behind) ++ rest)) ∧
      read (wordsOf front ++ "check" :: (wordsOf behind ++ rest)) =
        .ok ⟨.check ["src"] (some true), .never, 2, "ci/police.toml"⟩ := by
  intro front behind rest alone
  have reads : read ("check" :: rest) = .ok alone := by decide +kernel
  have valid : ∀ o ∈ front ++ behind, o.IsValid := by decide
  have once : AtMostOnce (front ++ behind) := by decide
  obtain ⟨own, behaves, -, sides, -, same⟩ := read_sides rfl reads (.refl _) valid once
  have behaves' : readLevel .check rest = .ok { strict := true, paths := ["src"] } := rfl
  obtain rfl : _ = own := Except.ok.inj (behaves'.symm.trans behaves)
  refine ⟨rfl, reads, .refl _, valid, once, same.2 (.inr ⟨by decide, .inr (.inl rfl)⟩), ?_⟩
  rw [sides, if_neg (by decide)]
  decide +kernel

theorem sides_differ :
    let once : SharedOption := .verboseShort 0
    let never : SharedOption := .color .never false
    let asked (color : ColorChoice) (verbosity : Nat) : CommandLine :=
      ⟨.check standardPaths none, color, verbosity, standardConfig⟩
    (read ["check"] = .ok (asked .auto 0) ∧
      read (wordsOf [once] ++ "check" :: wordsOf [once]) = .ok (asked .auto 1) ∧
      read ("check" :: wordsOf [once, once]) = .ok (asked .auto 2)) ∧
    (read ["check", "--color", "always"] = .ok (asked .always 0) ∧
      read (wordsOf [never] ++ ["check", "--color", "always"]) = .ok (asked .always 0) ∧
      read ("check" :: (wordsOf [never] ++ ["--color", "always"])) = .error .conflict) := by
  decide +kernel

end Patrol.CommandLine
