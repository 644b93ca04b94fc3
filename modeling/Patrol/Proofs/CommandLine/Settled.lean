import Patrol.CommandLine.Reader

/-! Words whose value is looked at only when the next option or path is met: whether a value was looked
at makes no difference for the words behind it. -/
namespace Patrol.CommandLine
namespace State

/-- A word that is no option, if none of its kind was read before it. -/
def readPlain (level : Level) (st : State) (word : String) : Except Error State :=
  match st.pending with
  | .value s none => .ok { st with pending := .value s (some word) }
  | _ => st.readPath level word

/-- What a word is taken for, as long as options are read. -/
theorem readWord_shape (word : String) :
    (∀ level (st : State), st.onlyPaths = false →
      st.readWord level word = .ok { st with onlyPaths := true }) ∨
    (∃ cs, ∀ level (st : State), st.onlyPaths = false →
      st.readWord level word = st.readLong level cs) ∨
    (∃ cs, ∀ level (st : State), st.onlyPaths = false →
      st.readWord level word = st.readShort level cs) ∨
    (∀ level (st : State), st.onlyPaths = false →
      st.readWord level word = st.readPlain level word) := by
  unfold readWord readPlain
  split
  · exact .inl fun level st options => by simp [options]
  · exact .inr (.inl ⟨_, fun level st options => by simp only [options]; rfl⟩)
  · exact .inr (.inr (.inl ⟨_, fun level st options => by simp only [options]; rfl⟩))
  · exact .inr (.inr (.inr fun level st options => by simp only [options]; rfl))

/-- What a state comes to if at most the value of an option is put off. -/
inductive Settles : State → State → Prop where
  | nothing (g onlyPaths) : Settles ⟨g, .nothing, onlyPaths⟩ ⟨g, .nothing, onlyPaths⟩
  | value {g g' s v} (onlyPaths) (done : g.setValue s v = .ok g') :
      Settles ⟨g, .value s (some v), onlyPaths⟩ ⟨g', .nothing, onlyPaths⟩

/-- Reads words to their end. -/
def finish (level : Level) (st : State) (words : List String) : Except Error State :=
  words.foldlM (readWord level) st >>= settle

variable {st st' : State}

namespace Settles

theorem settle (settles : Settles st st') : st.settle = .ok st' := by
  cases settles with
  | nothing => rfl
  | value _ done =>
    simp only [State.settle, done]
    rfl

theorem again (settles : Settles st st') : Settles st' st' := by
  cases settles <;> exact .nothing _ _

theorem same_settle (settles : Settles st st') : st.settle = st'.settle :=
  settles.settle.trans settles.again.settle.symm

theorem onlyPaths (settles : Settles st st') : st.onlyPaths = st'.onlyPaths := by
  cases settles <;> rfl

theorem readLong (settles : Settles st st') (level : Level) (word : List Char) :
    st.readLong level word = st'.readLong level word := by
  simp only [State.readLong, setValue, await, setSwitch, settles.same_settle]

theorem readShort_cons (settles : Settles st st') (level : Level) (c : Char) (cs : List Char) :
    st.readShort level (c :: cs) = st'.readShort level (c :: cs) := by
  simp only [State.readShort, setValue, await, setSwitch, settles.same_settle]

theorem readPath (settles : Settles st st') (level : Level) (word : String) :
    st.readPath level word = st'.readPath level word := by
  cases level with
  | check =>
    have same := settles.same_settle
    cases settles with
    | nothing => rfl
    | value => simp only [State.readPath, same]
  | front => simp only [State.readPath, settles.onlyPaths]
  | _ => rfl

theorem readPlain (settles : Settles st st') (level : Level) (word : String) :
    st.readPlain level word = st'.readPlain level word := by
  have same := settles.readPath level word
  cases settles <;> exact same

/-- A word does the same, or leaves what is put off as it is. -/
theorem readWord (settles : Settles st st') (level : Level) (word : String) :
    st.readWord level word = st'.readWord level word ∨
      ∃ s s', st.readWord level word = .ok s ∧ st'.readWord level word = .ok s' ∧ Settles s s' := by
  cases only : st.onlyPaths with
  | true =>
    left
    simpa [State.readWord, only, settles.onlyPaths ▸ only] using settles.readPath level word
  | false =>
    have only' := settles.onlyPaths ▸ only
    obtain same | ⟨cs, same⟩ | ⟨cs, same⟩ | same := readWord_shape word
    · -- two dashes do not look at what is put off; all other words do
      refine .inr ⟨_, _, same level st only, same level st' only', ?_⟩
      cases settles with
      | nothing => exact .nothing _ _
      | value _ done => exact .value _ done
    · left
      rw [same level st only, same level st' only', settles.readLong]
    · rw [same level st only, same level st' only']
      cases cs with
      | nil => exact .inr ⟨st, st', rfl, rfl, settles⟩
      | cons c cs => exact .inl (settles.readShort_cons level c cs)
    · left
      rw [same level st only, same level st' only', settles.readPlain]

theorem finish (settles : Settles st st') (level : Level) (words : List String) :
    st.finish level words = st'.finish level words := by
  induction words generalizing st st' with
  | nil => exact settles.same_settle
  | cons word words ih =>
    simp only [State.finish, List.foldlM_cons]
    obtain same | ⟨s, s', read, read', settles⟩ := settles.readWord level word
    · rw [same]
    · rw [read, read']
      exact ih settles

end Settles
end State

theorem readLevel_eq (level : Level) (words : List String) :
    readLevel level words = do
      let st ← State.finish level {} words
      if st.given.strict && st.given.noStrict then throw .conflict
      return st.given := by
  simp [readLevel, State.finish]

end Patrol.CommandLine
