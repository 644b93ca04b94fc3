import Mathlib.Data.List.TakeWhile
import Patrol.Filter
import Patrol.Proofs.Text.Split

/-! The dialect of a file is told by its own name: the directories in front, a query behind it and
the kind of its slashes do not count. -/
namespace Patrol
open Patrol.Language (dropQuery isSeparator)

namespace Language
variable {cs front : List Char}

/-! ## Queries -/

theorem not_mem_dropQuery (cs : List Char) : '?' ∉ dropQuery cs := fun h => by
  simpa using List.mem_takeWhile_imp h

theorem dropQuery_eq_self (plain : '?' ∉ cs) : dropQuery cs = cs := by
  refine List.takeWhile_eq_self_iff.2 fun c hc => bne_iff_ne.2 ?_
  rintro rfl
  exact plain hc

theorem dropQuery_append (plain : '?' ∉ front) (back : List Char) :
    dropQuery (front ++ back) = front ++ dropQuery back := by
  refine List.takeWhile_append_of_pos fun c hc => bne_iff_ne.2 ?_
  rintro rfl
  exact plain hc

/-- Nothing behind the first question mark is seen. -/
theorem dropQuery_append_of_mem (query : '?' ∈ front) (back : List Char) :
    dropQuery (front ++ back) = dropQuery front := by
  rw [dropQuery, List.takeWhile_append, if_neg]
  · rfl
  · intro whole
    have same := (List.takeWhile_prefix (· != '?')).eq_of_length whole
    exact not_mem_dropQuery front (by rwa [dropQuery, same])

theorem dropQuery_query (file query : String) :
    dropQuery (file ++ "?" ++ query).toList = dropQuery file.toList := by
  have whole : (file ++ "?" ++ query).toList = file.toList ++ '?' :: query.toList := by simp
  rw [whole]
  by_cases marked : '?' ∈ file.toList
  · exact dropQuery_append_of_mem marked _
  · rw [dropQuery_append marked, dropQuery_eq_self marked]
    exact List.append_nil _

/-! ## Slashes -/

theorem slashed_slashed (cs : List Char) :
    Filter.slashed (Filter.slashed cs) = Filter.slashed cs := by
  rw [Filter.slashed, Filter.slashed, List.map_map]
  refine List.map_congr_left fun c _ => ?_
  rw [Function.comp_apply]
  split <;> simp_all

theorem dropQuery_slashed (cs : List Char) :
    dropQuery (Filter.slashed cs) = Filter.slashed (dropQuery cs) := by
  rw [dropQuery, Filter.slashed, List.takeWhile_map]
  congr 2
  funext c
  rw [Function.comp_apply]
  split
  · next backslash => subst backslash; rfl
  · rfl

theorem not_mem_slashed_dropQuery (cs : List Char) : '?' ∉ Filter.slashed (dropQuery cs) := by
  rw [← dropQuery_slashed]
  exact not_mem_dropQuery _

/-! ## The name of a file -/

theorem ofExtension?_eq_some_iff {extension : String} {l : Language} :
    ofExtension? extension = some l ↔ extension ∈ l.extensions := by
  constructor
  · intro found
    simpa using List.find?_some found
  · intro member
    cases l <;> simp only [extensions, List.mem_cons, List.not_mem_nil, or_false] at member
    · subst member; decide
    · obtain rfl | rfl | rfl | rfl := member <;> decide
    · obtain rfl | rfl | rfl | rfl := member <;> decide

theorem isAlpha_of_mem_extensions {extension : String} {l : Language}
    (member : extension ∈ l.extensions) : ∀ c ∈ extension.toList, c.isAlpha = true := by
  have all : l.extensions.all (fun e => e.toList.all (·.isAlpha)) = true := by cases l <;> rfl
  exact List.all_eq_true.1 (List.all_eq_true.1 all extension member)

theorem dotless_of_mem_extensions {extension : String} {l : Language}
    (member : extension ∈ l.extensions) : ∀ c ∈ extension.toList, (c == '.') = false := by
  intro c there
  rw [beq_eq_false_iff_ne]
  rintro rfl
  exact absurd (isAlpha_of_mem_extensions member _ there) (by decide)

/-- A file is of a dialect if its name, in front of a query, is a stem that is not empty, a dot and an
extension of the dialect. -/
theorem detect?_eq_some_iff {file : String} {l : Language} :
    detect? file = some l ↔
      ∃ stem extension, stem ≠ [] ∧ extension ∈ l.extensions ∧
        Text.afterLast isSeparator (dropQuery file.toList) = stem ++ '.' :: extension.toList := by
  rw [detect?]
  generalize Text.afterLast isSeparator (dropQuery file.toList) = name
  constructor
  · intro found
    split at found
    · cases found
    · cases found
    · next c stem extension cut =>
      obtain ⟨mark, rfl, dot, -⟩ := Text.splitAtLast_eq_some_iff.1 cut
      obtain rfl : mark = '.' := by simpa using dot
      exact ⟨c :: stem, String.ofList extension, List.cons_ne_nil _ _,
        ofExtension?_eq_some_iff.1 found, by simp⟩
  · rintro ⟨stem, extension, some, known, rfl⟩
    obtain ⟨c, stem, rfl⟩ := List.exists_cons_of_ne_nil some
    rw [Text.splitAtLast_append (by decide) _ (dotless_of_mem_extensions known)]
    simpa using ofExtension?_eq_some_iff.2 known

/-- Whether a name is a stem that is not empty, a dot and an extension of a dialect. -/
def IsSourceName (name : List Char) : Prop :=
  ∃ stem extension, stem ≠ [] ∧ extension ∈ all.flatMap extensions ∧
    name = stem ++ '.' :: extension.toList

theorem exists_detect?_iff {file : String} :
    (∃ l, detect? file = some l) ↔
      IsSourceName (Text.afterLast isSeparator (dropQuery file.toList)) := by
  simp only [detect?_eq_some_iff, IsSourceName, List.mem_flatMap]
  constructor
  · rintro ⟨l, stem, extension, some, known, name_eq⟩
    exact ⟨stem, extension, some, ⟨l, by cases l <;> decide, known⟩, name_eq⟩
  · rintro ⟨stem, extension, some, ⟨l, -, known⟩, name_eq⟩
    exact ⟨l, stem, extension, some, known, name_eq⟩

example : all.flatMap extensions =
    ["vue", "js", "jsx", "mjs", "cjs", "ts", "tsx", "mts", "cts"] := by decide

theorem detect?_congr {a b : String}
    (same : Text.afterLast isSeparator (dropQuery a.toList) =
      Text.afterLast isSeparator (dropQuery b.toList)) : detect? a = detect? b := by
  simp only [detect?, same]

theorem detect?_slashed (file : String) :
    detect? (String.ofList (Filter.slashed (dropQuery file.toList))) = detect? file := by
  apply detect?_congr
  rw [String.toList_ofList, dropQuery_eq_self (not_mem_slashed_dropQuery _)]
  apply Text.afterLast_map
  · intro c
    split
    · next h => subst h; rfl
    · rfl
  · intro c hc
    rw [if_neg]
    rintro rfl
    cases hc

/-- Directories without a question mark do not count, whatever slash stands behind them. -/
theorem detect?_behind (slash : Char) (separator : isSeparator slash = true) {directory : List Char}
    (plain : '?' ∉ directory) {file name : String}
    (whole : file.toList = directory ++ slash :: name.toList) : detect? file = detect? name := by
  apply detect?_congr
  have kept : dropQuery (slash :: name.toList) = slash :: dropQuery name.toList := by
    refine List.takeWhile_cons_of_pos (bne_iff_ne.2 ?_)
    rintro rfl
    cases separator
  rw [whole, dropQuery_append plain, kept, Text.afterLast_append separator]

theorem detect?_join {directory : String} (plain : '?' ∉ directory.toList) (name : String) :
    detect? (directory ++ "/" ++ name) = detect? name :=
  detect?_behind '/' rfl plain (by simp)

/-- The way up to a parent directory is the name of no source file. -/
theorem detect?_of_endsUpward (plain : '?' ∉ cs) (upward : Glob.endsUpward cs = true) :
    detect? (String.ofList cs) = none := by
  have name : Text.afterLast isSeparator (dropQuery cs) = ['.', '.'] := by
    rw [dropQuery_eq_self plain]
    unfold Glob.endsUpward at upward
    split at upward
    · rfl
    · obtain ⟨front, rfl⟩ := List.isSuffixOf_iff_suffix.1 upward
      exact Text.afterLast_append rfl front ['.', '.']
  rw [detect?, String.toList_ofList, name]
  decide

/-! ## The grammar of identifiers -/

/-- Whether a path is what an identifier says in front of its query, which begins with the first
question mark. Without a query it is all of the identifier. -/
def StandsInFront (path file : List Char) : Prop :=
  '?' ∉ path ∧ (file = path ∨ ∃ query, file = path ++ '?' :: query)

/-- Whether a path leads to a file of a dialect: through directories, if any, up to a slash of either
kind; then comes a stem that is not empty and has no slash, a dot and an extension of the dialect. -/
def LeadsTo (path : List Char) (l : Language) : Prop :=
  ∃ directories stem extension, path = directories ++ stem ++ '.' :: extension.toList ∧
    (directories = [] ∨ ∃ above, directories = above ++ ['/'] ∨ directories = above ++ ['\\']) ∧
    stem ≠ [] ∧ '/' ∉ stem ∧ '\\' ∉ stem ∧ extension ∈ l.extensions

variable {path : List Char} {l : Language}

theorem standsInFront_iff : StandsInFront path cs ↔ path = dropQuery cs := by
  constructor
  · rintro ⟨plain, rfl | ⟨query, rfl⟩⟩
    · exact (dropQuery_eq_self plain).symm
    · rw [dropQuery_append plain]
      exact (List.append_nil path).symm
  · rintro rfl
    refine ⟨not_mem_dropQuery cs, ?_⟩
    by_cases marked : '?' ∈ cs
    · obtain ⟨front, query, rfl, plain⟩ := List.eq_append_cons_of_mem marked
      refine .inr ⟨query, ?_⟩
      rw [dropQuery_append plain]
      simp [dropQuery]
    · exact .inl (dropQuery_eq_self marked).symm

theorem isSeparator_iff {c : Char} : isSeparator c = true ↔ c = '/' ∨ c = '\\' :=
  (Bool.or_eq_true_iff ..).trans (or_congr beq_iff_eq beq_iff_eq)

theorem forall_not_isSeparator_iff {stem : List Char} :
    (∀ c ∈ stem, isSeparator c = false) ↔ '/' ∉ stem ∧ '\\' ∉ stem := by
  constructor
  · intro plain
    constructor
    · intro slash
      cases plain '/' slash
    · intro backslash
      cases plain '\\' backslash
  · rintro ⟨slash, backslash⟩ c member
    rw [← Bool.not_eq_true, isSeparator_iff]
    rintro (rfl | rfl)
    · exact slash member
    · exact backslash member

theorem forall_getLast?_isSeparator_iff {directories : List Char} :
    (∀ c ∈ directories.getLast?, isSeparator c = true) ↔
      directories = [] ∨ ∃ above, directories = above ++ ['/'] ∨ directories = above ++ ['\\'] := by
  obtain rfl | ⟨above, c, rfl⟩ := List.eq_nil_or_concat directories
  · simp
  · simp [isSeparator_iff, exists_or]

theorem leadsTo_iff :
    LeadsTo path l ↔
      ∃ stem extension, stem ≠ [] ∧ extension ∈ l.extensions ∧
        Text.afterLast isSeparator path = stem ++ '.' :: extension.toList := by
  have plain {stem : List Char} {extension : String} (known : extension ∈ l.extensions) :
      (∀ c ∈ stem ++ '.' :: extension.toList, isSeparator c = false) ↔ '/' ∉ stem ∧ '\\' ∉ stem := by
    rw [← forall_not_isSeparator_iff, List.forall_mem_append, List.forall_mem_cons]
    refine and_iff_left ⟨rfl, fun c there => ?_⟩
    rw [← Bool.not_eq_true, isSeparator_iff]
    rintro (rfl | rfl) <;> exact absurd (isAlpha_of_mem_extensions known _ there) (by decide)
  simp only [Text.afterLast_eq_iff, forall_getLast?_isSeparator_iff]
  constructor
  · rintro ⟨directories, stem, extension, rfl, ended, some, slash, backslash, known⟩
    exact ⟨stem, extension, some, known, directories, List.append_assoc _ _ _, ended,
      (plain known).2 ⟨slash, backslash⟩⟩
  · rintro ⟨stem, extension, some, known, directories, rfl, ended, whole⟩
    obtain ⟨slash, backslash⟩ := (plain known).1 whole
    exact ⟨directories, stem, extension, (List.append_assoc _ _ _).symm, ended, some, slash,
      backslash, known⟩

/-- **A dialect is told by a grammar.** A file is of a dialect exactly if its identifier, in front of
the first question mark, is directories up to a slash or a backslash, or none, a stem that is not empty
and holds neither, a dot and an extension of the dialect. There is one such dialect at most. Directories
without a question mark in front of an identifier, behind a slash of either kind, make no difference. -/
theorem detect?_follows_grammar (file : String) :
    (∀ l, detect? file = some l ↔ ∃ path, StandsInFront path file.toList ∧ LeadsTo path l) ∧
    (∀ path path' l l', StandsInFront path file.toList → StandsInFront path' file.toList →
      LeadsTo path l → LeadsTo path' l' → l = l') ∧
    ∀ directory : String, '?' ∉ directory.toList →
      detect? (directory ++ "/" ++ file) = detect? file ∧
      detect? (directory ++ "\\" ++ file) = detect? file := by
  have exact (l : Language) :
      detect? file = some l ↔ ∃ path, StandsInFront path file.toList ∧ LeadsTo path l := by
    simp only [standsInFront_iff, exists_eq_left, leadsTo_iff]
    exact detect?_eq_some_iff
  refine ⟨exact, fun path path' l l' front front' leads leads' => ?_, fun directory plain =>
    ⟨detect?_join plain file, detect?_behind '\\' rfl plain (by simp)⟩⟩
  have found := (exact l).2 ⟨path, front, leads⟩
  have found' := (exact l').2 ⟨path', front', leads'⟩
  exact Option.some.inj (found.symm.trans found')

/-- A name with several dots, below a hidden directory and one with a backslash, with a query that looks
like another name. -/
theorem detect?_follows_grammar_declarations :
    let file := "v1.2\\.types\\index.d.ts?vue&type=script/setup.js"
    StandsInFront "v1.2\\.types\\index.d.ts".toList file.toList ∧
      LeadsTo "v1.2\\.types\\index.d.ts".toList .typeScript ∧ '?' ∉ "src/.lib".toList ∧
      detect? file = some .typeScript ∧
      detect? ("src/.lib" ++ "/" ++ file) = some .typeScript ∧
      detect? ("src/.lib" ++ "\\" ++ file) = some .typeScript ∧
      ∀ l, LeadsTo "v1.2\\.types\\index.d.ts".toList l → .typeScript = l := by
  intro file
  obtain ⟨exact, unique, behind⟩ := detect?_follows_grammar file
  have front : StandsInFront "v1.2\\.types\\index.d.ts".toList file.toList :=
    ⟨by decide, .inr ⟨"vue&type=script/setup.js".toList, by decide⟩⟩
  have leads : LeadsTo "v1.2\\.types\\index.d.ts".toList .typeScript :=
    ⟨"v1.2\\.types\\".toList, "index.d".toList, "ts", by decide,
      .inr ⟨"v1.2\\.types".toList, .inr (by decide)⟩, by decide, by decide, by decide, by decide⟩
  have plain : '?' ∉ "src/.lib".toList := by decide
  have found : detect? file = some .typeScript := (exact _).2 ⟨_, front, leads⟩
  exact ⟨front, leads, plain, found, (behind _ plain).1.trans found, (behind _ plain).2.trans found,
    fun l => unique _ _ _ l front front leads⟩

end Language

/-- A file that is not excluded is judged by its dialect. -/
theorem Filter.verdict_eq (f : Filter) (file : String) :
    f.verdict file =
      if f.excludes (slashed (dropQuery file.toList)) then .error .excluded
      else
        match Language.detect? file with
        | some l => .ok l
        | none => .error .noLanguage := by
  cases out : f.excludes (slashed (dropQuery file.toList)) with
  | true => simp [Filter.verdict, out]
  | false =>
    cases dialect : Language.detect? file with
    | none => simp [Filter.verdict, out, Language.detect?_slashed, dialect]
    | some l => simp [Filter.verdict, out, Language.detect?_slashed, dialect]

/-- A file is looked at if no glob accepts its path and its name is of a dialect. -/
theorem Filter.verdict_eq_ok_iff {f : Filter} {file : String} {l : Language} :
    f.verdict file = .ok l ↔
      f.excludes (slashed (dropQuery file.toList)) = false ∧ Language.detect? file = some l := by
  rw [verdict_eq]
  split
  · simp_all
  · cases Language.detect? file <;> simp_all

theorem Filter.verdict_eq_excluded_iff {f : Filter} {file : String} :
    f.verdict file = .error .excluded ↔ f.excludes (slashed (dropQuery file.toList)) = true := by
  rw [verdict_eq]
  split
  · simp_all
  · cases Language.detect? file <;> simp_all

end Patrol
