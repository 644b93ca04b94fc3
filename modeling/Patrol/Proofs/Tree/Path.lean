import Patrol.Proofs.Text.Split
import Patrol.Proofs.Tree.Folder

/-! The order of paths, and the parts of paths that are put together. -/
namespace Patrol.Tree

namespace Path

/-! The order of paths. -/

instance : Std.LawfulEqCmp compareParts where
  compare_self {a} := by cases a <;> simp [compareParts, rank]
  eq_of_compare {a b} h := by cases a <;> cases b <;> simp_all [compareParts, rank]

instance : Std.TransCmp compareParts where
  eq_swap {a b} := by
    cases a <;> cases b <;> simp only [compareParts] <;> exact Std.OrientedOrd.eq_swap
  isLE_trans {a b c} hab hbc := by
    cases a <;> cases b <;> cases c <;> simp only [compareParts, rank] at *
    all_goals first
      | exact Std.TransCmp.isLE_trans hab hbc
      | contradiction
      | rfl

theorem compare_eq_iff {a b : String} : compare a b = .eq ↔ parts a = parts b := by
  unfold compare
  exact Std.LawfulEqCmp.compare_eq_iff_eq

theorem compare_eq_swap (a b : String) : compare a b = (compare b a).swap := by
  unfold compare
  exact Std.OrientedCmp.eq_swap

theorem compare_isLE_trans {a b c : String} (hab : (compare a b).isLE = true)
    (hbc : (compare b c).isLE = true) : (compare a c).isLE = true := by
  unfold compare at *
  exact Std.TransCmp.isLE_trans hab hbc

theorem compare_lt_of_isLE_of_lt {a b c : String} (hab : (compare a b).isLE = true)
    (hbc : compare b c = .lt) : compare a c = .lt := by
  unfold compare at *
  exact Std.TransCmp.lt_of_isLE_of_lt hab hbc

/-! Steps. -/

theorem partOf_injective : Function.Injective partOf := by
  intro a b same
  simp only [partOf, beq_iff_eq] at same
  grind

theorem steps_of_unslashed {name : String} (nonempty : name ≠ "") (unslashed : '/' ∉ name.toList) :
    steps name = [name] := by
  have some : name.toList.isEmpty = false := by simpa using nonempty
  simp [steps, Text.splitOn_eq_singleton unslashed, some]

theorem steps_join {directory name : String} (valid : IsFileName name) :
    steps (join directory name) = steps directory ++ [name] := by
  have single := steps_of_unslashed valid.nonempty valid.unslashed
  have behind (front : List Char) : steps (String.ofList (front ++ '/' :: name.toList)) =
      ((Text.splitOn '/' front).filter (!·.isEmpty)).map String.ofList ++ [name] := by
    rw [← single]
    simp [steps, Text.splitOn_append]
  rw [join]
  split
  · next closed =>
    obtain rfl | closed := by simpa using closed
    · rw [String.empty_append, single]
      rfl
    · obtain ⟨front, path_eq⟩ := List.getLast?_eq_some_iff.1 (by simpa [endsWithSlash] using closed)
      have whole : directory ++ name = String.ofList (front ++ '/' :: name.toList) := by
        apply String.toList_injective
        simp [path_eq]
      rw [whole, behind]
      simp [steps, path_eq, Text.splitOn_append, Text.splitOn]
  · have whole : directory ++ "/" ++ name = String.ofList (directory.toList ++ '/' :: name.toList) := by
      apply String.toList_injective
      simp
    rw [whole, behind, steps]

theorem isAbsolute_join {directory name : String} (valid : IsFileName name) :
    isAbsolute (join directory name) = isAbsolute directory := by
  have unslashed := valid.unslashed
  by_cases empty : directory = ""
  · subst empty
    cases h : name.toList with
    | nil => simp [join, isAbsolute, h]
    | cons c cs =>
      rw [h, List.mem_cons, not_or] at unslashed
      simp [join, isAbsolute, h, Ne.symm unslashed.1]
  · have more : directory.toList ≠ [] := by simpa using empty
    obtain ⟨c, cs, h⟩ := List.exists_cons_of_ne_nil more
    rw [join]
    split <;> simp [isAbsolute, h]

theorem endsWithSlash_join {directory name : String} (valid : IsFileName name) :
    endsWithSlash (join directory name) = false := by
  have more : name.toList ≠ [] := by simpa using valid.nonempty
  obtain ⟨front, c, h⟩ := (List.eq_nil_or_concat name.toList).resolve_left more
  have unslashed : c ≠ '/' := fun same => valid.unslashed (by simp [h, same])
  have last : ∃ front, (join directory name).toList = front ++ [c] := by
    rw [join]
    split
    · exact ⟨directory.toList ++ front, by simp [h]⟩
    · exact ⟨directory.toList ++ '/' :: front, by simp [h]⟩
  obtain ⟨front, h⟩ := last
  simp [endsWithSlash, h, unslashed]

/-- A path with names behind it, one below the other. -/
def joinAll (directory : String) (names : List String) : String := names.foldl join directory

theorem joinAll_snoc (directory : String) (names : List String) (name : String) :
    joinAll directory (names ++ [name]) = join (joinAll directory names) name := by
  simp [joinAll]

theorem steps_joinAll {names : List String} (valid : ∀ name ∈ names, IsFileName name)
    (directory : String) : steps (joinAll directory names) = steps directory ++ names := by
  induction names generalizing directory with
  | nil => simp [joinAll]
  | cons name names ih =>
    obtain ⟨first, rest⟩ := List.forall_mem_cons.1 valid
    rw [joinAll, List.foldl_cons, ← joinAll, ih rest, steps_join first]
    simp

theorem join_ne_empty {directory : String} (some : directory ≠ "") (name : String) :
    join directory name ≠ "" := by
  rw [join]
  split <;> simp [String.append_eq_empty_iff, some]

theorem toList_join {directory : String} (some : directory ≠ "")
    (open_ : endsWithSlash directory = false) (name : String) :
    (join directory name).toList = directory.toList ++ '/' :: name.toList := by
  simp [join, some, open_]

theorem join_append {directory : String} (some : directory ≠ "") (front name : String) :
    join (front ++ directory) name = front ++ join directory name := by
  have slash : endsWithSlash (front ++ directory) = endsWithSlash directory := by
    have last := List.getLast?_eq_some_getLast (l := directory.toList) (by simpa using some)
    simp [endsWithSlash, last]
  have none : front ++ directory ≠ "" := fun empty => by simp_all [String.append_eq_empty_iff]
  simp only [join, slash, beq_eq_false_iff_ne.2 none, beq_eq_false_iff_ne.2 some, Bool.false_or]
  split <;> simp only [String.append_assoc]

theorem joinAll_append {directory : String} (some : directory ≠ "") (front : String)
    (names : List String) : joinAll (front ++ directory) names = front ++ joinAll directory names := by
  induction names generalizing directory with
  | nil => rfl
  | cons name names ih =>
    rw [joinAll, List.foldl_cons, ← joinAll, join_append some, ih (join_ne_empty some name)]
    rfl

/-- A path begins with the directory to which its names were joined. -/
theorem exists_joinAll_eq (directory : String) (names : List String) :
    ∃ more, joinAll directory names = directory ++ more := by
  induction names generalizing directory with
  | nil => exact ⟨"", by simp [joinAll]⟩
  | cons name names ih =>
    obtain ⟨more, path_eq⟩ := ih (join directory name)
    obtain ⟨behind, step⟩ : ∃ behind, join directory name = directory ++ behind := by
      rw [join]
      split
      · exact ⟨name, rfl⟩
      · exact ⟨"/" ++ name, String.append_assoc ..⟩
    exact ⟨behind ++ more, by rw [joinAll, List.foldl_cons, ← joinAll, path_eq, step, String.append_assoc]⟩

/-- Names below a directory are told apart by their paths. -/
theorem joinAll_inj {directory : String} {a b : List String}
    (validA : ∀ name ∈ a, IsFileName name) (validB : ∀ name ∈ b, IsFileName name)
    (same : joinAll directory a = joinAll directory b) : a = b := by
  have steps_eq := congrArg steps same
  rw [steps_joinAll validA, steps_joinAll validB] at steps_eq
  exact List.append_cancel_left steps_eq

/-- The path of what names lead to below a directory, with one slash in front of each of them. -/
def below (directory : String) (names : List String) : String :=
  (if endsWithSlash directory then directory else directory ++ "/") ++ "/".intercalate names

/-- Joining names one by one gives the path with slashes between them. -/
theorem joinAll_eq_below {directory : String} (some : directory ≠ "") {names : List String}
    (more : names ≠ []) (valid : ∀ name ∈ names, IsFileName name) :
    joinAll directory names = below directory names := by
  induction names generalizing directory with
  | nil => exact absurd rfl more
  | cons name names ih =>
    obtain ⟨first, rest⟩ := List.forall_mem_cons.1 valid
    have step : join directory name =
        (if endsWithSlash directory then directory else directory ++ "/") ++ name := by
      simp only [join, beq_eq_false_iff_ne.2 some, Bool.false_or]
      split <;> rfl
    cases names with
    | nil => rw [below, String.intercalate_singleton, ← step, joinAll, List.foldl_cons, List.foldl_nil]
    | cons next names =>
      have deeper := ih (join_ne_empty some name) (List.cons_ne_nil next names) rest
      rw [below, endsWithSlash_join first] at deeper
      rw [joinAll, List.foldl_cons, ← joinAll, deeper, below, String.intercalate_cons_cons, step]
      simp [String.append_assoc]

/-- Names below the directory at hand, with that directory in front. -/
theorem joinAll_here {name : String} (some : name ≠ "") (names : List String) :
    joinAll "." (name :: names) = "./" ++ joinAll name names :=
  joinAll_append some "./" names

theorem joinAll_empty (name : String) (names : List String) :
    joinAll "" (name :: names) = joinAll name names := by
  have first : join "" name = name := by simp [join]
  rw [joinAll, List.foldl_cons, first, joinAll]

theorem isAbsolute_joinAll {names : List String} (valid : ∀ name ∈ names, IsFileName name)
    (directory : String) : isAbsolute (joinAll directory names) = isAbsolute directory := by
  induction names generalizing directory with
  | nil => rfl
  | cons name names ih =>
    obtain ⟨first, rest⟩ := List.forall_mem_cons.1 valid
    rw [joinAll, List.foldl_cons, ← joinAll, ih rest, isAbsolute_join first]

/-! Relative paths. -/

/-- Whether a path begins with the directory at hand. -/
def startsHere (path : String) : Bool := (steps path).head? == some "."

/-- The steps of a path that lead somewhere. -/
def names (path : String) : List String := (steps path).filter (· != ".")

theorem partOf_eq_here_iff {step : String} : partOf step = .here ↔ step = "." := by
  rw [show Part.here = partOf "." from rfl, partOf_injective.eq_iff]

theorem filter_partOf (steps : List String) :
    (steps.map partOf).filter (· != .here) = (steps.filter (· != ".")).map partOf := by
  rw [List.filter_map]
  congr 1
  apply List.filter_congr
  intro step _
  rw [Function.comp_apply, Bool.eq_iff_iff, bne_iff_ne, bne_iff_ne, ne_eq, ne_eq,
    partOf_eq_here_iff]

theorem parts_of_relative {path : String} (relative : isAbsolute path = false) :
    parts path = (if startsHere path then [.here] else []) ++ (names path).map partOf := by
  unfold parts startsHere names
  rw [relative]
  generalize steps path = all
  cases all with
  | nil => rfl
  | cons first rest =>
    by_cases here : first = "."
    · subst here
      simp [filter_partOf, partOf]
    · simp [filter_partOf, here]

/-- Relative paths are equal if they name the same steps and both begin with the directory at hand,
or neither does. -/
theorem parts_eq_iff {a b : String} (relativeA : isAbsolute a = false)
    (relativeB : isAbsolute b = false) :
    parts a = parts b ↔ startsHere a = startsHere b ∧ names a = names b := by
  have notHere (path : String) : .here ∉ (names path).map partOf := by
    simp [names, partOf_eq_here_iff]
  rw [parts_of_relative relativeA, parts_of_relative relativeB]
  constructor
  · intro same
    cases hereA : startsHere a <;> cases hereB : startsHere b <;>
      simp only [hereA, hereB, if_true, Bool.false_eq_true, if_false, List.nil_append] at same
    · exact ⟨rfl, List.map_inj_right partOf_injective |>.1 same⟩
    · exact absurd (same ▸ .head _) (notHere a)
    · exact absurd (same ▸ .head _) (notHere b)
    · exact ⟨rfl, List.map_inj_right partOf_injective |>.1 (List.append_cancel_left same)⟩
  · rintro ⟨same, names⟩
    rw [same, names]

/-- Names that can stand in a directory lead somewhere. -/
theorem names_joinAll {all : List String} (valid : ∀ name ∈ all, IsFileName name)
    (directory : String) : names (joinAll directory all) = names directory ++ all := by
  rw [names, steps_joinAll valid, List.filter_append]
  congr 1
  exact List.filter_eq_self.2 fun name member => bne_iff_ne.2 (valid name member).notHere

/-- Names below a directory are told apart by the parts of their paths. -/
theorem joinAll_parts_inj {directory : String} {a b : List String}
    (relative : isAbsolute directory = false) (validA : ∀ name ∈ a, IsFileName name)
    (validB : ∀ name ∈ b, IsFileName name)
    (same : parts (joinAll directory a) = parts (joinAll directory b)) : a = b := by
  have equal := (parts_eq_iff ((isAbsolute_joinAll validA directory).trans relative)
    ((isAbsolute_joinAll validB directory).trans relative)).1 same
  rw [names_joinAll validA, names_joinAll validB] at equal
  exact List.append_cancel_left equal.2

/-- The directory at hand in front of paths without it does not change their order. -/
theorem compare_here {a b : String} (relativeA : isAbsolute a = false)
    (relativeB : isAbsolute b = false) (plainA : startsHere a = false)
    (plainB : startsHere b = false) : compare ("./" ++ a) ("./" ++ b) = compare a b := by
  have front {path : String} (relative : isAbsolute path = false) (plain : startsHere path = false) :
      parts ("./" ++ path) = .here :: parts path := by
    have all : steps ("./" ++ path) = "." :: steps path := by
      have whole : ("./" ++ path).toList = ['.'] ++ '/' :: path.toList := by simp
      rw [steps, whole, Text.splitOn_append]
      rfl
    have begins : isAbsolute ("./" ++ path) = false := by simp [isAbsolute]
    rw [parts_of_relative begins, parts_of_relative relative, plain]
    simp [startsHere, names, all]
  simp [compare, front relativeA plainA, front relativeB plainB, List.compareLex, compareParts, rank]

theorem startsHere_of_steps_append {a b : String} {more : List String} (some : steps b ≠ [])
    (same : steps a = steps b ++ more) : startsHere a = startsHere b := by
  obtain ⟨first, rest, path_eq⟩ := List.exists_cons_of_ne_nil some
  simp [startsHere, same, path_eq]

end Path
end Patrol.Tree
