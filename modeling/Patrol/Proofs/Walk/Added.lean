import Patrol.Proofs.Language
import Patrol.Proofs.Tree.Added
import Patrol.Proofs.Walk.Found

/-! Walks in a tree with one more file. A file that the filter does not want and that is not read as
an ignore file changes nothing about what is found. -/
namespace Patrol.Walk
open Patrol.Tree

variable {w w' : World} {filter : Filter} {spot p : Place} {name : String} {bytes : List UInt8}

/-! ## Levels -/

/-- The steps from a directory to what it says about what is ignored. -/
def ignoreSteps : List (List String) :=
  [[".ignore"], [".gitignore"], [".git", "info", "exclude"], [".git"]]

/-- Whether a directory takes a file for one of those. -/
def TakesAsIgnoreFile (w : World) (p q : Place) : Prop :=
  ∃ steps ∈ ignoreSteps, ∃ e, Leads w.top maxLinks p steps q e

theorem follow_added (adds : AddsFile w w' spot name bytes) {steps : List String}
    (unread : ∀ e, ¬Leads w'.top maxLinks p steps (spot ++ [name]) e) :
    (follow w'.top maxLinks p steps).toOption.map (·.2.kind) =
      (follow w.top maxLinks p steps).toOption.map (·.2.kind) := by
  cases followed : follow w.top maxLinks p steps with
  | ok x =>
    obtain ⟨e', still, kind⟩ := adds.leads (leads_of_follow followed)
    rw [follow_of_leads still]
    exact congrArg some kind
  | error cause =>
    cases now : follow w'.top maxLinks p steps with
    | error cause' => rfl
    | ok x =>
      have way := leads_of_follow now
      obtain ⟨e', before, -⟩ := adds.led way fun same => unread x.2 (same ▸ way)
      rw [follow_of_leads before] at followed
      cases followed

theorem ignoreList_eq (w : World) (p : Place) (directory : String) (steps : List String) :
    ignoreList w p directory steps =
      match (follow w.top maxLinks p steps).toOption.map (·.2.kind) with
      | some (.file bytes) => .ofFile directory (Path.join directory ("/".intercalate steps)) bytes
      | _ => ⟨directory.toList, [], []⟩ := by
  rw [ignoreList]
  cases follow w.top maxLinks p steps with
  | error cause => rfl
  | ok x =>
    obtain ⟨q, e⟩ := x
    cases e <;> rfl

/-- A directory that does not take the new file for an ignore file contributes what it did. -/
theorem level_added (adds : AddsFile w w' spot name bytes)
    (unread : ¬TakesAsIgnoreFile w' p (spot ++ [name])) (directory : String) :
    level w' p directory = level w p directory := by
  have same {steps : List String} (member : steps ∈ ignoreSteps) :=
    follow_added adds fun e way => unread ⟨steps, member, e, way⟩
  have list {steps : List String} (member : steps ∈ ignoreSteps) :
      ignoreList w' p directory steps = ignoreList w p directory steps := by
    rw [ignoreList_eq, ignoreList_eq, same member]
  have git := same (by decide : [".git"] ∈ ignoreSteps)
  have starts : (follow w'.top maxLinks p [".git"]).isOk = (follow w.top maxLinks p [".git"]).isOk := by
    cases now : follow w'.top maxLinks p [".git"] <;>
      cases before : follow w.top maxLinks p [".git"] <;>
      simp_all [Except.toOption, Except.isOk, Except.toBool]
  rw [level, level, list (by decide), list (by decide), list (by decide), starts]

/-! ## Files -/

theorem files_congr (filter : Filter) (root : Root) (trail : Trail) (directory : String)
    {place : Place} (levels : ∀ q path, place <+: q → level w' q path = level w q path)
    (folder : Folder) :
    files w' filter root trail directory place folder =
      files w filter root trail directory place folder := by
  induction folder generalizing trail directory place with
  | empty => rfl
  | file n own rest ih => simp only [files, ih trail directory levels]
  | link n target rest ih => exact ih trail directory levels
  | directory n inner rest ihInner ih =>
    have deeper (q : Place) (path : String) (below : place ++ [n] <+: q) :
        level w' q path = level w q path :=
      levels q path ((List.prefix_append place [n]).trans below)
    simp only [files, ih trail directory levels, ihInner _ _ deeper,
      levels (place ++ [n]) _ (List.prefix_append ..)]

/-- What is met at an entry. -/
def met (w : World) (filter : Filter) (root : Root) (trail : Trail) (directory : String)
    (place : Place) (name : String) : Entry → List String
  | .file _ =>
    let path := Path.join directory name
    if isIgnored (trail.sights root path) false then [] else [path]
  | .link _ => []
  | .directory inner =>
    let path := Path.join directory name
    if isIgnored (trail.sights root path) true || name == ".git" || filter.prunes path then []
    else
      let place := place ++ [name]
      let trail := { trail with passed := level w place path :: trail.passed }
      files w filter root trail path place inner

variable {root : Root} {trail : Trail} {directory : String} {place : Place} {folder : Folder}

theorem files_add (n : String) (e : Entry) (rest : Folder) :
    files w filter root trail directory place (.add n e rest) =
      met w filter root trail directory place n e ++
        files w filter root trail directory place rest := by
  cases e <;> rfl

/-- Putting an entry into a directory changes what is wanted of the files as it does at the entry. -/
theorem filter_files_put {entry : Entry} {wanted : String → Bool}
    (same : (met w filter root trail directory place name entry).filter wanted =
      match folder.find? name with
      | some old => (met w filter root trail directory place name old).filter wanted
      | none => []) :
    (files w filter root trail directory place (folder.put name entry)).filter wanted =
      (files w filter root trail directory place folder).filter wanted := by
  induction folder using Folder.add_induction with
  | empty =>
    rw [Folder.put, files_add, List.filter_append, same]
    rfl
  | add n e rest ih =>
    rw [Folder.find?_add] at same
    rw [Folder.put_add]
    split
    · next own =>
      rw [if_pos own.symm] at same
      rw [files_add, files_add, List.filter_append, List.filter_append, same, own]
    · next other =>
      rw [if_neg (Ne.symm other)] at same
      rw [files_add, files_add, List.filter_append, List.filter_append, ih same]

/-- A file that is not wanted is put somewhere below. -/
theorem filter_files_putAt {wanted : String → Bool} {below : Place}
    (there : (folder.at? below).isSome = true) (free : folder.entryAt? below name = none)
    (unwanted : wanted (Path.joinAll directory (below ++ [name])) = false) :
    (files w filter root trail directory place (folder.putAt name (.file bytes) below)).filter wanted =
      (files w filter root trail directory place folder).filter wanted := by
  induction below generalizing trail directory place folder with
  | nil =>
    have none : folder.find? name = none := free
    have out : wanted (Path.join directory name) = false := unwanted
    refine filter_files_put ?_
    rw [none, met]
    split <;> simp [out]
  | cons n below ih =>
    obtain ⟨own, there⟩ := Option.isSome_iff_exists.1 there
    obtain ⟨inner, found, there⟩ := Folder.at?_cons_iff.1 there
    have inside : inner.entryAt? below name = none := by
      rwa [Folder.entryAt?, Folder.at?, found] at free
    rw [Folder.putAt, found]
    refine filter_files_put ?_
    simp only [found, met]
    split
    · rfl
    · exact ih (by simp [there]) inside unwanted

/-! ## What a path stands for -/

/-- Whether a new file matters to a walk from a path: a directory above or below the start takes it for
an ignore file, or the filter wants it. -/
structure Unnoticed (w w' : World) (filter : Filter) (spot : Place) (name path : String) : Prop where
  unread : ∀ q inner p, w.resolve path = .ok (q, .directory inner) → p <+: q ∨ q <+: p →
    ¬TakesAsIgnoreFile w' p (spot ++ [name])
  unwanted : ∀ q inner below, w.resolve path = .ok (q, .directory inner) → spot = q ++ below →
    (filter.verdict (Path.joinAll path (below ++ [name]))).isOk = false

/-- A new file that goes unnoticed changes nothing above the start of a walk. -/
theorem levelsAbove_added (adds : AddsFile w w' spot name bytes) {path : String} {q : Place}
    {inner : Folder} (reached : w.resolve path = .ok (q, .directory inner))
    (unnoticed : Unnoticed w w' filter spot name path) : levelsAbove w' q = levelsAbove w q := by
  rw [levelsAbove, levelsAbove]
  congr 1
  refine List.map_congr_left fun n _ => ?_
  exact level_added adds (unnoticed.unread q inner _ reached (.inl (List.take_prefix n q))) _

theorem faultsAbove_added (adds : AddsFile w w' spot name bytes) {path : String}
    (held : w.holds path = true) (unnoticed : Unnoticed w w' filter spot name path) :
    faultsAbove w' path = faultsAbove w path := by
  obtain ⟨q, e, reached⟩ := World.holds_iff.1 held
  obtain ⟨e', still, kind⟩ := adds.resolve reached
  cases e with
  | link target => exact absurd rfl ((World.resolve_ok_iff.1 reached).2.not_link target)
  | file own =>
    obtain rfl := Entry.kind_eq_file_iff.1 kind
    simp only [faultsAbove, reached, still]
  | directory inner =>
    obtain ⟨now, rfl⟩ := Entry.kind_eq_directory_iff.1 kind
    simp only [faultsAbove, reached, still, levelsAbove_added adds reached unnoticed]

/-- A walk starts, or does not, as it would without the new file. -/
theorem failure?_added (adds : AddsFile w w' spot name bytes) {path : String}
    (held : w.holds path = true) (unnoticed : Unnoticed w w' filter spot name path) :
    failure? w' path = failure? w path := by
  have heldNow : w'.holds path = true :=
    World.isOk_resolveRoute_of_grows adds.grows adds.here held
  rw [failure?, failure?, held, heldNow, faultsAbove_added adds held unnoticed]

theorem candidates_added (adds : AddsFile w w' spot name bytes) {path : String}
    (opens : Opens w path) (unnoticed : Unnoticed w w' filter spot name path) :
    candidates w' filter path = candidates w filter path := by
  obtain ⟨held, clean⟩ := opens
  have cleanNow : faultsAbove w' path = [] := by rw [faultsAbove_added adds held unnoticed, clean]
  obtain ⟨q, e, reached⟩ := World.holds_iff.1 held
  obtain ⟨e', still, kind⟩ := adds.resolve reached
  rw [candidates_of_opens reached clean, candidates_of_opens still cleanNow]
  split
  · rfl
  cases e with
  | link target => exact absurd rfl ((World.resolve_ok_iff.1 reached).2.not_link target)
  | file own => rw [Entry.kind_eq_file_iff.1 kind]; rfl
  | directory inner =>
    have levels (p : Place) (directory : String) (below : q <+: p) :
        level w' p directory = level w p directory :=
      level_added adds (unnoticed.unread q inner p reached (.inr below)) directory
    have walked (folder : Folder) : filesFrom w' filter path q (.directory folder) =
        filesFrom w filter path q (.directory folder) := by
      rw [filesFrom, filesFrom, levels q path List.prefix_rfl, levelsAbove_added adds reached unnoticed]
      exact files_congr filter _ _ _ levels folder
    obtain ⟨-, now⟩ | ⟨below, rfl, free, there, now⟩ := adds.resolve_directory reached
    · cases still.symm.trans now
      rw [walked]
    · cases still.symm.trans now
      rw [walked]
      exact filter_files_putAt (Option.isSome_iff_exists.2 there) free
        (unnoticed.unwanted q inner below reached rfl)

/-- What is discovered does not depend on a new file that goes unnoticed. -/
theorem discover_added (adds : AddsFile w w' spot name bytes) {paths : List String}
    (held : ∀ p ∈ paths, w.holds p = true)
    (unnoticed : ∀ p ∈ paths, Unnoticed w w' filter spot name p) :
    (discover w' filter paths).files = (discover w filter paths).files := by
  have failures : paths.findSome? (failure? w') = paths.findSome? (failure? w) := by
    rw [← List.head?_filterMap, ← List.head?_filterMap]
    congr 1
    apply List.filterMap_congr
    intro p member
    exact failure?_added adds (held p member) (unnoticed p member)
  rw [discover_files_eq, discover_files_eq, failures]
  cases failed : paths.findSome? (failure? w) with
  | some failure => rfl
  | none =>
    have opens := findSome?_failure?_eq_none_iff.1 failed
    have same : paths.flatMap (candidates w' filter) = paths.flatMap (candidates w filter) :=
      List.flatMap_congr fun p member => candidates_added adds (opens p member) (unnoticed p member)
    rw [same]

/-! ## Files that go unnoticed -/

theorem not_mem_join {c : Char} (notSlash : c ≠ '/') {directory name : String}
    (above : c ∉ directory.toList) (own : c ∉ name.toList) :
    c ∉ (Path.join directory name).toList := by
  rw [Path.join]
  split <;> simp [above, own, notSlash]

theorem not_mem_joinAll {c : Char} (notSlash : c ≠ '/') {directory : String} {names : List String}
    (above : c ∉ directory.toList) (own : ∀ n ∈ names, c ∉ n.toList) :
    c ∉ (Path.joinAll directory names).toList := by
  induction names generalizing directory with
  | nil => exact above
  | cons n names ih =>
    obtain ⟨first, rest⟩ := List.forall_mem_cons.1 own
    exact ih (not_mem_join notSlash above first) rest

/-- Directories without a question mark do not count. -/
theorem detect?_join {directory : String} (plain : '?' ∉ directory.toList) (name : String) :
    Language.detect? (Path.join directory name) = Language.detect? name := by
  rw [Path.join]
  split
  · next edge =>
    obtain empty | slash := Bool.or_eq_true_iff.1 edge
    · rw [beq_iff_eq.1 empty, String.empty_append]
    · obtain ⟨front, whole⟩ := List.getLast?_eq_some_iff.1 (beq_iff_eq.1 slash)
      have split : directory = String.ofList front ++ "/" := String.toList_inj.1 (by simp [whole])
      rw [split, String.append_assoc, ← String.append_assoc]
      refine Language.detect?_join (fun member => plain ?_) name
      rw [whole]
      exact List.mem_append_left _ (by simpa using member)
  · exact Language.detect?_join plain name

/-- Without links and question marks, a file with a name of its own goes unnoticed. -/
theorem unnoticed_of_plain (adds : AddsFile w w' spot name bytes) (noLinks : NoLinks w.top)
    (other : name ∉ [".ignore", ".gitignore", "exclude", ".git"])
    (noLanguage : Language.detect? name = none) {path : String} (plain : '?' ∉ path.toList)
    (plainNames : ∀ n ∈ spot, '?' ∉ n.toList) : Unnoticed w w' filter spot name path where
  unread q inner p reached near := by
    rintro ⟨steps, member, e, leads⟩
    have place := (noLinks.of_written adds.kinds).eq_spelled leads
    have last : ∃ above, ∃ own ∈ [".ignore", ".gitignore", "exclude", ".git"],
        spelled p steps = above ++ [own] := by
      simp only [ignoreSteps, List.mem_cons, List.not_mem_nil, or_false] at member
      obtain rfl | rfl | rfl | rfl := member
      · exact ⟨p, ".ignore", by decide, rfl⟩
      · exact ⟨p, ".gitignore", by decide, rfl⟩
      · exact ⟨p ++ [".git"] ++ ["info"], "exclude", by decide, rfl⟩
      · exact ⟨p, ".git", by decide, rfl⟩
    obtain ⟨above, own, known, spelled⟩ := last
    rw [spelled] at place
    obtain rfl := List.singleton_inj.1 (List.append_inj' place rfl).2
    exact other known
  unwanted q inner below reached split := by
    have open_ : '?' ∉ (Path.joinAll path below).toList :=
      not_mem_joinAll (by decide) plain fun n member =>
        plainNames n (split ▸ List.mem_append_right q member)
    cases verdict : filter.verdict (Path.joinAll path (below ++ [name])) with
    | error why => rfl
    | ok l =>
      have dialect := (Filter.verdict_eq_ok_iff.1 verdict).2
      rw [Path.joinAll_snoc, detect?_join open_, noLanguage] at dialect
      cases dialect

end Patrol.Walk
