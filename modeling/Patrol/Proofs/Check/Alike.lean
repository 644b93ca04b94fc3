import Patrol.Proofs.Check.Run
import Patrol.Proofs.Language

/-! Files whose paths have the same parts. What stands there is the same, and so is the dialect: one
step alone tells it, which is the first with a query or else the last. -/
namespace Patrol

/-! ## Where steps lead -/

namespace Tree
variable {top : Folder} {links : Nat} {w : World}

theorem Path.ne_empty_of_mem_steps {path step : String} (member : step ∈ steps path) :
    step ≠ "" := by
  obtain ⟨part, kept, rfl⟩ := List.mem_map.1 member
  rintro empty
  have none : part = [] := by simpa using congrArg String.toList empty
  simp [none] at kept

theorem Path.partOf_ne_top (step : String) : partOf step ≠ .top := by
  unfold partOf
  split
  · nofun
  · split <;> nofun

theorem Path.filter_parts (path : String) :
    (parts path).filter (· != .here) =
      (if isAbsolute path then [.top] else []) ++ (names path).map partOf := by
  rw [names, ← filter_partOf]
  unfold parts
  generalize (steps path).map partOf = all
  split
  · simp
  · cases all with
    | nil => rfl
    | cons first rest => simp [List.filter_cons]

/-- Paths with the same parts start at the same place and name the same steps. -/
theorem Path.names_eq_of_parts_eq {a b : String} (same : parts a = parts b) :
    isAbsolute a = isAbsolute b ∧ names a = names b := by
  have alike := congrArg (List.filter (· != .here)) same
  rw [filter_parts, filter_parts] at alike
  have relative (path : String) : .top ∉ (names path).map partOf := by
    simp [partOf_ne_top]
  cases absoluteA : isAbsolute a <;> cases absoluteB : isAbsolute b <;>
    simp only [absoluteA, absoluteB, if_true, Bool.false_eq_true, if_false, List.nil_append] at alike
  · exact ⟨rfl, List.map_inj_right partOf_injective |>.1 alike⟩
  · exact absurd (alike ▸ .head _) (relative a)
  · exact absurd (alike ▸ .head _) (relative b)
  · exact ⟨rfl, List.map_inj_right partOf_injective |>.1 (List.append_cancel_left alike)⟩

/-- The directory at hand can be left out wherever it is met. -/
theorem Leads.drop_all_here {place q : Place} {front back : List String} {e : Entry}
    (leads : Leads top links place (front ++ back) q e) :
    Leads top links place (front ++ back.filter (· != ".")) q e := by
  induction back generalizing front with
  | nil => exact leads
  | cons step back ih =>
    by_cases here : step = "."
    · subst here
      exact ih leads.drop_here
    · have further : Leads top links place ((front ++ [step]) ++ back) q e := by simpa using leads
      simpa [here] using ih further

/-- A way to a file ends with a name. -/
theorem Leads.ends_with_name {place q : Place} {steps : List String} {e : Entry}
    (leads : Leads top links place steps q e) {bytes : List UInt8} (file : e = .file bytes) :
    ∃ name, steps.getLast? = some name ∧ IsNameStep name := by
  induction leads with
  | arrive => cases file
  | here _ ih | up _ ih | enter _ _ _ ih =>
    obtain ⟨name, last, valid⟩ := ih file
    exact ⟨name, by simp [List.getLast?_cons, last], valid⟩
  | @file _ _ step _ valid _ => exact ⟨step, rfl, valid⟩
  | @link _ _ _ step _ rest _ valid _ _ ih =>
    obtain ⟨name, last, own⟩ := ih file
    cases rest with
    | nil => exact ⟨step, rfl, valid⟩
    | cons next rest =>
      rw [List.getLast?_append_of_ne_nil _ (List.cons_ne_nil next rest)] at last
      exact ⟨name, by rw [List.getLast?_cons_cons, last], own⟩

namespace World
variable {path a b : String} {place : Place} {e : Entry}

/-- What a path leads to is found by the steps that lead somewhere. -/
theorem leads_names (reached : w.resolve path = .ok (place, e)) :
    Leads w.top maxLinks ((Route.ofPath path).start w.here) (Path.names path) place e := by
  have leads := (resolve_ok_iff.1 reached).2
  rw [← List.append_nil (Route.allSteps _)] at leads
  have plain := leads.of_allSteps
  rw [List.append_nil, ← List.nil_append (Route.steps _)] at plain
  exact plain.drop_all_here

/-- Paths with the same parts do not lead to different places. -/
theorem resolve_eq_of_parts_eq {x y : Place × Entry} (same : Path.parts a = Path.parts b)
    (reachedA : w.resolve a = .ok x) (reachedB : w.resolve b = .ok y) : x = y := by
  obtain ⟨absolute, names⟩ := Path.names_eq_of_parts_eq same
  have start : (Route.ofPath a).start w.here = (Route.ofPath b).start w.here := by
    rw [Route.start, Route.start, Route.ofPath, Route.ofPath, absolute]
  have leadsA := leads_names reachedA
  have leadsB := leads_names reachedB
  rw [start, names] at leadsA
  exact Except.ok.inj ((follow_of_leads leadsA).symm.trans (follow_of_leads leadsB))

/-- The path of a file has no slash at its end, and its last step is a name. -/
theorem ends_with_name {bytes : List UInt8} (reached : w.resolve path = .ok (place, .file bytes)) :
    Path.endsWithSlash path = false ∧
      ∃ name, (Path.steps path).getLast? = some name ∧ IsNameStep name := by
  obtain ⟨name, last, valid⟩ := (resolve_ok_iff.1 reached).2.ends_with_name rfl
  rw [Route.allSteps] at last
  split at last
  · obtain rfl : "." = name := by simpa using last
    exact absurd rfl valid.1
  · next open_ => exact ⟨by simpa [Route.ofPath] using open_, name, last, valid⟩

end World
end Tree

/-! ## The step that tells the dialect -/

namespace Language
open Patrol.Tree

/-- The part of a path that tells the dialect: the first one with a query, or else the last. -/
def tellingPart : List (List Char) → List Char
  | [] => []
  | [part] => part
  | part :: next :: parts => if '?' ∈ part then part else tellingPart (next :: parts)

theorem tellingPart_cons_of_mem {part : List Char} (query : '?' ∈ part) (parts : List (List Char)) :
    tellingPart (part :: parts) = part := by
  cases parts with
  | nil => rfl
  | cons next parts => rw [tellingPart, if_pos query]

theorem tellingPart_cons {part : List Char} (plain : '?' ∉ part) {parts : List (List Char)}
    (more : parts ≠ []) : tellingPart (part :: parts) = tellingPart parts := by
  obtain ⟨next, parts, rfl⟩ := List.exists_cons_of_ne_nil more
  rw [tellingPart, if_neg plain]

/-- Parts without a query in front of the last one do not count. -/
theorem tellingPart_filter {keep : List Char → Bool} {parts : List (List Char)} {last : List Char}
    (marked : ∀ part, '?' ∈ part → keep part = true) (ends : parts.getLast? = some last)
    (kept : keep last = true) : tellingPart (parts.filter keep) = tellingPart parts := by
  induction parts with
  | nil => rfl
  | cons part parts ih =>
    cases parts with
    | nil =>
      obtain rfl : part = last := by simpa using ends
      rw [List.filter_cons_of_pos kept, List.filter_nil]
    | cons next parts =>
      have behind : (next :: parts).getLast? = some last := by
        rwa [List.getLast?_cons_cons] at ends
      have more : (next :: parts).filter keep ≠ [] :=
        List.ne_nil_of_mem (List.mem_filter.2 ⟨List.mem_of_getLast? behind, kept⟩)
      by_cases query : '?' ∈ part
      · rw [List.filter_cons_of_pos (marked part query), tellingPart_cons_of_mem query,
          tellingPart_cons_of_mem query]
      · rw [tellingPart_cons query (List.cons_ne_nil next parts), ← ih behind, List.filter_cons]
        split
        · exact tellingPart_cons query more
        · rfl

/-- The name of a file stands in one part of its path. -/
theorem afterLast_dropQuery (cs : List Char) :
    Text.afterLast isSeparator (dropQuery cs) =
      Text.afterLast isSeparator (dropQuery (tellingPart (Text.splitOn '/' cs))) := by
  induction size : cs.length using Nat.strongRecOn generalizing cs with
  | _ n shorter =>
    by_cases slash : '/' ∈ cs
    · obtain ⟨part, rest, rfl, unslashed⟩ := List.eq_append_cons_of_mem slash
      rw [Text.splitOn_append, Text.splitOn_eq_singleton unslashed, List.singleton_append]
      by_cases query : '?' ∈ part
      · rw [dropQuery_append_of_mem query, tellingPart_cons_of_mem query]
      · have further : dropQuery ('/' :: rest) = '/' :: dropQuery rest := rfl
        have less : rest.length < n := by
          simp only [List.length_append, List.length_cons] at size
          omega
        rw [dropQuery_append query, further, Text.afterLast_append rfl,
          tellingPart_cons query (Text.splitOn_ne_nil rest), shorter rest.length less rest rfl]
    · rw [Text.splitOn_eq_singleton slash]
      rfl

/-- Whether a part of a path leads somewhere. -/
def leadsSomewhere (part : List Char) : Bool := !part.isEmpty && part != ['.']

theorem map_toList_names (path : String) :
    (Path.names path).map String.toList = (Text.splitOn '/' path.toList).filter leadsSomewhere := by
  have here (part : List Char) : (String.ofList part != ".") = (part != ['.']) := by
    rw [Bool.eq_iff_iff, bne_iff_ne, bne_iff_ne, ne_eq, ne_eq, ← String.toList_inj,
      String.toList_ofList]
    rfl
  have text : String.toList ∘ String.ofList = id := funext fun _ => String.toList_ofList
  simp only [Path.names, Path.steps, List.filter_map, List.map_map, List.filter_filter, text,
    List.map_id]
  exact List.filter_congr fun part _ => by simp [leadsSomewhere, here, Bool.and_comm]

/-- Without a slash at the end, the last step is the last part of the path. -/
theorem getLast?_splitOn {path name : String} (open_ : Path.endsWithSlash path = false)
    (last : (Path.steps path).getLast? = some name) :
    (Text.splitOn '/' path.toList).getLast? = some name.toList := by
  obtain unslashed | ⟨front, c, back, whole, slash, unslashed⟩ :=
    Text.unmarked_or_last_mark (· == '/') path.toList
  · have one : '/' ∉ path.toList := fun member => by simpa using unslashed '/' member
    rw [Path.steps, Text.splitOn_eq_singleton one] at last
    rw [Text.splitOn_eq_singleton one]
    cases empty : path.toList.isEmpty with
    | true => simp [empty] at last
    | false =>
      obtain rfl : path = name := by simpa [empty] using last
      rfl
  · obtain rfl : c = '/' := by simpa using slash
    have one : '/' ∉ back := fun member => by simpa using unslashed '/' member
    have more : back ≠ [] := by
      rintro rfl
      simp [Path.endsWithSlash, whole] at open_
    rw [Path.steps, whole, Text.splitOn_append, Text.splitOn_eq_singleton one] at last
    obtain rfl : String.ofList back = name := by simpa [List.filter_append, more] using last
    rw [whole, Text.splitOn_append, Text.splitOn_eq_singleton one, String.toList_ofList]
    simp

/-- The dialect of a file is told by the steps of its path. -/
theorem detect?_eq_of_parts_eq {w : World} {a b : String} {p q : Tree.Place}
    {bytes other : List UInt8} (same : Path.parts a = Path.parts b)
    (fileA : w.resolve a = .ok (p, .file bytes)) (fileB : w.resolve b = .ok (q, .file other)) :
    detect? a = detect? b := by
  have telling {path : String} {p : Tree.Place} {bytes : List UInt8}
      (file : w.resolve path = .ok (p, .file bytes)) :
      tellingPart ((Path.names path).map String.toList) =
        tellingPart (Text.splitOn '/' path.toList) := by
    obtain ⟨open_, name, last, valid⟩ := World.ends_with_name file
    rw [map_toList_names]
    refine tellingPart_filter (fun part query => ?_) (getLast?_splitOn open_ last) ?_
    · have other : part ≠ ['.'] := by
        rintro rfl
        simp at query
      simp [leadsSomewhere, List.ne_nil_of_mem query, other]
    · have some : name ≠ "" := Path.ne_empty_of_mem_steps (List.mem_of_getLast? last)
      have other : name.toList ≠ ['.'] := fun same => valid.1 (String.toList_injective same)
      simp [leadsSomewhere, some, other]
  apply detect?_congr
  rw [afterLast_dropQuery, afterLast_dropQuery b.toList, ← telling fileA, ← telling fileB,
    (Path.names_eq_of_parts_eq same).2]

end Language

/-! ## Violations -/

/-- In a file that is given in another spelling, the same rules are broken. -/
theorem map_rule_violationsIn {w : Tree.World} {a b : String} {p q : Tree.Place}
    {bytes other : List UInt8} (same : Tree.Path.parts a = Tree.Path.parts b)
    (fileA : w.resolve a = .ok (p, .file bytes)) (fileB : w.resolve b = .ok (q, .file other))
    (catalog : Catalog) :
    (violationsIn w.read catalog a).map (·.rule) = (violationsIn w.read catalog b).map (·.rule) := by
  cases Tree.World.resolve_eq_of_parts_eq same fileA fileB
  have found (text : String) : Violation.found a text = Violation.found b text := by
    funext r
    rw [Violation.found, Violation.found, Language.detect?_eq_of_parts_eq same fileA fileB]
  simp [violationsIn, Tree.World.read_of_resolve fileA, Tree.World.read_of_resolve fileB,
    Violation.collect, found, Function.comp_def]

end Patrol
