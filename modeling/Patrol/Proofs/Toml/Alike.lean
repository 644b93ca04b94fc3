import Patrol.Proofs.Toml.Decode
import Patrol.Proofs.Toml.Keyed

/-! Values that are equal up to the order of keys. Whatever is taken for a setting is taken for the
same one with its keys in another order. Which of several complaints comes first does depend on the
order, but not whether there is one. -/
namespace Patrol.Toml

/-- Whether two values are equal up to the order of the keys in each of their tables. A number with
a fraction can be written in many ways; like times, such numbers count as equal, since no setting is
one. -/
inductive Value.Alike : Value → Value → Prop
  | same (v : Value) : Alike v v
  | real (x y : Real) : Alike (.real x) (.real y)
  | array {xs ys : List Value} (items : List.Forall₂ Alike xs ys) : Alike (.array xs) (.array ys)
  | table {a b c : List (String × Value)} (order : a.Perm c)
      (keys : c.map (·.1) = b.map (·.1))
      (values : List.Forall₂ Alike (c.map (·.2)) (b.map (·.2))) : Alike (.table a) (.table b)

/-- Two values without keys that stand twice, equal up to their order. -/
structure Value.Twins (v w : Value) : Prop where
  alike : v.Alike w
  left : v.Keyed
  right : w.Keyed

/-- Lists of entries with the same keys in the same order, and with values that are equal up to the
order of keys. -/
abbrev Parallel (a b : List (String × Value)) : Prop :=
  List.Forall₂ (fun x y => x.1 = y.1 ∧ x.2.Twins y.2) a b

theorem Value.Keyed.twins {v : Value} (keyed : v.Keyed) : v.Twins v := ⟨.same v, keyed, keyed⟩

theorem forall₂_twins {xs ys : List Value} (items : List.Forall₂ Value.Alike xs ys)
    (left : ∀ v ∈ xs, v.Keyed) (right : ∀ v ∈ ys, v.Keyed) : List.Forall₂ Value.Twins xs ys := by
  induction items with
  | nil => exact .nil
  | cons first _ ih =>
    obtain ⟨ownLeft, left⟩ := List.forall_mem_cons.1 left
    obtain ⟨ownRight, right⟩ := List.forall_mem_cons.1 right
    exact .cons ⟨first, ownLeft, ownRight⟩ (ih left right)

theorem parallel_of_values {a b : List (String × Value)} (keys : a.map (·.1) = b.map (·.1))
    (values : List.Forall₂ Value.Twins (a.map (·.2)) (b.map (·.2))) : Parallel a b := by
  rw [List.forall₂_map_left_iff, List.forall₂_map_right_iff] at values
  rw [← List.forall₂_eq_eq_eq, List.forall₂_map_left_iff, List.forall₂_map_right_iff] at keys
  exact List.Forall₂.mp (fun _ _ key value => ⟨key, value⟩) keys values

/-- What values that are equal up to the order of keys look like, side by side. -/
inductive Value.Pairs : Value → Value → Prop
  | plain {v : Value} (noItems : ∀ items, v ≠ .array items)
      (noEntries : ∀ entries, v ≠ .table entries) : Pairs v v
  | real {x y : Real} : Pairs (.real x) (.real y)
  | array {xs ys : List Value} (items : List.Forall₂ Value.Twins xs ys) :
      Pairs (.array xs) (.array ys)
  | table {a b c : List (String × Value)} (distinct : (a.map (·.1)).Nodup) (order : a.Perm c)
      (entries : Parallel c b) : Pairs (.table a) (.table b)

theorem Value.Keyed.pairs {v : Value} (keyed : v.Keyed) : v.Pairs v := by
  cases v with
  | array items =>
    exact .array (List.forall₂_same.2 fun v member => (keyed_array_iff.1 keyed v member).twins)
  | table entries =>
    obtain ⟨distinct, each⟩ := keyed_table_iff.1 keyed
    exact .table distinct (.refl entries)
      (List.forall₂_same.2 fun entry member => ⟨rfl, (each entry member).twins⟩)
  | string _ | integer _ | real _ | boolean _ | time => exact .plain nofun nofun

theorem Value.Twins.pairs {v w : Value} (twins : v.Twins w) : v.Pairs w := by
  obtain ⟨alike, left, right⟩ := twins
  cases alike with
  | same => exact left.pairs
  | real => exact .real
  | array items =>
    exact .array (forall₂_twins items (keyed_array_iff.1 left) (keyed_array_iff.1 right))
  | table order keys values =>
    obtain ⟨distinct, each⟩ := keyed_table_iff.1 left
    have eachRight := (keyed_table_iff.1 right).2
    refine .table distinct order (parallel_of_values keys (forall₂_twins values ?_ ?_))
    · exact List.forall_mem_map.2 fun entry member => each entry (order.mem_iff.2 member)
    · exact List.forall_mem_map.2 eachRight

/-! ## Results side by side -/

section
variable {α β γ δ : Type} {R : α → β → Prop} {x : Option α} {y : Option β}

theorem rel_mono {S : α → β → Prop} (weaker : ∀ {a b}, R a b → S a b) (rel : Option.Rel R x y) :
    Option.Rel S x y := by
  cases rel with
  | none => exact .none
  | some own => exact .some (weaker own)

theorem rel_bind {S : γ → δ → Prop} {f : α → Option γ} {g : β → Option δ}
    (rel : Option.Rel R x y) (next : ∀ {a b}, R a b → Option.Rel S (f a) (g b)) :
    Option.Rel S (x.bind f) (y.bind g) := by
  cases rel with
  | none => exact .none
  | some own => exact next own

theorem bind_eq_of_rel {f : α → Option γ} {g : β → Option γ} (rel : Option.Rel R x y)
    (next : ∀ {a b}, R a b → f a = g b) : x.bind f = y.bind g := by
  cases rel with
  | none => rfl
  | some own => exact next own

end

section
variable {ε α β : Type}

theorem toOption_bind (x : Except ε α) (f : α → Except ε β) :
    (x >>= f).toOption = x.toOption.bind fun a => (f a).toOption := by
  cases x <;> rfl

theorem toOption_pure (a : α) : (pure a : Except ε α).toOption = some a := rfl

theorem toOption_discard (x : Except ε α) : (discard x).toOption = x.toOption.map fun _ => () := by
  cases x <;> rfl

theorem toOption_eq_some_iff {x : Except ε α} {a : α} : x.toOption = some a ↔ x = .ok a := by
  cases x <;> simp [Except.toOption]

end

/-! ## Decoders -/

namespace Decoder
variable {α : Type} {d : Decoder α}

/-- Whether a decoder takes values for the same thing if they are equal up to the order of keys, and
takes none of them if it does not take another. -/
def Steady (d : Decoder α) : Prop := ∀ ⦃v w : Value⦄, v.Twins w → (d v).toOption = (d w).toOption

theorem steady_boolean : Steady boolean := fun v w twins => by
  cases twins.pairs <;> rfl

theorem steady_string : Steady string := fun v w twins => by
  cases twins.pairs <;> rfl

theorem Steady.mapM (steady : Steady d) {xs ys : List Value}
    (items : List.Forall₂ Value.Twins xs ys) : (xs.mapM d).toOption = (ys.mapM d).toOption := by
  induction items with
  | nil => rfl
  | cons first _ ih => simp only [List.mapM_cons, toOption_bind, steady first, ih]

theorem Steady.list (steady : Steady d) : Steady (list d) := fun v w twins => by
  cases twins.pairs with
  | plain | real | table => rfl
  | array items => exact steady.mapM items

theorem Steady.bind {β : Type} (steady : Steady d) (f : α → Except Mismatch β) :
    Steady fun v => d v >>= f := fun v w twins => by
  simp only [toOption_bind, steady twins]

/-- Whether a value is a table or an array and holds nothing. -/
def holdsNothing : Value → Bool
  | .table entries => entries.isEmpty
  | .array items => items.isEmpty
  | _ => false

theorem holdsNothing_twins {v w : Value} (twins : v.Twins w) : holdsNothing v = holdsNothing w := by
  cases twins.pairs with
  | plain | real => rfl
  | array items => cases items <;> rfl
  | table distinct order entries =>
    rw [holdsNothing, holdsNothing, order.isEmpty_eq]
    cases entries <;> rfl

theorem toOption_variant_singleton (choices : List (String × α)) (n : String) (v : Value) :
    (variant choices (.table [(n, v)])).toOption =
      if holdsNothing v then choices.lookup n else none := by
  rw [variant, toOption_bind]
  have chosen : (variant.choose choices n).toOption = choices.lookup n := by
    rw [variant.choose]
    cases choices.lookup n <;> rfl
  rw [chosen]
  cases choices.lookup n with
  | none => rw [ite_self]; rfl
  | some x =>
    cases v with
    | table inside | array inside => cases inside <;> rfl
    | string _ | integer _ | real _ | boolean _ | time => rfl

theorem toOption_variant_many (choices : List (String × α)) {entries : List (String × Value)}
    (many : entries.length ≠ 1) : (variant choices (.table entries)).toOption = none := by
  match entries with
  | [] => rfl
  | [_] => exact absurd rfl many
  | _ :: _ :: _ => rfl

theorem steady_variant (choices : List (String × α)) : Steady (variant choices) := by
  intro v w twins
  cases twins.pairs with
  | plain | real | array => rfl
  | @table a b c distinct order entries =>
    have length : a.length = b.length := order.length_eq.trans entries.length_eq
    by_cases one : a.length = 1
    · obtain ⟨⟨n, x⟩, rfl⟩ := List.length_eq_one_iff.1 one
      obtain rfl := List.perm_singleton.1 order.symm
      obtain ⟨⟨m, y⟩, rest, ⟨rfl, inside⟩, none, rfl⟩ := List.forall₂_cons_left_iff.1 entries
      obtain rfl := List.forall₂_nil_left_iff.1 none
      rw [toOption_variant_singleton, toOption_variant_singleton, holdsNothing_twins inside]
    · rw [toOption_variant_many choices one, toOption_variant_many choices (length ▸ one)]

end Decoder

/-! ## Records -/

/-- Whether what two lists of entries have under each key is equal up to the order of keys. -/
def Agree (a b : List (String × Value)) : Prop :=
  ∀ name, Option.Rel Value.Twins (a.lookup name) (b.lookup name)

theorem Parallel.agree {a b : List (String × Value)} (entries : Parallel a b) : Agree a b := by
  intro name
  induction entries with
  | nil => exact .none
  | @cons x y a b first _ ih =>
    obtain ⟨n, v⟩ := x
    obtain ⟨m, w⟩ := y
    obtain ⟨rfl, twins⟩ := first
    rw [List.lookup_cons, List.lookup_cons]
    cases name == n with
    | true => exact .some twins
    | false => exact ih

/-- Where keys differ, what is found under one of them is what it is given. -/
theorem lookup_eq_some_iff {a : List (String × Value)} (distinct : (a.map (·.1)).Nodup)
    {name : String} {v : Value} : a.lookup name = some v ↔ (name, v) ∈ a := by
  induction a with
  | nil => simp
  | cons entry a ih =>
    obtain ⟨n, w⟩ := entry
    obtain ⟨new, distinct⟩ := List.nodup_cons.1 distinct
    rw [List.lookup_cons, List.mem_cons, Prod.mk.injEq]
    by_cases same : name = n
    · subst same
      have absent : (name, v) ∉ a := fun member => new (List.mem_map.2 ⟨_, member, rfl⟩)
      simp [absent, eq_comm]
    · have apart : (name == n) = false := beq_eq_false_iff_ne.2 same
      simp only [apart, same, false_and, false_or]
      exact ih distinct

/-- The order of keys does not matter to what is found under them. -/
theorem lookup_perm {a c : List (String × Value)} (distinct : (a.map (·.1)).Nodup)
    (order : a.Perm c) (name : String) : a.lookup name = c.lookup name := by
  ext v
  rw [lookup_eq_some_iff distinct, lookup_eq_some_iff ((order.map _).nodup_iff.1 distinct),
    order.mem_iff]

section
variable {α : Type} {a b : List (String × Value)} {d : Decoder α} {name : String}

theorem Agree.optional? (agree : Agree a b) (steady : d.Steady) (default : α) :
    (optional? a name d default).toOption = (optional? b name d default).toOption := by
  have own := agree name
  unfold Toml.optional?
  generalize a.lookup name = x at own ⊢
  generalize b.lookup name = y at own ⊢
  cases own with
  | none => rfl
  | some twins => exact steady twins

theorem Agree.needed (agree : Agree a b) (steady : d.Steady) :
    (needed a name d).toOption = (needed b name d).toOption := by
  have own := agree name
  unfold Toml.needed
  generalize a.lookup name = x at own ⊢
  generalize b.lookup name = y at own ⊢
  cases own with
  | none => rfl
  | some twins => exact steady twins

theorem Decoder.Steady.discard (steady : d.Steady) : Steady fun v => discard (d v) :=
  fun v w twins => by
    rw [toOption_discard, toOption_discard, steady twins]

end

namespace Record
variable {r : Record} {a b : List (String × Value)}

theorem accepts_perm (order : a.Perm b) : r.Accepts a ↔ r.Accepts b := by
  constructor
  · rintro ⟨fit, complete⟩
    exact ⟨fun entry member => fit entry (order.mem_iff.2 member),
      fun field member required => (order.map _).mem_iff.1 (complete field member required)⟩
  · rintro ⟨fit, complete⟩
    exact ⟨fun entry member => fit entry (order.mem_iff.1 member),
      fun field member required => (order.map _).mem_iff.2 (complete field member required)⟩

variable (steady : ∀ field ∈ r.fields, field.check.Steady)
include steady

theorem fits_twins {name : String} {v w : Value} (twins : v.Twins w) :
    r.Fits name v ↔ r.Fits name w := by
  refine exists_congr fun field => and_congr_right fun found => ?_
  have same := steady field (List.mem_of_find?_eq_some found) twins
  rw [← toOption_eq_some_iff, same, toOption_eq_some_iff]

theorem accepts_parallel (entries : Parallel a b) : r.Accepts a ↔ r.Accepts b := by
  have keys : a.map (·.1) = b.map (·.1) := by
    rw [← List.forall₂_eq_eq_eq, List.forall₂_map_left_iff, List.forall₂_map_right_iff]
    exact entries.imp fun _ _ both => both.1
  have fit : (∀ entry ∈ a, r.Fits entry.1 entry.2) ↔ ∀ entry ∈ b, r.Fits entry.1 entry.2 := by
    clear keys
    induction entries with
    | nil => exact Iff.rfl
    | @cons x y a b first _ ih =>
      rw [List.forall_mem_cons, List.forall_mem_cons, ih, fits_twins steady first.2, first.1]
  constructor
  · rintro ⟨own, complete⟩
    exact ⟨fit.1 own, keys ▸ complete⟩
  · rintro ⟨own, complete⟩
    exact ⟨fit.2 own, keys ▸ complete⟩

theorem assign_parallel {length : Nat} {fields : List Field} (among : fields ⊆ r.fields)
    {xs ys : List Value} (items : List.Forall₂ Value.Twins xs ys) :
    Option.Rel Parallel (r.assign length fields xs).toOption
      (r.assign length fields ys).toOption := by
  induction fields generalizing xs ys with
  | nil => exact .some .nil
  | cons field fields ih =>
    obtain ⟨own, among⟩ := List.cons_subset.1 among
    cases items with
    | nil =>
      simp only [assign]
      split
      · exact .none
      · exact ih among .nil
    | @cons x y xs ys first items =>
      simp only [assign, toOption_bind, toOption_pure, steady field own first]
      cases (field.check y).toOption with
      | none => exact .none
      | some _ =>
        rw [Option.bind_some, Option.bind_some]
        exact rel_bind (ih among items) fun rest => .some (.cons ⟨rfl, first⟩ rest)

/-- What a record is given by values that are equal up to the order of keys. -/
theorem entries_agree {v w : Value} (twins : v.Twins w) :
    Option.Rel Agree (r.entries v).toOption (r.entries w).toOption := by
  cases twins.pairs with
  | plain noItems noEntries =>
    cases v with
    | array items => exact absurd rfl (noItems items)
    | table entries => exact absurd rfl (noEntries entries)
    | string _ | integer _ | real _ | boolean _ | time => exact .none
  | real => exact .none
  | @array xs ys items =>
    rw [entries, entries, ← items.length_eq]
    exact rel_mono Parallel.agree (assign_parallel steady (List.Subset.refl _) items)
  | @table a b c distinct order entries =>
    have accepts := (accepts_perm order).trans (accepts_parallel steady entries)
    by_cases taken : r.Accepts a
    · rw [entries_table_eq_ok_iff.2 ⟨rfl, taken⟩, entries_table_eq_ok_iff.2 ⟨rfl, accepts.1 taken⟩]
      refine .some fun name => ?_
      rw [lookup_perm distinct order]
      exact entries.agree name
    · rw [toOption_entries_table taken, toOption_entries_table (mt accepts.2 taken)]
      exact .none

/-- What is made of the fields of a record does not depend on their order. -/
theorem steady_decode {α : Type} {build : List (String × Value) → Except Mismatch α}
    (same : ∀ {a b}, Agree a b → (build a).toOption = (build b).toOption) :
    Decoder.Steady fun v => r.entries v >>= build := by
  intro v w twins
  rw [toOption_bind, toOption_bind]
  exact bind_eq_of_rel (entries_agree steady twins) same

end Record

end Patrol.Toml
