import Patrol.Proofs.Check.Run

/-! Files looked at by several workers at a time. Each takes files that nobody has taken and does
its work on them step by step; the steps of different workers come in any order. -/
namespace Patrol.Check
open Patrol.Tree (World)

/-- What a worker does at one go, for all others to see. -/
inductive Effect where
  | checked
  | emitted (report : String)
  | reported
  | counted (violations : Nat)
  | stopped (because : Violation)

namespace Effect

def checks : Effect → Nat
  | .checked => 1
  | _ => 0

def reports : Effect → Nat
  | .reported => 1
  | _ => 0

def violations : Effect → Nat
  | .counted n => n
  | _ => 0

def report? : Effect → Option String
  | .emitted report => some report
  | _ => none

def stop? : Effect → Option Violation
  | .stopped because => some because
  | _ => none

end Effect

/-- What a worker does for a file, in this order: the file counts as checked before it is looked at,
and its report is shown before it counts as reported. -/
def effects (f : Inspected) : List Effect :=
  .checked ::
    match f.inspection with
    | .reported vs => [.emitted (Report.render f.file vs), .reported, .counted vs.length]
    | .aborted v => [.stopped v]
    | _ => []

/-- The work on a file; there is none where it cannot be read. -/
def work (reader : Reader) (i : Inspector) (file : String) : List Effect :=
  match inspectFile? reader i file with
  | some f => effects f
  | none => []

/-- The counters, the reports as they came, and the reasons to stop. -/
structure Tally where
  checked : Nat
  reported : Nat
  violations : Nat
  sink : List String
  stops : List Violation

namespace Tally

def zero : Tally := ⟨0, 0, 0, [], []⟩

def apply (t : Tally) : Effect → Tally
  | .checked => { t with checked := t.checked + 1 }
  | .emitted report => { t with sink := t.sink ++ [report] }
  | .reported => { t with reported := t.reported + 1 }
  | .counted n => { t with violations := t.violations + n }
  | .stopped because => { t with stops := t.stops ++ [because] }

def ofEffects (es : List Effect) : Tally := es.foldl apply zero

theorem foldl_apply (es : List Effect) (t : Tally) :
    es.foldl apply t =
      ⟨t.checked + total Effect.checks es, t.reported + total Effect.reports es,
        t.violations + total Effect.violations es, t.sink ++ es.filterMap Effect.report?,
        t.stops ++ es.filterMap Effect.stop?⟩ := by
  induction es generalizing t with
  | nil => simp
  | cons e es ih =>
    rw [List.foldl_cons, ih]
    cases e <;> simp [apply, Effect.checks, Effect.reports, Effect.violations, Effect.report?,
      Effect.stop?, Nat.add_assoc, List.filterMap_cons]

theorem ofEffects_eq (es : List Effect) :
    ofEffects es =
      ⟨total Effect.checks es, total Effect.reports es, total Effect.violations es,
        es.filterMap Effect.report?, es.filterMap Effect.stop?⟩ := by
  simp [ofEffects, foldl_apply, zero]

/-- Whether two tallies differ at most in the order of what was shown. -/
def Agree (a b : Tally) : Prop :=
  a.checked = b.checked ∧ a.reported = b.reported ∧ a.violations = b.violations ∧
    a.sink.Perm b.sink ∧ a.stops.Perm b.stops

theorem ofEffects_perm {es fs : List Effect} (same : es.Perm fs) :
    (ofEffects es).Agree (ofEffects fs) := by
  simp only [ofEffects_eq]
  exact ⟨total_perm _ same, total_perm _ same, total_perm _ same, same.filterMap _,
    same.filterMap _⟩

end Tally

/-- The files that nobody has taken, what each worker still has to do, and what was done. -/
structure Pool where
  waiting : List String
  busy : List (List Effect)
  tally : Tally

namespace Pool

def start (files : List String) : Pool := ⟨files, [], .zero⟩

/-- One step of one worker: it takes a file, or goes on with one that it has. Once there is a reason
to stop, files may be left. -/
inductive Step (job : String → List Effect) : Pool → Pool → Prop
  | take (front : List String) (file : String) (back : List String) (busy : List (List Effect))
      (tally : Tally) :
      Step job ⟨front ++ file :: back, busy, tally⟩ ⟨front ++ back, busy ++ [job file], tally⟩
  | act (waiting : List String) (front : List (List Effect)) (e : Effect) (rest : List Effect)
      (back : List (List Effect)) (tally : Tally) :
      Step job ⟨waiting, front ++ (e :: rest) :: back, tally⟩
        ⟨waiting, front ++ rest :: back, tally.apply e⟩
  | leave (front : List String) (file : String) (back : List String) (busy : List (List Effect))
      (tally : Tally) (stopped : tally.stops ≠ []) :
      Step job ⟨front ++ file :: back, busy, tally⟩ ⟨front ++ back, busy, tally⟩

/-- So many steps, of any workers. -/
inductive Run (job : String → List Effect) (files : List String) : Nat → Pool → Prop
  | start : Run job files 0 (start files)
  | step {n : Nat} {a b : Pool} (before : Run job files n a) (next : Step job a b) :
      Run job files (n + 1) b

/-- A pool in which nothing more can happen. -/
def Ended (job : String → List Effect) (p : Pool) : Prop := ∀ next, ¬Step job p next

variable {job : String → List Effect} {files : List String}

/-- What is still to be done. -/
def pending (job : String → List Effect) (p : Pool) : List Effect :=
  p.busy.flatten ++ p.waiting.flatMap job

/-- What was done and what is still to be done are together all the work there is. -/
def Accounts (job : String → List Effect) (files : List String) (p : Pool) : Prop :=
  ∃ done, p.tally = .ofEffects done ∧ (done ++ p.pending job).Perm (files.flatMap job)

theorem Accounts.step {a b : Pool} (next : Step job a b)
    (calm : ∀ e ∈ files.flatMap job, e.stop? = none) (accounts : Accounts job files a) :
    Accounts job files b := by
  obtain ⟨done, tally_eq, all⟩ := accounts
  cases next with
  | take front file back busy tally =>
    refine ⟨done, tally_eq, List.Perm.trans ?_ all⟩
    have moved : (job file ++ (front.flatMap job ++ back.flatMap job)).Perm
        (front.flatMap job ++ (job file ++ back.flatMap job)) := List.perm_append_comm_assoc ..
    simpa [pending] using (moved.append_left busy.flatten).append_left done
  | act waiting front e rest back tally =>
    refine ⟨done ++ [e], ?_, List.Perm.trans ?_ all⟩
    · simp only at tally_eq
      rw [tally_eq, Tally.ofEffects, Tally.ofEffects, List.foldl_append]
      rfl
    · have moved : (e :: (front.flatten ++ (rest ++ (back.flatten ++ waiting.flatMap job)))).Perm
          (front.flatten ++ e :: (rest ++ (back.flatten ++ waiting.flatMap job))) :=
        List.perm_middle.symm
      simpa [pending] using moved.append_left done
  | leave front file back busy tally stopped =>
    have none : tally.stops = [] := by
      simp only at tally_eq
      rw [tally_eq, Tally.ofEffects_eq]
      refine List.filterMap_eq_nil_iff.2 fun e member => calm e ?_
      exact all.subset (List.mem_append_left _ member)
    exact absurd none stopped

theorem Run.accounts {n : Nat} {p : Pool} (run : Run job files n p)
    (calm : ∀ e ∈ files.flatMap job, e.stop? = none) : Accounts job files p := by
  induction run with
  | start => exact ⟨[], rfl, by simp [Pool.start, pending]⟩
  | step _ next ih => exact ih.step next calm

/-- How many steps there can be at most. -/
def left (job : String → List Effect) (p : Pool) : Nat :=
  total List.length p.busy + total (fun file => (job file).length + 1) p.waiting

theorem Step.left_lt {a b : Pool} (next : Step job a b) : b.left job < a.left job := by
  cases next with
  | take => simp [left]; omega
  | act | leave => simp [left]

theorem Run.bounded {n : Nat} {p : Pool} (run : Run job files n p) :
    n + p.left job ≤ (Pool.start files).left job := by
  induction run with
  | start => omega
  | step _ next ih =>
    have := next.left_lt
    omega

/-- Nothing more can happen only where nothing is left to be done. -/
theorem Ended.pending {p : Pool} (ended : p.Ended job) : p.pending job = [] := by
  obtain ⟨waiting, busy, tally⟩ := p
  have taken : waiting = [] := by
    cases waiting with
    | nil => rfl
    | cons file rest => exact absurd (Step.take [] file rest busy tally) (ended _)
  have idle : ∀ rest ∈ busy, rest = [] := by
    intro rest member
    cases rest with
    | nil => rfl
    | cons e rest =>
      obtain ⟨front, back, rfl⟩ := List.append_of_mem member
      exact absurd (Step.act waiting front e rest back tally) (ended _)
  simp [Pool.pending, taken, List.flatten_eq_nil_iff.2 idle]

/-- All workers together end with the same numbers and reports, whatever the order of their
steps. -/
theorem Run.tally_agree {n : Nat} {p : Pool} (run : Run job files n p)
    (calm : ∀ e ∈ files.flatMap job, e.stop? = none) (ended : p.Ended job) :
    p.tally.Agree (.ofEffects (files.flatMap job)) := by
  obtain ⟨done, tally_eq, all⟩ := run.accounts calm
  rw [ended.pending, List.append_nil] at all
  exact tally_eq ▸ Tally.ofEffects_perm all

end Pool
end Patrol.Check
