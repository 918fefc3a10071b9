import Lemmy.Queries
import Lemmy.Apub.Activity

namespace Lemmy

inductive Outgoing
  | acceptFollow (communityId : Nat) (follow : Activity)
  | announce (communityId : Nat) (activity : Activity)
  deriving DecidableEq, Repr

structure Received where
  kind : CommunityValidTypes
  activity : Activity
  deriving DecidableEq, Repr

structure State where
  db : Db
  sent : List Outgoing
  received : List Received

/-- A run of threads of kind `P`: the shared state, where each thread is, and the trace of
the steps taken so far, each as the thread and the point it stepped from. -/
structure Node (P : Type) where
  state : State
  threads : List P
  trace : List (Nat × P)

namespace Node

variable {P : Type} (step : P → Fault → State → P × State)

def start (s : State) (threads : List P) : Node P := ⟨s, threads, []⟩

def stepThread (n : Node P) (i : Nat) (f : Fault) : Node P :=
  match n.threads[i]? with
  | some p => ⟨(step p f n.state).2, n.threads.set i (step p f n.state).1, n.trace ++ [(i, p)]⟩
  | none => n

/-- A schedule: the thread that moves and how its call behaves, step after step. -/
def run (n : Node P) : List (Nat × Fault) → Node P
  | [] => n
  | (i, f) :: rest => run (stepThread step n i f) rest

@[simp] theorem run_nil (n : Node P) : run step n [] = n := rfl

@[simp] theorem run_cons (n : Node P) (i : Nat) (f : Fault) (rest : List (Nat × Fault)) :
    run step n ((i, f) :: rest) = run step (stepThread step n i f) rest := rfl

theorem run_inv (Inv : Node P → Prop) (hstep : ∀ n i f, Inv n → Inv (stepThread step n i f))
    {n : Node P} (h : Inv n) (sched : List (Nat × Fault)) : Inv (run step n sched) := by
  induction sched generalizing n with
  | nil => exact h
  | cons e sched ih => exact ih (hstep _ _ _ h)

theorem stepThread_of_get {n : Node P} {i : Nat} {p : P} (h : n.threads[i]? = some p) (f : Fault) :
    stepThread step n i f =
      ⟨(step p f n.state).2, n.threads.set i (step p f n.state).1, n.trace ++ [(i, p)]⟩ := by
  simp [stepThread, h]

theorem stepThread_of_none {n : Node P} {i : Nat} (h : n.threads[i]? = none) (f : Fault) :
    stepThread step n i f = n := by
  simp [stepThread, h]

theorem length_threads_stepThread (n : Node P) (i : Nat) (f : Fault) :
    (stepThread step n i f).threads.length = n.threads.length := by
  unfold stepThread; split <;> simp

theorem getElem?_set_eq_some {l : List P} {i j : Nat} {a e : P} (hi : i < l.length)
    (h : (l.set i a)[j]? = some e) : (j = i ∧ e = a) ∨ (j ≠ i ∧ l[j]? = some e) := by
  rw [List.getElem?_set] at h
  split at h
  · subst_vars; simp only [hi, if_true, Option.some.injEq] at h; exact .inl ⟨rfl, h.symm⟩
  · exact .inr ⟨Ne.symm ‹_›, h⟩

theorem trace_indices_step {n : Node P} (h : ∀ e ∈ n.trace, e.1 < n.threads.length) {i : Nat}
    (hi : i < n.threads.length) (p q : P) :
    ∀ e ∈ n.trace ++ [(i, p)], e.1 < (n.threads.set i q).length := by
  intro e he
  rw [List.length_set]
  rcases List.mem_append.mp he with he | he
  · exact h e he
  · rw [List.mem_singleton.mp he]; exact hi

/-- Every step of the schedule is one `W` allows at the node it is taken from. -/
def Allowed (W : Node P → Nat → Fault → Prop) : Node P → List (Nat × Fault) → Prop
  | _, [] => True
  | n, (i, f) :: rest => W n i f ∧ Allowed W (stepThread step n i f) rest

instance instDecidableAllowed (W : Node P → Nat → Fault → Prop) [∀ n i f, Decidable (W n i f)] :
    ∀ (n : Node P) (sched : List (Nat × Fault)), Decidable (Allowed step W n sched)
  | _, [] => isTrue trivial
  | n, (i, f) :: rest =>
    haveI := instDecidableAllowed W (stepThread step n i f) rest
    inferInstanceAs (Decidable (W n i f ∧ Allowed step W (stepThread step n i f) rest))

theorem run_inv_allowed (W : Node P → Nat → Fault → Prop) (Inv : Node P → Prop)
    (hstep : ∀ n i f, W n i f → Inv n → Inv (stepThread step n i f)) :
    ∀ {n : Node P} (sched : List (Nat × Fault)), Inv n → Allowed step W n sched →
      Inv (run step n sched)
  | _, [], h, _ => h
  | _, (_, _) :: sched, h, ⟨hw, hrest⟩ => run_inv_allowed W Inv hstep sched (hstep _ _ _ hw h) hrest

def Visited (n : Node P) (Q : P → Prop) (i : Nat) : Prop :=
  (∃ p, (i, p) ∈ n.trace ∧ Q p) ∨ ∃ p, n.threads[i]? = some p ∧ Q p

theorem visited_stepThread {n : Node P} {i : Nat} {p : P} (h : n.threads[i]? = some p)
    (f : Fault) (Q : P → Prop) (j : Nat) :
    Visited (stepThread step n i f) Q j ↔ Visited n Q j ∨ (j = i ∧ Q (step p f n.state).1) := by
  have hi : i < n.threads.length := (List.getElem?_eq_some_iff.mp h).1
  simp only [Visited, stepThread_of_get step h, List.mem_append, List.mem_singleton,
    Prod.mk.injEq, List.getElem?_set]
  constructor
  · rintro (⟨q, hq | ⟨rfl, rfl⟩, hQ⟩ | ⟨q, hq, hQ⟩)
    · exact .inl (.inl ⟨q, hq, hQ⟩)
    · exact .inl (.inr ⟨q, h, hQ⟩)
    · split at hq
      · subst_vars; simp only [hi, if_true, Option.some.injEq] at hq; subst hq; exact .inr ⟨rfl, hQ⟩
      · exact .inl (.inr ⟨q, hq, hQ⟩)
  · rintro ((⟨q, hq, hQ⟩ | ⟨q, hq, hQ⟩) | ⟨rfl, hQ⟩)
    · exact .inl ⟨q, .inl hq, hQ⟩
    · by_cases hji : i = j
      · subst hji; rw [h] at hq; cases hq; exact .inl ⟨p, .inr ⟨rfl, rfl⟩, hQ⟩
      · exact .inr ⟨q, by simpa [hji] using hq, hQ⟩
    · exact .inr ⟨_, by simp [hi], hQ⟩

end Node

/-- One thread alone, its calls behaving as `faults` one after another. -/
def solo {P : Type} (step : P → Fault → State → P × State) (p : P) (s : State) :
    List Fault → P × State
  | [] => (p, s)
  | f :: fs => solo step (step p f s).1 (step p f s).2 fs

theorem solo_inv {P : Type} {step : P → Fault → State → P × State} (I : P → State → Prop)
    {F : Fault → Prop} (hstep : ∀ p s f, F f → I p s → I (step p f s).1 (step p f s).2) :
    ∀ {fs : List Fault} {p : P} {s : State}, (∀ f ∈ fs, F f) → I p s →
      I (solo step p s fs).1 (solo step p s fs).2
  | [], _, _, _, h => h
  | f :: fs, p, s, hfs, h =>
    @solo_inv P step I F hstep fs _ _ (fun g hg => hfs g (.tail _ hg)) (hstep p s f (hfs f (.head _)) h)

end Lemmy
