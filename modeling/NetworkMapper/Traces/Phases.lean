import Mathlib.Algebra.Order.Group.Defs
import Mathlib.Algebra.Order.Monoid.Unbundled.Basic
import Mathlib.Tactic.Abel

/-!
# Traces of phases

A phase is open from its start to its finish, and counts its ticks from one on. A start
while another phase is open abandons that phase.
-/

namespace Traces

/-- How much of a phase is done, and of how much, where that is known. -/
structure Count where
  done : Nat
  total : Option Nat
  deriving DecidableEq

def Count.Within (count : Count) : Prop := ∀ total ∈ count.total, count.done ≤ total

instance (count : Count) : Decidable count.Within :=
  inferInstanceAs (Decidable (∀ total ∈ count.total, count.done ≤ total))

inductive Mark (φ : Type) where
  | start (phase : φ)
  | tick (phase : φ) (count : Count)
  | finish (phase : φ) (count : Option Count)
  deriving DecidableEq

/-- An open phase and the ticks it had. -/
structure Opened (φ : Type) where
  phase : φ
  ticks : Nat
  deriving DecidableEq

variable {φ : Type}

/-- The ticks of a phase, each one more than the one before. -/
def ticks (phase : φ) (total : Option Nat) (done : Nat) : Nat → List (Mark φ)
  | 0 => []
  | n + 1 => .tick phase ⟨done + 1, total⟩ :: ticks phase total (done + 1) n

theorem ticks_eq (phase : φ) (total : Option Nat) (done n : Nat) :
    ticks phase total done n = (List.range' (done + 1) n).map fun i => .tick phase ⟨i, total⟩ := by
  induction n generalizing done with
  | zero => rfl
  | succ n ih => rw [ticks, ih, List.range'_succ, List.map_cons]

variable [DecidableEq φ]

/-- What is open after a mark, and `none` for a mark that does not fit. `abandon` lets a phase start while
another one is open. -/
def next (abandon : Bool) (opened : Option (Opened φ)) : Mark φ → Option (Option (Opened φ))
  | .start phase => if abandon ∨ opened = none then some (some ⟨phase, 0⟩) else none
  | .tick phase count =>
    opened.bind fun o =>
      if o.phase = phase ∧ count.done = o.ticks + 1 ∧ count.Within then some (some ⟨phase, o.ticks + 1⟩) else none
  | .finish phase count =>
    opened.bind fun o => if o.phase = phase ∧ ∀ c ∈ count, c.Within then some none else none

def run (abandon : Bool) (opened : Option (Opened φ)) (marks : List (Mark φ)) : Option (Option (Opened φ)) :=
  marks.foldlM (next abandon) opened

variable {abandon : Bool} {opened opened' : Option (Opened φ)}

theorem run_marks_append (marks marks' : List (Mark φ)) :
    run abandon opened (marks ++ marks') = (run abandon opened marks).bind fun o => run abandon o marks' :=
  List.foldlM_append

theorem run_marks_cons (mark : Mark φ) (marks : List (Mark φ)) :
    run abandon opened (mark :: marks) = (next abandon opened mark).bind fun o => run abandon o marks :=
  List.foldlM_cons

theorem run_take {marks : List (Mark φ)} (h : run abandon opened marks = some opened') (n : Nat) :
    ∃ o, run abandon opened (marks.take n) = some o := by
  rw [← List.take_append_drop n marks, run_marks_append, Option.bind_eq_some_iff] at h
  obtain ⟨o, ho, -⟩ := h
  exact ⟨o, ho⟩

theorem next_abandon {mark : Mark φ} (h : next abandon opened mark = some opened') :
    next true opened mark = some opened' := by
  cases mark with
  | start phase =>
    simp only [next, Option.ite_none_right_eq_some] at h ⊢
    exact ⟨Or.inl trivial, h.2⟩
  | tick phase count => exact h
  | finish phase count => exact h

theorem run_abandon {marks : List (Mark φ)} (h : run abandon opened marks = some opened') :
    run true opened marks = some opened' := by
  induction marks generalizing opened with
  | nil => exact h
  | cons mark marks ih =>
    rw [run_marks_cons, Option.bind_eq_some_iff] at h
    obtain ⟨o, hnext, hrun⟩ := h
    rw [run_marks_cons, next_abandon hnext]
    exact ih hrun

/-! ## Whole phases -/

def Mark.finished : Mark φ → Option φ
  | .finish phase _ => some phase
  | _ => none

theorem run_ticks (phase : φ) (total : Option Nat) (n done : Nat) (h : ∀ t ∈ total, done + n ≤ t) :
    run abandon (some ⟨phase, done⟩) (ticks phase total done n) = some (some ⟨phase, done + n⟩) := by
  induction n generalizing done with
  | zero => rfl
  | succ n ih =>
    have hwithin : Count.Within ⟨done + 1, total⟩ := by
      intro t ht
      have hle := h t ht
      simp only
      omega
    have hnext : next abandon (some ⟨phase, done⟩) (.tick phase ⟨done + 1, total⟩) = some (some ⟨phase, done + 1⟩) := by
      simp only [next, Option.bind_some]
      rw [if_pos ⟨trivial, trivial, hwithin⟩]
    rw [ticks, run_marks_cons, hnext, Option.bind_some, ih (done + 1)]
    · rw [Nat.add_assoc, Nat.add_comm 1 n]
    · intro t ht
      have hle := h t ht
      omega

/-- A phase from its start to its finish, with `n` ticks. -/
def phaseMarks (phase : φ) (total : Option Nat) (n : Nat) (count : Option Count) : List (Mark φ) :=
  .start phase :: ticks phase total 0 n ++ [.finish phase count]

theorem run_phaseMarks (phase : φ) (total : Option Nat) (n : Nat) (count : Option Count) (ho : abandon ∨ opened = none)
    (h : ∀ t ∈ total, n ≤ t) (hcount : ∀ c ∈ count, c.Within) :
    run abandon opened (phaseMarks phase total n count) = some none := by
  have hticks : run abandon (some ⟨phase, 0⟩) (ticks phase total 0 n) = some (some ⟨phase, 0 + n⟩) := by
    apply run_ticks
    intro t ht
    have hle := h t ht
    omega
  unfold phaseMarks
  rw [List.cons_append, run_marks_cons, next, if_pos ho, Option.bind_some, run_marks_append, hticks, Option.bind_some, run_marks_cons,
    next, Option.bind_some, if_pos ⟨rfl, hcount⟩]
  rfl

omit [DecidableEq φ] in
theorem finished_phaseMarks (phase : φ) (total : Option Nat) (n : Nat) (count : Option Count) :
    (phaseMarks phase total n count).filterMap Mark.finished = [phase] := by
  have hticks : (ticks phase total 0 n).filterMap Mark.finished = [] := by
    rw [ticks_eq, List.filterMap_map]
    exact List.filterMap_eq_nil_iff.mpr fun _ _ => rfl
  unfold phaseMarks
  rw [List.cons_append, List.filterMap_cons, List.filterMap_append, hticks]
  rfl

/-! ## Spans of time -/

section Spans

variable {τ : Type}

/-- The end of the last span. -/
def endOf (lower : τ) : List (τ × τ) → τ
  | [] => lower
  | span :: spans => endOf span.2 spans

theorem endOf_eq_getLast (lower : τ) (spans : List (τ × τ)) : endOf lower spans = (spans.getLast?.map Prod.snd).getD lower := by
  induction spans generalizing lower with
  | nil => rfl
  | cons span spans ih =>
    rw [endOf, ih, List.getLast?_cons, Option.map_some, Option.getD_some]
    cases spans.getLast? <;> rfl

variable [LinearOrder τ]

/-- Spans that begin at `lower` or later, none of them before the one in front of it ends. -/
def Successive (lower : τ) : List (τ × τ) → Prop
  | [] => True
  | span :: spans => lower ≤ span.1 ∧ span.1 ≤ span.2 ∧ Successive span.2 spans

theorem Successive.bounds {lower : τ} {spans : List (τ × τ)} (h : Successive lower spans) (span : τ × τ)
    (hspan : span ∈ spans) : lower ≤ span.1 ∧ span.1 ≤ span.2 := by
  induction spans generalizing lower with
  | nil => exact absurd hspan List.not_mem_nil
  | cons head spans ih =>
    obtain ⟨hlower, hhead, hrest⟩ := h
    rcases List.mem_cons.mp hspan with rfl | hspan
    · exact ⟨hlower, hhead⟩
    · obtain ⟨hle, hle'⟩ := ih hrest hspan
      exact ⟨(hlower.trans hhead).trans hle, hle'⟩

theorem Successive.pairwise {lower : τ} {spans : List (τ × τ)} (h : Successive lower spans) :
    spans.Pairwise fun s s' => s.2 ≤ s'.1 := by
  induction spans generalizing lower with
  | nil => exact List.Pairwise.nil
  | cons span spans ih =>
    obtain ⟨-, -, hrest⟩ := h
    exact List.Pairwise.cons (fun s hs => (hrest.bounds s hs).1) (ih hrest)

variable [AddCommGroup τ] [IsOrderedAddMonoid τ]

def lengths (spans : List (τ × τ)) : τ := (spans.map fun span => span.2 - span.1).sum

/-- Spans one after the other are not longer than all the time they are in. -/
theorem Successive.lengths_le {lower : τ} {spans : List (τ × τ)} (h : Successive lower spans) :
    lengths spans ≤ endOf lower spans - lower := by
  induction spans generalizing lower with
  | nil => simp [lengths, endOf]
  | cons span spans ih =>
    obtain ⟨hlower, hspan, hrest⟩ := h
    have hlengths : lengths (span :: spans) = (span.2 - span.1) + lengths spans := List.sum_cons
    rw [hlengths]
    calc span.2 - span.1 + lengths spans
        ≤ span.2 - lower + (endOf span.2 spans - span.2) := add_le_add (sub_le_sub_left hlower _) (ih hrest)
      _ = endOf lower (span :: spans) - lower := by rw [endOf]; abel

end Spans

end Traces
