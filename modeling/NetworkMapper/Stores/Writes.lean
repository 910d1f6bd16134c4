import Mathlib.Data.List.Induction
import Mathlib.Logic.Function.Basic

/-!
# Files that are written one after the other

Opening a file empties it. A writer may stop at any moment, or raise after a part of
what it has to write.
-/

namespace Stores

variable {κ β : Type}

/-- What each path holds, where there is a file. -/
abbrev Files (κ β : Type) := κ → Option (List β)

/-- One file, all that is ever written to it, and whether its writer returns. -/
structure FileWrite (κ β : Type) where
  path : κ
  data : List β
  returns : Bool

/-- A moment of a run: before it opens its next file, within that file, or after it. -/
inductive Moment where
  | before
  | within (written : Nat)
  | after (rest : Moment)

variable [DecidableEq κ]

/-- The files at a moment. Nothing follows a writer that does not return. -/
def leave (files : Files κ β) : List (FileWrite κ β) → Moment → Files κ β
  | [], _ => files
  | _ :: _, .before => files
  | w :: _, .within written => Function.update files w.path (some (w.data.take written))
  | w :: ws, .after rest =>
    let files := Function.update files w.path (some w.data)
    if w.returns then leave files ws rest else files

/-- The writers that have opened their file at a moment. -/
def reached : List (FileWrite κ β) → Moment → List (FileWrite κ β)
  | [], _ => []
  | _ :: _, .before => []
  | w :: _, .within _ => [w]
  | w :: ws, .after rest => w :: if w.returns then reached ws rest else []

omit [DecidableEq κ] in
theorem mem_of_reached {ws : List (FileWrite κ β)} {moment : Moment} {w : FileWrite κ β} (h : w ∈ reached ws moment) :
    w ∈ ws := by
  induction ws generalizing moment with
  | nil => exact absurd h List.not_mem_nil
  | cons v ws ih =>
    cases moment with
    | before => exact absurd h List.not_mem_nil
    | within written => simp_all [reached]
    | after rest =>
      rw [reached, List.mem_cons] at h
      rcases h with rfl | h
      · exact List.mem_cons_self
      · split at h
        · exact List.mem_cons_of_mem _ (ih h)
        · exact absurd h List.not_mem_nil

/-- A file that nobody opens is not touched, and one that has been opened is as its last writer left it. -/
theorem leave_cases (files : Files κ β) (ws : List (FileWrite κ β)) (moment : Moment) (path : κ) :
    ((∀ w ∈ reached ws moment, w.path ≠ path) ∧ leave files ws moment path = files path) ∨
      ∃ w ∈ reached ws moment, w.path = path ∧ ∃ n, leave files ws moment path = some (w.data.take n) := by
  induction ws generalizing files moment with
  | nil => exact Or.inl ⟨by simp [reached], rfl⟩
  | cons w ws ih =>
    have hopened : ∀ n, Function.update files w.path (some (w.data.take n)) path = files path ∧ w.path ≠ path ∨
        Function.update files w.path (some (w.data.take n)) path = some (w.data.take n) ∧ w.path = path := by
      intro n
      by_cases hw : w.path = path
      · exact Or.inr ⟨by rw [← hw, Function.update_self], hw⟩
      · exact Or.inl ⟨Function.update_of_ne (Ne.symm hw) _ _, hw⟩
    cases moment with
    | before => exact Or.inl ⟨by simp [reached], rfl⟩
    | within written =>
      refine (hopened written).imp ?_ ?_
      · rintro ⟨hsame, hw⟩
        exact ⟨List.forall_mem_singleton.mpr hw, hsame⟩
      · rintro ⟨hdata, hw⟩
        exact ⟨w, List.mem_singleton_self w, hw, written, hdata⟩
    | after rest =>
      have hfirst := hopened w.data.length
      rw [List.take_length] at hfirst
      cases hreturns : w.returns with
      | false =>
        simp only [leave, reached, hreturns, Bool.false_eq_true, if_false]
        refine hfirst.imp ?_ ?_
        · rintro ⟨hsame, hw⟩
          exact ⟨List.forall_mem_singleton.mpr hw, hsame⟩
        · rintro ⟨hdata, hw⟩
          exact ⟨w, List.mem_singleton_self w, hw, w.data.length, by rw [hdata, List.take_length]⟩
      | true =>
        simp only [leave, reached, hreturns, if_true]
        rcases ih (Function.update files w.path (some w.data)) rest with ⟨hrest, hsame⟩ | ⟨v, hv, hpath, n, hdata⟩
        · rw [hsame]
          refine hfirst.imp ?_ ?_
          · rintro ⟨hfiles, hw⟩
            exact ⟨List.forall_mem_cons.mpr ⟨hw, hrest⟩, hfiles⟩
          · rintro ⟨hdata, hw⟩
            exact ⟨w, List.mem_cons_self, hw, w.data.length, by rw [hdata, List.take_length]⟩
        · exact Or.inr ⟨v, List.mem_cons_of_mem _ hv, hpath, n, hdata⟩

theorem leave_unopened (files : Files κ β) (ws : List (FileWrite κ β)) (moment : Moment) (path : κ)
    (h : ∀ w ∈ reached ws moment, w.path ≠ path) : leave files ws moment path = files path := by
  rcases leave_cases files ws moment path with ⟨-, hsame⟩ | ⟨w, hw, hpath, -⟩
  · exact hsame
  · exact absurd hpath (h w hw)

theorem leave_other (files : Files κ β) (ws : List (FileWrite κ β)) (moment : Moment) (path : κ)
    (h : ∀ w ∈ ws, w.path ≠ path) : leave files ws moment path = files path :=
  leave_unopened files ws moment path fun w hw => h w (mem_of_reached hw)

/-- As long as one file is not there as a whole, nobody comes to the files after it. -/
theorem leave_first (files : Files κ β) (earlier : List (FileWrite κ β)) (w : FileWrite κ β)
    (later : List (FileWrite κ β)) (moment : Moment) (hw : ∀ v ∈ later, v.path ≠ w.path) :
    (∀ v ∈ reached (earlier ++ w :: later) moment, v ∈ earlier ++ [w]) ∨
      leave files (earlier ++ w :: later) moment w.path = some w.data := by
  induction earlier generalizing files moment with
  | nil =>
    cases moment with
    | before => exact Or.inl fun v hv => absurd hv List.not_mem_nil
    | within written => exact Or.inl fun v hv => hv
    | after rest =>
      rw [List.nil_append, reached, leave]
      cases w.returns with
      | false => exact Or.inl fun v hv => hv
      | true => exact Or.inr (by rw [if_pos rfl, leave_other _ _ _ _ hw, Function.update_self])
  | cons first earlier ih =>
    have hfirst : ∀ v ∈ [first], v ∈ first :: earlier ++ [w] := by simp
    cases moment with
    | before => exact Or.inl fun v hv => absurd hv List.not_mem_nil
    | within written => exact Or.inl hfirst
    | after rest =>
      rw [List.cons_append, reached, leave]
      cases first.returns with
      | false => exact Or.inl hfirst
      | true =>
        refine (ih (Function.update files first.path (some first.data)) rest).imp_left fun hrest => ?_
        exact List.forall_mem_cons.mpr
          ⟨List.mem_cons_self, fun v hv => List.mem_cons_of_mem _ (hrest v hv)⟩

/-- The files that are done at a moment, as far as their writers return. -/
def Moment.completed : Moment → Nat
  | .before | .within _ => 0
  | .after rest => rest.completed + 1

theorem leave_completed (files : Files κ β) (earlier : List (FileWrite κ β)) (w : FileWrite κ β)
    (later : List (FileWrite κ β)) (moment : Moment) (hreturns : ∀ v ∈ earlier ++ w :: later, v.returns = true)
    (hmoment : earlier.length < moment.completed) (hw : ∀ v ∈ later, v.path ≠ w.path) :
    leave files (earlier ++ w :: later) moment w.path = some w.data := by
  induction earlier generalizing files moment with
  | nil =>
    cases moment with
    | before => simp [Moment.completed] at hmoment
    | within written => simp [Moment.completed] at hmoment
    | after rest =>
      rw [List.nil_append, leave, hreturns w (by simp), if_pos rfl, leave_other _ _ _ _ hw, Function.update_self]
  | cons v earlier ih =>
    cases moment with
    | before => simp [Moment.completed] at hmoment
    | within written => simp [Moment.completed] at hmoment
    | after rest =>
      rw [List.cons_append, leave, hreturns v (by simp), if_pos rfl]
      refine ih _ rest (fun v' hv' => hreturns v' (List.mem_cons_of_mem _ hv')) ?_
      simp only [List.length_cons, Moment.completed] at hmoment
      omega

/-! ## Runs -/

/-- A run, and the moment at which it ends. -/
structure Run (κ β : Type) where
  writes : List (FileWrite κ β)
  ends : Moment

def Run.touches (run : Run κ β) (path : κ) : Prop := ∃ w ∈ run.writes, w.path = path

/-- The run has come to the file. -/
def Run.opens (run : Run κ β) (path : κ) : Prop := ∃ w ∈ reached run.writes run.ends, w.path = path

def leaveAll (files : Files κ β) (runs : List (Run κ β)) : Files κ β :=
  runs.foldl (fun files run => leave files run.writes run.ends) files

theorem leaveAll_kept (files : Files κ β) (earlier later : List (Run κ β)) (path : κ)
    (h : ∀ run ∈ later, ¬ run.touches path) : leaveAll files (earlier ++ later) path = leaveAll files earlier path := by
  unfold leaveAll
  rw [List.foldl_append]
  induction later using List.reverseRecOn with
  | nil => rfl
  | append_singleton later run ih =>
    rw [List.forall_mem_append, List.forall_mem_singleton] at h
    rw [List.foldl_append, List.foldl_cons, List.foldl_nil, leave_other, ih h.1]
    intro w hw hpath
    exact h.2 ⟨w, hw, hpath⟩

/-- After any number of runs a file is as it was before them, or as the last run left it that opened it. -/
theorem leaveAll_last (files : Files κ β) (runs : List (Run κ β)) (path : κ) :
    ((∀ run ∈ runs, ¬ run.opens path) ∧ leaveAll files runs path = files path) ∨
      ∃ earlier run later, runs = earlier ++ run :: later ∧ (∀ r ∈ later, ¬ r.opens path) ∧
        ∃ w ∈ run.writes, w.path = path ∧ ∃ n, leaveAll files runs path = some (w.data.take n) := by
  induction runs using List.reverseRecOn with
  | nil => exact Or.inl ⟨by simp, rfl⟩
  | append_singleton runs run ih =>
    have hlast : leaveAll files (runs ++ [run]) = leave (leaveAll files runs) run.writes run.ends := by
      unfold leaveAll
      rw [List.foldl_append]
      rfl
    rcases leave_cases (leaveAll files runs) run.writes run.ends path with ⟨hclosed, hsame⟩ | ⟨w, hw, hpath, n, hdata⟩
    · have hopens : ¬ run.opens path := fun ⟨w, hw, hpath⟩ => hclosed w hw hpath
      rw [hlast, hsame]
      refine ih.imp ?_ ?_
      · rintro ⟨hruns, hfiles⟩
        exact ⟨List.forall_mem_append.mpr ⟨hruns, List.forall_mem_singleton.mpr hopens⟩, hfiles⟩
      · rintro ⟨earlier, run', later, rfl, hlater, hwritten⟩
        refine ⟨earlier, run', later ++ [run], by simp, ?_, hwritten⟩
        exact List.forall_mem_append.mpr ⟨hlater, List.forall_mem_singleton.mpr hopens⟩
    · refine Or.inr ⟨runs, run, [], rfl, by simp, w, mem_of_reached hw, hpath, n, ?_⟩
      rw [hlast, hdata]

end Stores
