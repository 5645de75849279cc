import Mathlib.Data.List.Chain
import Mathlib.Data.List.Induction

/-!
# Laws that hold throughout a run

A run is a list of what was done, oldest first, so its beginnings are its prefixes. A history of
a run lists what each step adds to it (`collect`), and a law of one step that hands over to the
next is a law of the history.
-/

namespace DisplayServer

/-- Where each step keeps a law under a condition and under no other, the law holds throughout a
run exactly if the condition is met at every step. -/
theorem forall_beginning_iff {κ : Type} {P : List κ → Prop} {Q : List κ → κ → Prop} {run : List κ}
    (hnil : P [])
    (hstep : ∀ beginning c, beginning ++ [c] <+: run → P beginning →
      (P (beginning ++ [c]) ↔ Q beginning c)) :
    (∀ beginning, beginning <+: run → P beginning) ↔
      ∀ beginning c, beginning ++ [c] <+: run → Q beginning c := by
  constructor
  · intro hP beginning c hprefix
    exact (hstep beginning c hprefix (hP _ ((List.prefix_append _ _).trans hprefix))).mp
      (hP _ hprefix)
  · intro hQ beginning
    induction beginning using List.reverseRecOn with
    | nil => exact fun _ => hnil
    | append_singleton beginning c ih =>
      intro hprefix
      exact (hstep beginning c hprefix (ih ((List.prefix_append _ _).trans hprefix))).mpr
        (hQ beginning c hprefix)

/-- A law holds of every step of a longer run exactly if it holds of those before and of the last
one. -/
theorem forall_step_concat {κ : Type} {P : List κ → κ → Prop} (run : List κ) (c : κ) :
    (∀ beginning c', beginning ++ [c'] <+: run ++ [c] → P beginning c') ↔
      (∀ beginning c', beginning ++ [c'] <+: run → P beginning c') ∧ P run c := by
  constructor
  · intro h
    exact ⟨fun beginning c' hbegins => h beginning c' (hbegins.trans (List.prefix_append run [c])),
      h run c (List.prefix_refl _)⟩
  · rintro ⟨h, hlast⟩ beginning c' hbegins
    rcases List.prefix_concat_iff.mp hbegins with heq | hbegins
    · obtain ⟨rfl, hc⟩ := List.append_inj' heq rfl
      obtain rfl := List.singleton_inj.mp hc
      exact hlast
    · exact h beginning c' hbegins

/-- What holds after a run, but not at first, came about at some step and has held since. -/
theorem exists_onset {κ : Type} (P : List κ → Prop) {run : List κ} (hnil : ¬ P []) (hrun : P run) :
    ∃ before c since, run = before ++ c :: since ∧ ¬ P before ∧
      ∀ part, part <+: since → P (before ++ c :: part) := by
  induction run using List.reverseRecOn with
  | nil => exact absurd hrun hnil
  | append_singleton earlier c ih =>
    by_cases hearlier : P earlier
    · obtain ⟨before, x, since, rfl, hbefore, hsince⟩ := ih hearlier
      refine ⟨before, x, since ++ [c], by simp, hbefore, ?_⟩
      intro part hpart
      rcases List.prefix_concat_iff.mp hpart with rfl | hpart
      · simpa using hrun
      · exact hsince part hpart
    · refine ⟨earlier, c, [], rfl, hearlier, ?_⟩
      intro part hpart
      rw [List.prefix_nil.mp hpart]
      exact hrun

/-- A place in a history that was just extended is the new one or an old one. -/
theorem eq_append_cons_concat {α : Type} {log before later : List α} {x y : α}
    (h : log ++ [y] = before ++ x :: later) :
    (later = [] ∧ before = log ∧ x = y) ∨
      ∃ rest, later = rest ++ [y] ∧ log = before ++ x :: rest := by
  rcases List.eq_nil_or_concat later with rfl | ⟨rest, z, rfl⟩
  · obtain ⟨hlog, hx⟩ := List.append_inj' h rfl
    exact .inl ⟨rfl, hlog.symm, (List.singleton_inj.mp hx).symm⟩
  · have hconcat : log ++ [y] = (before ++ x :: rest) ++ [z] := by simpa using h
    obtain ⟨hlog, hy⟩ := List.append_inj' hconcat rfl
    exact .inr ⟨rest, by simpa using hy.symm, hlog⟩

/-- The new value, if it is another. -/
def changeTo {α : Type} [DecidableEq α] (old new : α) : List α := if new = old then [] else [new]

section

variable {α : Type} [DecidableEq α] (old new : α)

@[simp] theorem changeTo_self : changeTo old old = [] := if_pos rfl

theorem getLastD_changeTo : (changeTo old new).getLastD old = new := by
  unfold changeTo
  split
  · rename_i hsame
    exact hsame.symm
  · rfl

theorem isChain_changeTo : List.IsChain (· ≠ ·) (old :: changeTo old new) := by
  unfold changeTo
  split
  · exact .singleton old
  · rename_i hother
    exact .cons_cons (Ne.symm hother) (.singleton new)

end

section

variable {σ κ β : Type}

/-- A history of a run: what each step adds to it, oldest first. -/
def collect (step : σ → κ → σ) (f : σ → κ → List β) (s : σ) : List κ → List β
  | [] => []
  | c :: rest => f s c ++ collect step f (step s c) rest

variable {step : σ → κ → σ} {f : σ → κ → List β}

@[simp] theorem collect_cons (s : σ) (c : κ) (rest : List κ) :
    collect step f s (c :: rest) = f s c ++ collect step f (step s c) rest := rfl

theorem collect_append (s : σ) (before rest : List κ) :
    collect step f s (before ++ rest) =
      collect step f s before ++ collect step f (before.foldl step s) rest := by
  induction before generalizing s with
  | nil => rfl
  | cons c before ih =>
    rw [List.cons_append, collect_cons, collect_cons, ih, List.append_assoc]
    rfl

theorem collect_concat (s : σ) (run : List κ) (c : κ) :
    collect step f s (run ++ [c]) = collect step f s run ++ f (run.foldl step s) c := by
  rw [collect_append, collect_cons, collect, List.append_nil]

/-- A longer run has a longer history. -/
theorem collect_beginning {beginning run : List κ} (h : beginning <+: run) (s : σ) :
    collect step f s beginning <+: collect step f s run := by
  obtain ⟨rest, rfl⟩ := h
  rw [collect_append]
  exact List.prefix_append _ _

theorem map_collect {γ : Type} (g : β → γ) (s : σ) (run : List κ) :
    (collect step f s run).map g = collect step (fun s c => (f s c).map g) s run := by
  induction run generalizing s with
  | nil => rfl
  | cons c rest ih => rw [collect_cons, List.map_append, ih, collect_cons]

theorem filterMap_collect {γ : Type} (g : β → Option γ) (s : σ) (run : List κ) :
    (collect step f s run).filterMap g = collect step (fun s c => (f s c).filterMap g) s run := by
  induction run generalizing s with
  | nil => rfl
  | cons c rest ih => rw [collect_cons, List.filterMap_append, ih, collect_cons]

/-- A measure that no step lowers is no lower after a run. -/
theorem measure_le_foldl {m : σ → Nat} (hstep : ∀ s c, m s ≤ m (step s c)) (s : σ) (run : List κ) :
    m s ≤ m (run.foldl step s) := by
  induction run generalizing s with
  | nil => exact Nat.le_refl _
  | cons c rest ih => exact Nat.le_trans (hstep s c) (ih (step s c))

theorem measure_le_of_beginning {m : σ → Nat} (hstep : ∀ s c, m s ≤ m (step s c))
    {beginning run : List κ} (h : beginning <+: run) (s : σ) :
    m (beginning.foldl step s) ≤ m (run.foldl step s) := by
  obtain ⟨rest, rfl⟩ := h
  rw [List.foldl_append]
  exact measure_le_foldl hstep _ rest

/-- What some steps write, and the others leave alone, is what was written last. -/
theorem view_foldl_of_writes (view : σ → β) {written : κ → Option β}
    (hwrite : ∀ s c, view (step s c) = (written c).getD (view s)) (s : σ) (run : List κ) :
    view (run.foldl step s) = (run.filterMap written).getLastD (view s) := by
  induction run generalizing s with
  | nil => rfl
  | cons c rest ih =>
    rw [List.foldl_cons, ih, hwrite, List.filterMap_cons]
    cases written c with
    | none => rfl
    | some b => rw [List.getLastD_cons, Option.getD_some]

/-- If each step adds last what the state then looks like, so does the run. -/
theorem getLastD_collect {view : σ → β}
    (hlast : ∀ s c, (f s c).getLastD (view s) = view (step s c)) (s : σ) (run : List κ) :
    (collect step f s run).getLastD (view s) = view (run.foldl step s) := by
  induction run generalizing s with
  | nil => rfl
  | cons c rest ih =>
    have hfirst := hlast s c
    rw [List.getLastD_eq_getLast?] at hfirst
    rw [collect, List.getLastD_eq_getLast?, List.getLast?_append, Option.getD_or, hfirst,
      ← List.getLastD_eq_getLast?]
    exact ih _

/-- The chains that the steps add are one chain if each starts where the last one ended. -/
theorem isChain_collect {R : β → β → Prop} {view : σ → β}
    (hchain : ∀ s c, List.IsChain R (view s :: f s c))
    (hlast : ∀ s c, (f s c).getLastD (view s) = view (step s c)) (s : σ) (run : List κ) :
    List.IsChain R (view s :: collect step f s run) := by
  induction run using List.reverseRecOn with
  | nil => exact .singleton _
  | append_singleton run c ih =>
    have hnext := hchain (run.foldl step s) c
    rw [collect_concat, ← List.cons_append]
    refine ih.append hnext.tail ?_
    intro x hx y hy
    rw [List.getLast?_cons, ← List.getLastD_eq_getLast?, getLastD_collect hlast] at hx
    obtain rfl := Option.some.inj hx
    exact hnext.rel_head? hy

/-- If each step adds what a view changes to, the history ends with the view and says nothing twice
in a row. -/
theorem collect_changes [DecidableEq β] (view : σ → β)
    (hstep : ∀ s c, f s c = changeTo (view s) (view (step s c))) (s : σ) (run : List κ) :
    (collect step f s run).getLastD (view s) = view (run.foldl step s) ∧
      List.IsChain (· ≠ ·) (view s :: collect step f s run) := by
  have hlast : ∀ s c, (f s c).getLastD (view s) = view (step s c) := by
    intro s c
    rw [hstep, getLastD_changeTo]
  refine ⟨getLastD_collect hlast s run, isChain_collect (fun s c => ?_) hlast s run⟩
  rw [hstep]
  exact isChain_changeTo (view s) (view (step s c))

end

end DisplayServer
