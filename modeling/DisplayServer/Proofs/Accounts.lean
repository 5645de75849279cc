import DisplayServer.Proofs.Moves
import DisplayServer.Proofs.Writes

/-!
# Matters that events open and close

Some events open a matter that a later event of the same operation closes: a panel that was
connected joins a group, and a screen that leaves its group to be destroyed or to be made unique
is gone, or unique, soon after. `unsettled` lists the screens whose matter is open; streams that
close what they open may be put one after the other (`unsettled_append`).

Moves of screens open no matter, and they leave nobody without a group: `Arranges` is what the
loops of the operations that compose groups keep.
-/

namespace DisplayServer

namespace TopologyEvent

/-- The screens whose matter is open after an event. -/
def settle (xs : List ScreenId) : TopologyEvent → List ScreenId
  | connected screen => if screen.kind = .physical then screen.id :: xs else xs
  | leftGroup screen _ reason => if reason = .detached then xs else screen.id :: xs
  | joinedGroup screen _ => xs.filter (· ≠ screen.id)
  | becameUnique screen _ => xs.filter (· ≠ screen.id)
  | disconnected screen => xs.filter (· ≠ screen)
  | changed _ _ => xs
  | groupDissolved _ => xs

/-- The screens whose matter is open after several events. -/
def unsettled (es : List TopologyEvent) : List ScreenId := es.foldl settle []

/-- The screen that is said to have joined a group or to have become unique. -/
def composed? : TopologyEvent → Option ScreenId
  | joinedGroup screen _ => some screen.id
  | becameUnique screen _ => some screen.id
  | connected _ => none
  | disconnected _ => none
  | changed _ _ => none
  | leftGroup _ _ _ => none
  | groupDissolved _ => none

/-- Events that open no matter and say of no screen that it joined a group or became unique. -/
def Quiet : TopologyEvent → Prop
  | connected screen => screen.kind ≠ .physical
  | leftGroup _ _ reason => reason = .detached
  | joinedGroup _ _ => False
  | becameUnique _ _ => False
  | disconnected _ => True
  | changed _ _ => True
  | groupDissolved _ => True

theorem unsettled_append {es : List TopologyEvent} (h : unsettled es = [])
    (fs : List TopologyEvent) : unsettled (es ++ fs) = unsettled fs := by
  have hes : es.foldl settle [] = [] := h
  rw [unsettled, List.foldl_append, hes]
  rfl

/-- Events none of which opens a matter. -/
theorem unsettled_of_each {es : List TopologyEvent} (h : ∀ e ∈ es, settle [] e = []) :
    unsettled es = [] := by
  induction es with
  | nil => rfl
  | cons e rest ih =>
    obtain ⟨he, hrest⟩ := List.forall_mem_cons.mp h
    show rest.foldl settle (settle [] e) = []
    rw [he]
    exact ih hrest

theorem settle_of_quiet {e : TopologyEvent} (h : e.Quiet) : settle [] e = [] := by
  cases e with
  | connected s => exact if_neg h
  | leftGroup s g reason => exact if_pos h
  | joinedGroup s g => rfl
  | becameUnique s d => rfl
  | disconnected x => rfl
  | changed s change => rfl
  | groupDissolved g => rfl

theorem composed?_of_quiet {e : TopologyEvent} (h : e.Quiet) : e.composed? = none := by
  cases e with
  | joinedGroup s g => exact h.elim
  | becameUnique s d => exact h.elim
  | _ => rfl

/-- What is reported when a screen leaves its group, if it is in one. -/
def Departure (x : ScreenId) (reason : LeaveReason) (es : List TopologyEvent) : Prop :=
  es = [] ∨ ∃ s g, s.id = x ∧
    (es = [.leftGroup s g reason] ∨ ∃ k, es = [.leftGroup s g reason, .groupDissolved k])

/-- A departure is settled by any event that closes the matter of the screen. -/
theorem unsettled_departure {x : ScreenId} {reason : LeaveReason} {es : List TopologyEvent}
    (h : Departure x reason es) {e : TopologyEvent}
    (he : ∀ xs, settle xs e = xs.filter (· ≠ x)) : unsettled (es ++ [e]) = [] := by
  have hone : (if reason = .detached then [] else [x]).filter (· ≠ x) = [] := by
    split <;> simp
  obtain rfl | ⟨s, g, rfl, rfl | ⟨k, rfl⟩⟩ := h
  · exact he []
  · exact (he _).trans hone
  · exact (he _).trans hone

theorem composed?_of_departure {x : ScreenId} {reason : LeaveReason} {es : List TopologyEvent}
    (h : Departure x reason es) {e : TopologyEvent} (he : e ∈ es) : e.composed? = none := by
  obtain rfl | ⟨s, g, -, rfl | ⟨k, rfl⟩⟩ := h
  · cases he
  · rw [List.mem_singleton.mp he]
    rfl
  · rcases List.mem_cons.mp he with rfl | he
    · rfl
    · rw [List.mem_singleton.mp he]
      rfl

end TopologyEvent

open TopologyEvent

namespace Draft

open DisplayServer.Topology

variable {d d' d'' : Draft}

theorem events_leave (h : Sound d.topology) (x : ScreenId) (reason : LeaveReason) :
    ∃ es, (d.leave x reason).events = d.events ++ es ∧ Departure x reason es := by
  obtain ⟨-, hd⟩ | ⟨s, g, rfl, -, -, -, ⟨-, hd⟩ | ⟨-, hd⟩⟩ := leave_cases h x reason
  · rw [hd]
    exact ⟨[], (List.append_nil _).symm, .inl rfl⟩
  · rw [hd]
    exact ⟨_, rfl, .inr ⟨_, _, rfl, .inl rfl⟩⟩
  · rw [hd]
    exact ⟨_, rfl, .inr ⟨_, _, rfl, .inr ⟨_, rfl⟩⟩⟩

/-! ## Gathering screens in a group -/

/-- Nobody who was in a group is left alone, and whoever is said to have joined one is in one. -/
structure Gathers (d d' : Draft) : Prop where
  /-- A screen that was in a group is in one. -/
  kept : ∀ y, (d.topology.parent? y).isSome → (d'.topology.parent? y).isSome
  /-- What was reported meanwhile. -/
  told : ∃ es, d'.events = d.events ++ es ∧
    ∀ e ∈ es, e.Quiet ∨ ∃ s g, e = .joinedGroup s g ∧ (d'.topology.parent? s.id).isSome

theorem Gathers.refl (d : Draft) : Gathers d d :=
  ⟨fun _ hy => hy, [], (List.append_nil _).symm, fun _ he => (List.not_mem_nil he).elim⟩

theorem Gathers.trans (h : Gathers d d') (h' : Gathers d' d'') : Gathers d d'' := by
  obtain ⟨es, hes, htold⟩ := h.told
  obtain ⟨fs, hfs, htold'⟩ := h'.told
  refine ⟨fun y hy => h'.kept y (h.kept y hy), es ++ fs, ?_, ?_⟩
  · rw [hfs, hes, List.append_assoc]
  · intro e he
    rcases List.mem_append.mp he with he | he
    · -- who joined in the first stretch stays through the second
      exact (htold e he).imp id fun ⟨s, g, heq, hp⟩ => ⟨s, g, heq, h'.kept s.id hp⟩
    · exact htold' e he

/-- A screen leaves its group, if it is in one, and joins another. -/
theorem gathers_of_move {x g : ScreenId}
    (hscreen : ∀ y, d'.topology.parent? y = if y = x then some g else d.topology.parent? y)
    (hevents : ∃ s m, s.id = x ∧
      d'.events = (d.leave x .detached).events ++ [.joinedGroup s m]) : Gathers d d' := by
  obtain ⟨s, m, hid, hevents⟩ := hevents
  have hwrites : Writes Quiet d (d.leave x .detached) :=
    writes_leave (fun _ => trivial) (fun _ _ => rfl) d x
  obtain ⟨es, hes, hquiet⟩ := hwrites.events
  refine ⟨fun y hy => ?_, es ++ [.joinedGroup s m], ?_, fun e he => ?_⟩
  · rw [hscreen]
    split
    · rfl
    · exact hy
  · rw [hevents, hes, List.append_assoc]
  · rcases List.mem_append.mp he with he | he
    · exact .inl (hquiet e he)
    · refine .inr ⟨s, m, List.mem_singleton.mp he, ?_⟩
      rw [hscreen, if_pos hid]
      rfl

/-- The parents after one screen was rewritten to name a group. -/
theorem parent?_of_rewritten {t u : Topology} {x g : ScreenId} {s : Screen}
    (hu : ∀ y, u.screen? y = if y = x then some (s.within (some g)) else t.screen? y)
    (y : ScreenId) : u.parent? y = if y = x then some g else t.parent? y := by
  unfold parent?
  rw [hu]
  split <;> rfl

theorem gathers_move (h : Sound d.topology) {x g : ScreenId} {s : Screen} {grp : ScreenGroup}
    (hs : d.topology.screen? x = some s) (hg : d.topology.group? g = some grp)
    (hne : d.topology.parent? x ≠ some g) (start : Point) : Gathers d (d.move x g start) := by
  obtain ⟨-, -, hd⟩ := move_eq h hs hg hne start
  exact gathers_of_move (parent?_of_rewritten (screen?_move h hs hg hne start))
    ⟨_, _, h.screen_id x s hs, congrArg Draft.events hd⟩

/-- The first screen opens the group. -/
theorem gathers_move_opened (h : Sound d.topology) (hcount : d.topology.screenIds.count < 2 ^ 64)
    {x : ScreenId} {s : Screen} (hs : d.topology.screen? x = some s) (combination : Combination)
    (main : ScreenId) (start : Point) :
    Gathers d ((d.edit fun t => t.openGroup combination (some main)).move x
      d.topology.nextScreenId start) := by
  obtain ⟨hs', hfree, -, hd⟩ := move_opened_eq h hcount hs combination main start
  have hattach := attach_opened_eq hs' (get?_eq_none_iff.mp hfree).1 combination main
    (d.leave x .detached).topology.defaultGroup start
  exact gathers_of_move
    (parent?_of_rewritten (screen?_move_opened h hcount hs combination main start))
    ⟨_, _, h.screen_id x s hs, congrArg Draft.events (hd.trans hattach)⟩

/-- A sequence of changes that gathers screens. -/
structure Arranges (d d' : Draft) : Prop where
  /-- It is a sequence of changes. -/
  changes : Extends d d'
  /-- It leaves nobody without a group. -/
  gathers : Gathers d d'

theorem Arranges.refl (d : Draft) : Arranges d d := ⟨Extends.refl d, Gathers.refl d⟩

theorem Arranges.trans (h : Arranges d d') (h' : Arranges d' d'') : Arranges d d'' :=
  ⟨h.changes.trans h'.changes, h.gathers.trans h'.gathers⟩

theorem Arranges.sound (h : Arranges d d') (hs : Sound d.topology) : Sound d'.topology :=
  h.changes.sound hs

end Draft

end DisplayServer
