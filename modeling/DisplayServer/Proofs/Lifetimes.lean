import DisplayServer.Proofs.Sound

/-!
# The lives of screens and groups

A number is in use from the event that brings it until the event that ends it. `Lifetimes` relates
the two streams of such numbers with what is there now: nothing begins twice, and what is there
has begun and not ended. So a number stays free after its owner went, and who has kept a number
from any earlier moment never finds another owner under it.

The events of the topology tell of every screen and every group when it begins and when it ends;
a group begins as its first child joins. Every number that has begun was drawn, so numbers still
to be drawn never have (`Topology.Recorded`).
-/

namespace DisplayServer

/-- The numbers `born` have begun and the numbers `gone` have ended, each in order; `live` says
which are in use. -/
structure Lifetimes {κ : Type} (born gone : List κ) (live : κ → Prop) : Prop where
  /-- No number begins twice. -/
  once : born.Nodup
  /-- Only a number that has begun ends. -/
  ended : ∀ k ∈ gone, k ∈ born
  /-- In use is what has begun and not ended. -/
  live_iff : ∀ k, live k ↔ k ∈ born ∧ k ∉ gone

/-- One step of what is in use: nothing changes, a number begins, or one in use ends. -/
inductive Turnover {κ : Type} (live live' : κ → Prop) : List κ → List κ → Prop
  | keeps (h : ∀ j, live' j ↔ live j) : Turnover live live' [] []
  | begins (k : κ) (h : ∀ j, live' j ↔ live j ∨ j = k) : Turnover live live' [k] []
  | ends (k : κ) (hk : live k) (h : ∀ j, live' j ↔ live j ∧ j ≠ k) : Turnover live live' [] [k]

namespace Lifetimes

variable {κ : Type} {born gone : List κ} {live live' : κ → Prop}

theorem nil (h : ∀ k, ¬ live k) : Lifetimes [] [] live where
  once := List.nodup_nil
  ended := fun _ hk => hk
  live_iff := fun k => iff_of_false (h k) fun hk => List.not_mem_nil hk.1

/-- A step keeps the lives apart, as long as what begins has never begun before. -/
theorem turnover (h : Lifetimes born gone live) {b g : List κ} (ht : Turnover live live' b g)
    (hfresh : ∀ k ∈ b, k ∉ born) : Lifetimes (born ++ b) (gone ++ g) live' := by
  cases ht with
  | keeps hlive =>
    rw [List.append_nil, List.append_nil]
    exact ⟨h.once, h.ended, fun j => (hlive j).trans (h.live_iff j)⟩
  | begins k hlive =>
    have hk : k ∉ born := hfresh k (List.mem_singleton.mpr rfl)
    rw [List.append_nil]
    exact {
      once := by
        rw [List.nodup_append]
        refine ⟨h.once, List.pairwise_singleton _ k, fun j hj i hi he => hk ?_⟩
        rw [← List.mem_singleton.mp hi, ← he]
        exact hj
      ended := fun j hj => List.mem_append_left _ (h.ended j hj)
      live_iff := by
        intro j
        rw [hlive, h.live_iff, List.mem_append, List.mem_singleton]
        constructor
        · rintro (⟨hj, hstay⟩ | rfl)
          · exact ⟨.inl hj, hstay⟩
          · exact ⟨.inr rfl, fun hj => hk (h.ended _ hj)⟩
        · rintro ⟨hj | hj, hstay⟩
          · exact .inl ⟨hj, hstay⟩
          · exact .inr hj }
  | ends k hk hlive =>
    rw [List.append_nil]
    exact {
      once := h.once
      ended := by
        intro j hj
        rcases List.mem_append.mp hj with hj | hj
        · exact h.ended j hj
        · rw [List.mem_singleton.mp hj]
          exact ((h.live_iff k).mp hk).1
      live_iff := by
        intro j
        rw [hlive, h.live_iff, List.mem_append, List.mem_singleton, not_or, and_assoc] }

end Lifetimes

/-- What is there after a command of the run, and was not there before it, was there at no earlier
point of the run either. -/
def Anew {γ κ : Type} (live : List γ → κ → Prop) (run : List γ) : Prop :=
  ∀ earlier before c, earlier <+: before → before ++ [c] <+: run →
    ∀ k, live (before ++ [c]) k → ¬ live before k → ¬ live earlier k

/-- Where the streams of a run only grow, what has ended does not come back. -/
theorem anew_of_lifetimes {γ κ : Type} {born gone : List γ → List κ} {live : List γ → κ → Prop}
    {run : List γ} (h : ∀ b, b <+: run → Lifetimes (born b) (gone b) (live b))
    (hborn : ∀ b b', b <+: b' → born b ⊆ born b') (hgone : ∀ b b', b <+: b' → gone b ⊆ gone b') :
    Anew live run := by
  intro earlier before c hearlier hbefore k hnow hnot hold
  have hrun : before <+: run := (List.prefix_append before [c]).trans hbefore
  have hkborn : k ∈ born before :=
    hborn _ _ hearlier (((h earlier (hearlier.trans hrun)).live_iff k).mp hold).1
  -- begun and not in use, it has ended before the command
  have hkgone : k ∈ gone before := Classical.byContradiction fun hstay =>
    hnot (((h before hrun).live_iff k).mpr ⟨hkborn, hstay⟩)
  exact (((h _ hbefore).live_iff k).mp hnow).2
    (hgone _ _ (List.prefix_append before [c]) hkgone)

/-! ## Keys of look-ups -/

section Writes

variable {κ α : Type} [DecidableEq κ] {f f' : κ → Option α} {k : κ} {v : α}

omit [DecidableEq κ] in
theorem isSome_same (h : ∀ x, f' x = f x) (x : κ) : (f' x).isSome ↔ (f x).isSome := by
  rw [h]

theorem isSome_written (h : ∀ x, f' x = if x = k then some v else f x) (x : κ) :
    (f' x).isSome ↔ (f x).isSome ∨ x = k := by
  rw [h]
  split
  · rename_i hx
    exact iff_of_true rfl (.inr hx)
  · rename_i hx
    exact ⟨.inl, fun hf => hf.resolve_right hx⟩

theorem isSome_rewritten {w : α} (hw : f k = some w)
    (h : ∀ x, f' x = if x = k then some v else f x) (x : κ) :
    (f' x).isSome ↔ (f x).isSome := by
  rw [isSome_written h]
  refine ⟨fun hx => hx.elim id ?_, .inl⟩
  rintro rfl
  rw [hw]
  rfl

theorem isSome_dropped (h : ∀ x, f' x = if x = k then none else f x) (x : κ) :
    (f' x).isSome ↔ (f x).isSome ∧ x ≠ k := by
  rw [h]
  split
  · rename_i hx
    exact iff_of_false Bool.false_ne_true fun hf => hf.2 hx
  · rename_i hx
    exact ⟨fun hf => ⟨hf, hx⟩, And.left⟩

end Writes

/-! ## Screens and groups -/

/-- The screen or group that begins. -/
def TopologyEvent.born? : TopologyEvent → Option ScreenId
  | connected screen => some screen.id
  | joinedGroup screen group => if group.children = [screen.id] then some group.id else none
  | _ => none

/-- The screen or group that ends. -/
def TopologyEvent.gone? : TopologyEvent → Option ScreenId
  | disconnected screen => some screen
  | groupDissolved group => some group
  | _ => none

/-- The screens and groups that begin, in order. -/
def births (es : List TopologyEvent) : List ScreenId := es.filterMap TopologyEvent.born?

/-- The screens and groups that end, in order. -/
def departures (es : List TopologyEvent) : List ScreenId := es.filterMap TopologyEvent.gone?

@[simp] theorem births_append (es fs : List TopologyEvent) :
    births (es ++ fs) = births es ++ births fs := List.filterMap_append

@[simp] theorem departures_append (es fs : List TopologyEvent) :
    departures (es ++ fs) = departures es ++ departures fs := List.filterMap_append

theorem births_joinedGroup (s : ScreenReport) (g : GroupReport) :
    births [.joinedGroup s g] = if g.children = [s.id] then [g.id] else [] := by
  by_cases hfirst : g.children = [s.id]
  · simp only [births, List.filterMap_cons, List.filterMap_nil, TopologyEvent.born?, if_pos hfirst]
  · simp only [births, List.filterMap_cons, List.filterMap_nil, TopologyEvent.born?, if_neg hfirst]

namespace Topology

/-- The number is that of a screen or of a group. -/
def Has (t : Topology) (x : ScreenId) : Prop := (t.screen? x).isSome ∨ (t.group? x).isSome

variable {t u : Topology}

/-- A screen is written and every group stays. -/
theorem has_iff_of_written {k : ScreenId} {s : Screen}
    (hscreen : ∀ x, u.screen? x = if x = k then some s else t.screen? x)
    (hgroup : ∀ x, u.group? x = t.group? x) (x : ScreenId) : u.Has x ↔ t.Has x ∨ x = k := by
  rw [Has, isSome_written hscreen, isSome_same hgroup, Has, or_right_comm]

/-- What begins and what ends on the way from one topology to another. -/
structure TurnsOver (t : Topology) (es : List TopologyEvent) (u : Topology) : Prop where
  /-- At most one number begins or ends. -/
  turnover : Turnover t.Has u.Has (births es) (departures es)
  /-- A number that begins has just been drawn. -/
  drawn : ∀ k ∈ births es, k = t.nextScreenId ∧ u.screenIds.count = t.screenIds.count + 1

variable {es : List TopologyEvent}

theorem turnsOver_keeps (hborn : births es = []) (hgone : departures es = [])
    (hscreen : ∀ x, (u.screen? x).isSome ↔ (t.screen? x).isSome)
    (hgroup : ∀ x, (u.group? x).isSome ↔ (t.group? x).isSome) : TurnsOver t es u := by
  constructor
  · rw [hborn, hgone]
    exact .keeps fun x => or_congr (hscreen x) (hgroup x)
  · rw [hborn]
    exact fun k hk => absurd hk List.not_mem_nil

theorem turnsOver_begins (hborn : births es = [t.nextScreenId]) (hgone : departures es = [])
    (hlive : ∀ x, u.Has x ↔ t.Has x ∨ x = t.nextScreenId)
    (hdrawn : u.screenIds.count = t.screenIds.count + 1) : TurnsOver t es u := by
  constructor
  · rw [hborn, hgone]
    exact .begins _ hlive
  · rw [hborn]
    exact fun k hk => ⟨List.mem_singleton.mp hk, hdrawn⟩

theorem turnsOver_ends {k : ScreenId} (hborn : births es = []) (hgone : departures es = [k])
    (hk : t.Has k) (hlive : ∀ x, u.Has x ↔ t.Has x ∧ x ≠ k) : TurnsOver t es u := by
  constructor
  · rw [hborn, hgone]
    exact .ends k hk hlive
  · rw [hborn]
    exact fun k hk => absurd hk List.not_mem_nil

theorem isSome_putScreen {s s' : Screen} (hs : t.screen? s.id = some s) (hid : s'.id = s.id)
    (x : ScreenId) : ((t.putScreen s').screen? x).isSome ↔ (t.screen? x).isSome :=
  isSome_rewritten hs (fun y => by rw [screen?_putScreen, hid]) x

/-- The child that a group gets is its only one exactly if the group was empty. -/
theorem children_placing_eq_singleton_iff (g : ScreenGroup) {x : ScreenId} (start : Point)
    (hx : x ∉ g.composition.children) :
    (g.placing x start).membership.children = [x] ↔ g.composition.children = [] := by
  show (g.composition.place x start).children = [x] ↔ _
  rw [Composition.children_place, if_neg hx]
  simp

/-- **With a change at most one number begins or ends, and the reports say which.** -/
theorem turnsOver_change (hc : Change t es u) (h : Sound t) : TurnsOver t es u := by
  cases hc with
  | plug renderId panel s hs hfault hfree hnew =>
    have hid : s.id = t.nextScreenId := by
      rw [hs]
      rfl
    refine turnsOver_begins (congrArg (fun k => [k]) hid) rfl ?_ rfl
    rw [← hid]
    exact has_iff_of_written (screen?_plugIn t · s) (group?_enlist_of_free hid hfree)
  | create request s hs hfault hfree =>
    have hid : s.id = t.nextScreenId := by
      rw [hs]
      rfl
    refine turnsOver_begins (congrArg (fun k => [k]) hid) rfl ?_ rfl
    rw [← hid]
    exact has_iff_of_written (screen?_addSoftware t · s) (group?_enlist_of_free hid hfree)
  | found s combination main start home hs hp hfree hhome =>
    -- the group opens with the screen as its first child
    have hfirst := (children_placing_eq_singleton_iff
      (emptyGroup t.nextScreenId combination (some main)) start
      (x := s.id) List.not_mem_nil).mpr rfl
    refine turnsOver_begins ?_ rfl (fun x => ?_) rfl
    · rw [births_joinedGroup]
      exact if_pos hfirst
    · rw [Has, isSome_rewritten hs (screen?_found hs (get?_eq_none_iff.mp hfree).1 _ _ _ _),
        isSome_written (group?_found hs _ _ _ _), ← or_assoc]
      rfl
  | join s g start hs hp hg =>
    -- the group has a child already, and the screen is not it
    have hnew : s.id ∉ g.composition.children := by
      intro hx
      obtain ⟨s', hs', hp'⟩ := h.member g.id g s.id hg hx
      rw [hs] at hs'
      rw [← Option.some.inj hs', hp] at hp'
      cases hp'
    have hlater := mt (children_placing_eq_singleton_iff g start hnew).mp (h.populated g.id g hg)
    refine turnsOver_keeps ?_ rfl ?_ ?_
    · rw [births_joinedGroup]
      exact if_neg hlater
    · exact isSome_rewritten hs (screen?_join hs (screen?_eq_none_of_group? hg) start)
    · exact isSome_rewritten hg (group?_join hs start)
  | leave s g reason hs hp hg hstay =>
    exact turnsOver_keeps rfl rfl (isSome_rewritten hs (screen?_unlink hs hg))
      (isSome_rewritten hg (group?_unlink hs))
  | leaveLast s g reason hs hp hg hlast =>
    refine turnsOver_ends rfl rfl (.inr (by rw [hg]; rfl)) fun x => ?_
    -- the number that goes is no screen's
    have hscreen : (t.screen? x).isSome → x ≠ g.id := by
      intro hx he
      rw [he, screen?_eq_none_of_group? hg] at hx
      cases hx
    rw [Has, isSome_rewritten hs (screen?_unlink_dropGroup hs hg),
      isSome_dropped (group?_unlink_dropGroup hs g), Has, or_and_right, and_iff_left_of_imp hscreen]
  | place x g start hg hx =>
    refine turnsOver_keeps rfl rfl (isSome_same ?_) ?_
    · exact screen?_putGroup_of_live (w := g.placing x start) hg rfl
    · exact isSome_rewritten hg (group?_putGroup t · (g.placing x start))
  | single s turn hs hp =>
    have hid := turn.apply_id s
    exact turnsOver_keeps rfl rfl (isSome_putScreen hs hid)
      (isSome_same (group?_putScreen_of_live hs hid))
  | turn s rotation hs hne =>
    exact turnsOver_keeps rfl rfl (isSome_putScreen hs rfl)
      (isSome_same (group?_putScreen_of_live hs rfl))
  | switch s index hs hindex hne =>
    exact turnsOver_keeps rfl rfl (isSome_putScreen hs rfl)
      (isSome_same (group?_putScreen_of_live hs rfl))
  | forget s hs hp hmirrors =>
    refine turnsOver_ends rfl rfl (.inl (by rw [hs]; rfl)) fun x => ?_
    -- nor is the number that goes a group's
    have hgroup : (t.group? x).isSome → x ≠ s.id := by
      intro hx he
      rw [he, group?_eq_none_of_screen? hs] at hx
      cases hx
    rw [Has, isSome_dropped (fun y => screen?_forget t y s.id),
      isSome_same (group?_forget_of_live hs), Has, or_and_right, and_iff_left_of_imp hgroup]
  | record nodes f hf hscreen hgroup =>
    refine turnsOver_keeps rfl rfl (fun x => ?_) (isSome_same hgroup)
    rw [hscreen, Option.isSome_map]

/-- The log of a topology tells of the lives of its screens and groups. -/
structure Recorded (log : List TopologyEvent) (t : Topology) : Prop where
  /-- No number begins twice. -/
  lifetimes : Lifetimes (births log) (departures log) t.Has
  /-- Numbers to come have never begun. -/
  drawn : ∀ k ∈ births log, k.val < t.screenIds.count

theorem recorded_empty : Recorded [] .empty where
  lifetimes := .nil fun _ hk => hk.elim Bool.false_ne_true Bool.false_ne_true
  drawn := fun _ hk => absurd hk List.not_mem_nil

variable {log : List TopologyEvent}

theorem recorded_change (hc : Change t es u) (h : Sound t) (hr : Recorded log t)
    (hcount : u.screenIds.count ≤ 2 ^ 64) : Recorded (log ++ es) u := by
  obtain ⟨hturn, hdrawn⟩ := turnsOver_change hc h
  -- a number that begins is the next one of the source
  have hnext : ∀ k ∈ births es,
      k.val = t.screenIds.count ∧ u.screenIds.count = t.screenIds.count + 1 := by
    intro k hk
    obtain ⟨rfl, hadvance⟩ := hdrawn k hk
    exact ⟨IdSource.peek_of_lt (by omega), hadvance⟩
  have hle := hc.screenIds_le
  constructor
  · rw [births_append, departures_append]
    refine hr.lifetimes.turnover hturn fun k hk hold => ?_
    have := (hnext k hk).1
    have := hr.drawn k hold
    omega
  · intro k hk
    rw [births_append] at hk
    rcases List.mem_append.mp hk with hold | hnew
    · have := hr.drawn k hold
      omega
    · have := hnext k hnew
      omega

/-- **What begins in an operation has never begun before, in the operation or earlier.** -/
theorem recorded_changes (hc : Changes t es u) (h : Sound t) (hr : Recorded log t)
    (hcount : u.screenIds.count ≤ 2 ^ 64) : Recorded (log ++ es) u := by
  induction hc with
  | refl =>
    rw [List.append_nil]
    exact hr
  | tail hcs hc ih =>
    rw [← List.append_assoc]
    exact recorded_change hc (sound_changes hcs h) (ih (Nat.le_trans hc.screenIds_le hcount)) hcount

end Topology

end DisplayServer
