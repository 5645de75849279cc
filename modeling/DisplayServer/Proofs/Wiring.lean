import DisplayServer.Proofs.Decompose

/-!
# Which screens have which numbers of the render engine

Of a live screen the render engine knows the number and whether it is a software screen, and the
index says which screen it means by a number. That is the wiring of a topology, and all that
rotating, composing and switching screens does has nothing to do with it. A command leaves the
wiring alone, or one screen appears under its number or goes with it (`Rewires`).
-/

namespace DisplayServer

/-- No screen appears or goes with the event. -/
def TopologyEvent.KeepsScreens : TopologyEvent → Prop
  | .connected _ | .disconnected _ => False
  | _ => True

namespace Topology

/-- What the render engine has to do with a live screen: its number, and whether it is a software
screen. -/
def wire? (t : Topology) (x : ScreenId) : Option (RenderId × Bool) :=
  (t.screen? x).map fun s => (s.renderId, s.isVirtual)

variable {t u v : Topology} {x y : ScreenId} {r q : RenderId} {software : Bool}

theorem wire?_eq_some_iff :
    t.wire? x = some (r, software) ↔
      ∃ s, t.screen? x = some s ∧ s.renderId = r ∧ s.isVirtual = software := by
  simp [wire?, Option.map_eq_some_iff]

theorem isSome_wire? (t : Topology) (x : ScreenId) : (t.wire? x).isSome = (t.screen? x).isSome :=
  Option.isSome_map

theorem Linked.wire?_of_screenOf? (h : Linked t) (hx : t.screenOf? r = some x) :
    ∃ software, t.wire? x = some (r, software) := by
  obtain ⟨s, hs, hr⟩ := h.indexed r x hx
  exact ⟨s.isVirtual, wire?_eq_some_iff.mpr ⟨s, hs, hr, rfl⟩⟩

/-! ## Commands that leave the wiring alone -/

/-- Number and kind of each live screen are as before, and so is the index. -/
structure SameWires (t u : Topology) : Prop where
  wires : ∀ x, u.wire? x = t.wire? x
  index : u.renderIndex = t.renderIndex
  numbers : u.virtualRenderIds = t.virtualRenderIds

theorem SameWires.refl (t : Topology) : SameWires t t := ⟨fun _ => rfl, rfl, rfl⟩

theorem SameWires.trans (h : SameWires t u) (h' : SameWires u v) : SameWires t v :=
  ⟨fun x => (h'.wires x).trans (h.wires x), h'.index.trans h.index, h'.numbers.trans h.numbers⟩

theorem SameWires.screenOf? (h : SameWires t u) (r : RenderId) :
    u.screenOf? r = t.screenOf? r := by
  rw [Topology.screenOf?, h.index, Topology.screenOf?]

/-- A screen is rewritten that keeps its number and its kind. -/
theorem wire?_of_rewritten {k : ScreenId} {old s : Screen} (hold : t.screen? k = some old)
    (hscreen : ∀ x, u.screen? x = if x = k then some s else t.screen? x)
    (hr : s.renderId = old.renderId) (hv : s.isVirtual = old.isVirtual) (x : ScreenId) :
    u.wire? x = t.wire? x := by
  unfold wire?
  rw [hscreen]
  split
  · rename_i hx
    rw [hx, hold, Option.map_some, Option.map_some, hr, hv]
  · rfl

theorem wire?_of_same (hscreen : ∀ x, u.screen? x = t.screen? x) (x : ScreenId) :
    u.wire? x = t.wire? x := by
  rw [wire?, hscreen, wire?]

theorem sameWires_change {es : List TopologyEvent} (hc : Change t es u)
    (hkeeps : ∀ e ∈ es, e.KeepsScreens) : SameWires t u := by
  cases hc with
  | plug r panel s hs hfault hfree hnew => exact (hkeeps _ List.mem_cons_self).elim
  | create request s hs hfault hfree => exact (hkeeps _ List.mem_cons_self).elim
  | forget s hs hp hmirrors => exact (hkeeps _ List.mem_cons_self).elim
  | found s combination main start home hs hp hfree hhome =>
    have hscreen :=
      screen?_found hs (get?_eq_none_iff.mp hfree).1 combination (some main) start home
    exact ⟨wire?_of_rewritten hs hscreen rfl rfl, rfl, rfl⟩
  | join s g start hs hp hg =>
    have hscreen := screen?_join hs (screen?_eq_none_of_group? hg) start
    exact ⟨wire?_of_rewritten hs hscreen rfl rfl, rfl, rfl⟩
  | leave s g reason hs hp hg hstay =>
    exact ⟨wire?_of_rewritten hs (screen?_unlink hs hg) rfl rfl, rfl, rfl⟩
  | leaveLast s g reason hs hp hg hlast =>
    exact ⟨wire?_of_rewritten hs (screen?_unlink_dropGroup hs hg) rfl rfl, rfl, rfl⟩
  | place x g start hg hx =>
    exact ⟨wire?_of_same (screen?_putGroup_of_live (w := g.placing x start) hg rfl), rfl, rfl⟩
  | single s turn hs hp =>
    refine ⟨wire?_of_rewritten hs (fun x => ?_) (turn.apply_renderId s) (turn.apply_isVirtual s),
      rfl, rfl⟩
    rw [← turn.apply_id s]
    exact screen?_putScreen t x (turn.apply s)
  | turn s rotation hs hne =>
    exact ⟨wire?_of_rewritten hs (fun x => screen?_putScreen t x _) rfl rfl, rfl, rfl⟩
  | switch s index hs hindex hne =>
    exact ⟨wire?_of_rewritten hs (fun x => screen?_putScreen t x _) rfl rfl, rfl, rfl⟩
  | record nodes f hf hscreen hgroup =>
    refine ⟨fun x => ?_, rfl, rfl⟩
    unfold wire?
    rw [hscreen, Option.map_map]
    -- surface and power are recorded, and neither number nor kind
    refine congrArg (fun g => (t.screen? x).map g) (funext fun s => ?_)
    rw [Function.comp_apply, hf]

theorem sameWires_changes {es : List TopologyEvent} (hc : Changes t es u)
    (hkeeps : ∀ e ∈ es, e.KeepsScreens) : SameWires t u := by
  induction hc with
  | refl => exact .refl _
  | tail _ hc ih =>
    have hbefore := ih fun e he => hkeeps e (List.mem_append_left _ he)
    exact hbefore.trans (sameWires_change hc fun e he => hkeeps e (List.mem_append_right _ he))

theorem sameWires_of_extends {d d' : Draft} (h : d.Extends d')
    (hw : d.Writes TopologyEvent.KeepsScreens d') : SameWires d.topology d'.topology := by
  obtain ⟨es, hes, hc⟩ := h
  obtain ⟨fs, hfs, hkeeps⟩ := hw.events
  obtain rfl := List.append_cancel_left (hes.symm.trans hfs)
  exact sameWires_changes hc hkeeps

/-! ## Screens that appear and screens that go -/

theorem screenOf?_enlist (t : Topology) (s : Screen) (r : RenderId) :
    (t.enlist s).screenOf? r = if r = s.renderId then some s.id else t.screenOf? r :=
  Table.get?_insert_ite t.renderIndex s.renderId r s.id

/-- A screen has appeared, and its number leads to it now. -/
structure Appears (x : ScreenId) (r : RenderId) (software : Bool) (t u : Topology) : Prop where
  new : t.wire? x = none
  wires : ∀ y, u.wire? y = if y = x then some (r, software) else t.wire? y
  index : ∀ q, u.screenOf? q = if q = r then some x else t.screenOf? q

/-- A screen is gone, and its number leads nowhere. -/
structure Goes (x : ScreenId) (r : RenderId) (t u : Topology) : Prop where
  wires : ∀ y, u.wire? y = if y = x then none else t.wire? y
  index : ∀ q, u.screenOf? q = if q = r then none else t.screenOf? q
  numbers : u.virtualRenderIds = t.virtualRenderIds

theorem Appears.then_same (h : Appears x r software t u) (h' : SameWires u v) :
    Appears x r software t v :=
  ⟨h.new, fun y => (h'.wires y).trans (h.wires y), fun q => (h'.screenOf? q).trans (h.index q)⟩

theorem Goes.after_same (h : SameWires t u) (h' : Goes x r u v) : Goes x r t v where
  wires := fun y => by rw [h'.wires, h.wires]
  index := fun q => by rw [h'.index, h.screenOf?]
  numbers := h'.numbers.trans h.numbers

/-- Whatever is kept beside screens and index may change as well. -/
theorem appears_enlist {s : Screen} (hfree : t.screen? s.id = none)
    (hnodes : u.nodes = (t.enlist s).nodes) (hindex : u.renderIndex = (t.enlist s).renderIndex) :
    Appears s.id s.renderId s.isVirtual t u where
  new := by rw [wire?, hfree, Option.map_none]
  wires y := by
    rw [wire?, screen?_congr hnodes, screen?_enlist]
    split
    · rfl
    · rfl
  index q := by
    rw [screenOf?, hindex]
    exact screenOf?_enlist t s q

theorem goes_forget (hx : t.wire? x = some (r, software)) : Goes x r t (Draft.forget t x) where
  wires y := by
    rw [wire?, screen?_forget]
    split
    · rfl
    · rfl
  index q := by
    obtain ⟨s, hs, rfl, -⟩ := wire?_eq_some_iff.mp hx
    have hindex : (Draft.forget t x).screenOf? q = (t.renderIndex.erase s.renderId).get? q := by
      simp only [Draft.forget, screenOf?, hs]
    rw [hindex, Table.get?_erase_ite]
    rfl
  numbers := rfl

/-- A screen that is erased goes. What is done before it is forgotten is about groups. -/
theorem goes_erase (h : Sound t) (hx : t.wire? x = some (r, software)) :
    Goes x r t ((Draft.begin t).erase x).topology := by
  have hstop := (Draft.extends_stopMirrorsOf (d := .begin t) h x).1
  have hleave := hstop.trans (Draft.extends_leave (hstop.sound h) x .destroyed)
  have hsame := sameWires_of_extends hleave
    ((Draft.writes_stopMirrorsOf (fun _ => trivial) (fun _ _ => trivial) (.begin t) x).trans
      (Draft.writes_leave (fun _ => trivial) (fun _ _ => trivial) _ x))
  exact .after_same hsame (goes_forget ((hsame.wires x).trans hx))

/-! ## Every command -/

/-- What a command does to the wiring: nothing, or one screen appears or goes. -/
inductive Rewires (t : Topology) : Command → Topology → Prop
  | keeps {c : Command} {u : Topology} (hsame : SameWires t u)
      (hrefused : ∀ request, c = .create request → requestFault? request ≠ none) : Rewires t c u
  | plugs {r : RenderId} {panel : PanelDescription} {x : ScreenId} {u : Topology}
      (hnew : t.screenOf? r = none) (happears : Appears x r false t u)
      (hnumbers : u.virtualRenderIds = t.virtualRenderIds) : Rewires t (.connect r panel) u
  | makes {request : VirtualScreenRequest} {x : ScreenId} {u : Topology}
      (hfault : requestFault? request = none)
      (happears : Appears x ⟨t.virtualRenderIds.peek⟩ true t u)
      (hnumbers : u.virtualRenderIds = t.virtualRenderIds.advance)
      (hdrawn : t.screenIds.count < u.screenIds.count) : Rewires t (.create request) u
  | unplugs {r : RenderId} {x : ScreenId} {u : Topology} (hfound : t.screenOf? r = some x)
      (hgoes : Goes x r t u) : Rewires t (.disconnect r) u
  | destroys {x : ScreenId} {r : RenderId} {u : Topology} (hx : t.wire? x = some (r, true))
      (hgoes : Goes x r t u) : Rewires t (.destroy x) u

theorem rewires_connect (h : Sound t) (r : RenderId) (panel : PanelDescription)
    (hcount : (t.connect r panel).topology.screenIds.count ≤ 2 ^ 64) :
    Rewires t (.connect r panel) (t.connect r panel).topology := by
  obtain ⟨e, hd⟩ | ⟨s, g, m, u, hs, hnew, hfree, hd, -, hjoin, -⟩ := connect_plugs h r panel hcount
  · rw [hd]
    exact .keeps (.refl t) nofun
  · rw [hd]
    have hid : s.id = t.nextScreenId := by rw [hs]; rfl
    have hr : s.renderId = r := by rw [hs]; rfl
    have hv : s.isVirtual = false := by rw [hs]; rfl
    have happears := appears_enlist (u := t.plugIn s) (hid ▸ (get?_eq_none_iff.mp hfree).1) rfl rfl
    rw [hr, hv] at happears
    have hjoined := sameWires_change hjoin fun e he => by
      rw [List.mem_singleton.mp he]
      trivial
    exact .plugs hnew (happears.then_same hjoined) hjoined.numbers

theorem rewires_create (h : Sound t) (request : VirtualScreenRequest)
    (hcount : (t.create request).topology.screenIds.count ≤ 2 ^ 64) :
    Rewires t (.create request) (t.create request).topology := by
  obtain ⟨e, hd⟩ | ⟨s, hs, hfault, hd⟩ := create_cases t request
  · rw [hd]
    refine .keeps (.refl t) ?_
    rintro _ ⟨⟩ hfault
    unfold create at hd
    rw [hfault] at hd
    cases hd
  · rw [hd] at hcount ⊢
    have hid : s.id = t.nextScreenId := by rw [hs]; rfl
    have hr : s.renderId = ⟨t.virtualRenderIds.peek⟩ := by rw [hs]; rfl
    have hv : s.isVirtual = true := by rw [hs]; rfl
    have hfree := (get?_eq_none_iff.mp (h.free (Nat.lt_of_succ_le hcount))).1
    have happears := appears_enlist (u := t.addSoftware s) (hid ▸ hfree) rfl rfl
    rw [hr, hv] at happears
    exact .makes hfault happears rfl (Nat.lt_succ_self _)

/-- **A command leaves the wiring alone, or one screen appears or goes.** -/
theorem rewires_perform (h : Sound t) (c : Command)
    (hcount : (t.perform c).screenIds.count ≤ 2 ^ 64) : Rewires t c (t.perform c) := by
  cases c with
  | connect r panel => exact rewires_connect h r panel hcount
  | create request => exact rewires_create h request hcount
  | disconnect r =>
    show Rewires t _ (t.disconnect r).topology
    obtain ⟨e, hd⟩ | ⟨x, hx, hd⟩ := disconnect_cases t r
    · rw [hd]
      exact .keeps (.refl t) nofun
    · rw [hd]
      obtain ⟨software, hwire⟩ := h.wire?_of_screenOf? hx
      exact .unplugs hx (goes_erase h hwire)
  | destroy x =>
    show Rewires t _ (t.destroy x).topology
    obtain ⟨e, hd⟩ | ⟨s, hs, hv, hd⟩ := destroy_cases t x
    · rw [hd]
      exact .keeps (.refl t) nofun
    · rw [hd]
      have hwire := wire?_eq_some_iff.mpr ⟨s, hs, rfl, hv⟩
      exact .destroys hwire (goes_erase h hwire)
  | _ =>
    refine .keeps (sameWires_changes (changes_outcome h _ hcount) fun e he => ?_) nofun
    have hreports := reports_of_mem he
    cases e with
    | connected s => exact hreports
    | disconnected y => exact hreports
    | _ => trivial

end Topology

end DisplayServer
