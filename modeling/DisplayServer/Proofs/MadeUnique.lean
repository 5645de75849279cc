import DisplayServer.Proofs.Bystanders
import DisplayServer.Proofs.IssuedOnce
import DisplayServer.Proofs.Pictures
import Mathlib.Data.List.Nodup

/-!
# Screens that are made unique, from the request to the displays

Making screens unique is done in two places. The topology takes the screens out of their groups,
turns them where the rotation is locked, and answers with numbers of displays; the displays come
into being later, when the registry follows what was reported. Here the two are put together
(`Service.madeUnique_of_granted`).

The topology draws the numbers one after the other, so they differ from each other and from all
that have been drawn before (`Draft.Singling`). That a screen leaves its group to be made unique is
nothing to the registry, a mirror or not (`Registry.followAll_departure`), so what becomes of the
display of a screen is decided by the one report that the screen became unique: the display that
the screen had goes, and one is made of the screen as it then is. The reports that come later are
about other screens.
-/

namespace DisplayServer

open TopologyEvent

namespace Registry

/-- A screen that leaves its group to be made unique keeps the display that it has, and gets none
if it has none. -/
theorem followAll_departure (r : Registry) (ids : IdSource) {x : ScreenId}
    {es : List TopologyEvent} (h : Departure x .madeUnique es) :
    r.followAll ids es = (r, ids, []) := by
  obtain rfl | ⟨s, g, -, rfl | ⟨k, rfl⟩⟩ := h <;> rfl

end Registry

namespace Draft

open DisplayServer.Topology

variable {d : Draft}

theorem displayIds_leave (h : Sound d.topology) (x : ScreenId) (reason : LeaveReason) :
    (d.leave x reason).topology.displayIds = d.topology.displayIds := by
  obtain ⟨-, hd⟩ | ⟨s, g, -, -, -, -, ⟨-, hd⟩ | ⟨-, hd⟩⟩ := leave_cases h x reason <;>
    rw [hd] <;> rfl

/-- The screen as it is after it was made unique. -/
def singled (turn : UniqueRotation) (s : Screen) : Screen := turn.apply (s.within none)

theorem singled_rotation (turn : UniqueRotation) (s : Screen) :
    (singled turn s).rotation = if turn.locked then turn.rotation else s.rotation := by
  unfold singled UniqueRotation.apply
  split <;> rfl

/-- The events give each of the screens `xs` the display of its number in `ds`, made of the screen
as it is after it was made unique. -/
def Renews (turn : UniqueRotation) (t : Topology) (xs : List ScreenId) (ds : List DisplayId)
    (es : List TopologyEvent) : Prop :=
  ∀ r ids, (Registry.followAll r ids es).1.Orderly → ∀ p ∈ xs.zip ds, ∃ s v,
    t.screen? p.1 = some s ∧ (Registry.followAll r ids es).1.bindings.get? p.1 = some p.2 ∧
      (Registry.followAll r ids es).1.displays.get? p.2 = some v ∧
      v.Portrays (singled turn s).report

/-- The screens `xs` are made unique, and `ds` are the numbers that are drawn for them. -/
structure Singling (turn : UniqueRotation) (xs : List ScreenId) (ds : List DisplayId)
    (d d' : Draft) : Prop where
  /-- Only those screens change. -/
  screens : ∀ y, d'.topology.screen? y =
    if y ∈ xs then (d.topology.screen? y).map (singled turn) else d.topology.screen? y
  /-- A number is drawn for each. -/
  drawn : d'.topology.displayIds.count = d.topology.displayIds.count + xs.length
  /-- Unless numbers come round, they are the ones that come next. -/
  numbers : d'.topology.displayIds.count ≤ 2 ^ 64 →
    ds.map DisplayId.val = List.range' d.topology.displayIds.count xs.length
  /-- What is reported is about those screens, and gives each the display of its number. -/
  told : ∃ es, d'.events = d.events ++ es ∧ (∀ e ∈ es, ∀ y, e.concerns? = some y → y ∈ xs) ∧
    Renews turn d.topology xs ds es

theorem singling_nil (turn : UniqueRotation) (d : Draft) : Singling turn [] [] d d where
  screens _ := rfl
  drawn := rfl
  numbers _ := rfl
  told := ⟨[], (List.append_nil _).symm, fun _ he => (List.not_mem_nil he).elim,
    fun _ _ _ _ hp => (List.not_mem_nil hp).elim⟩

/-- The report that a screen became unique gives it its display, and reports about other screens
leave it there. -/
theorem renews_cons {turn : UniqueRotation} {t u : Topology} {x : ScreenId} {s : Screen}
    {xs : List ScreenId} {k : DisplayId} {ds : List DisplayId} {es fs : List TopologyEvent}
    (hs : t.screen? x = some s) (hid : (singled turn s).id = x) (hx : x ∉ xs)
    (hscreens : ∀ y, y ≠ x → u.screen? y = t.screen? y) (hes : Departure x .madeUnique es)
    (habout : ∀ e ∈ fs, ∀ y, e.concerns? = some y → y ∈ xs) (h : Renews turn u xs ds fs) :
    Renews turn t (x :: xs) (k :: ds)
      ((es ++ [.becameUnique (singled turn s).report k]) ++ fs) := by
  intro r ids horderly p hp
  rw [List.append_assoc, Registry.followAll_append, Registry.followAll_departure r ids hes]
    at horderly ⊢
  rw [Registry.followAll_append] at horderly ⊢
  rcases List.mem_cons.mp hp with rfl | hp
  · have hbound : (r.followAll ids [.becameUnique (singled turn s).report k]).1.bindings.get? x =
        some k := by
      rw [← hid]
      exact Table.get?_insert_self _ _ _
    have hother : ∀ e ∈ fs, e.concerns? ≠ some x := fun e he hy => hx (habout e he x hy)
    have hmade := Table.get?_insert_self (r.remove (singled turn s).id).1.displays k
      { Display.ofScreen k (singled turn s).report with
        state := (r.remove (singled turn s).id).1.state }
    refine ⟨s, _, hs, ?_, (Registry.displays_followAll horderly hother hbound).trans hmade, rfl⟩
    rw [Registry.bindings_followAll _ _ hother]
    exact hbound
  · obtain ⟨s', v, hs', hv⟩ := h _ _ horderly p hp
    have hne : p.1 ≠ x := fun he => hx (he ▸ (List.of_mem_zip hp).1)
    exact ⟨s', v, (hscreens p.1 hne).symm.trans hs', hv⟩

/-- One screen takes one number. -/
theorem makeUniqueStep_draws (h : Sound d.topology) (turn : UniqueRotation) {x : ScreenId}
    {s : Screen} (hs : d.topology.screen? x = some s) :
    (makeUniqueStep turn x d).1 = .ok ⟨d.topology.displayIds.peek⟩ ∧
      (makeUniqueStep turn x d).2.topology.displayIds = d.topology.displayIds.advance := by
  rw [makeUniqueStep_of_live h turn hs, ← displayIds_leave h x .madeUnique]
  exact ⟨rfl, rfl⟩

theorem Singling.cons {turn : UniqueRotation} {x : ScreenId} {xs : List ScreenId}
    {ds : List DisplayId} {d' : Draft} {s : Screen} (h : Sound d.topology)
    (hs : d.topology.screen? x = some s) (hx : x ∉ xs)
    (h' : Singling turn xs ds (makeUniqueStep turn x d).2 d') :
    Singling turn (x :: xs) (⟨d.topology.displayIds.peek⟩ :: ds) d d' := by
  obtain ⟨es, display, hok, hes, hdeparture, -⟩ := makeUniqueStep_events h turn hs
  obtain ⟨hdrawn, hids⟩ := makeUniqueStep_draws h turn hs
  obtain rfl : display = ⟨d.topology.displayIds.peek⟩ := Except.ok.inj (hok.symm.trans hdrawn)
  have hscreens := screen?_makeUniqueStep h turn hs
  have hid : (singled turn s).id = x := (turn.apply_id _).trans (h.screen_id x s hs)
  have hcount : (makeUniqueStep turn x d).2.topology.displayIds.count =
      d.topology.displayIds.count + 1 := congrArg IdSource.count hids
  constructor
  case screens =>
    intro y
    rw [h'.screens, hscreens]
    by_cases hy : y = x
    · subst hy
      rw [if_neg hx, if_pos rfl, if_pos List.mem_cons_self, hs]
      rfl
    · simp only [hy, if_false, List.mem_cons, false_or]
  case drawn =>
    rw [h'.drawn, hcount, List.length_cons]
    omega
  case numbers =>
    intro hlast
    have hlt : d.topology.displayIds.count < 2 ^ 64 := by
      have hlast' := h'.drawn
      omega
    rw [List.map_cons, h'.numbers hlast, hcount, List.length_cons]
    exact congrArg (· :: _) (IdSource.peek_of_lt hlt)
  case told =>
    obtain ⟨fs, hfs, habout, hrenews⟩ := h'.told
    refine ⟨_, by rw [hfs, hes, List.append_assoc]; rfl, ?_,
      renews_cons hs hid hx ?_ hdeparture habout hrenews⟩
    · intro e he y hy
      rcases List.mem_append.mp he with he | he
      · refine List.mem_cons.mpr (.inl ?_)
        rcases List.mem_append.mp he with he | he
        · exact concerns?_of_departure hdeparture he hy
        · obtain rfl := List.mem_singleton.mp he
          exact (Option.some.inj hy).symm.trans hid
      · exact List.mem_cons_of_mem x (habout e he y hy)
    · intro y hy
      rw [hscreens, if_neg hy]

/-- Live screens are made unique one after the other, and none is refused. -/
theorem singling_makeUniqueSteps (turn : UniqueRotation) {xs : List ScreenId} (hxs : xs.Nodup)
    {d : Draft} (h : Sound d.topology) (hlive : ∀ x ∈ xs, ∃ s, d.topology.screen? x = some s) :
    ∃ ds, (makeUniqueSteps turn xs d).1 = .ok ds ∧ ds.length = xs.length ∧
      Singling turn xs ds d (makeUniqueSteps turn xs d).2 := by
  induction xs generalizing d with
  | nil => exact ⟨[], rfl, rfl, singling_nil turn d⟩
  | cons x rest ih =>
    obtain ⟨hx, hrest⟩ := List.nodup_cons.mp hxs
    obtain ⟨s, hs⟩ := hlive x List.mem_cons_self
    have hok := (makeUniqueStep_draws h turn hs).1
    have hlive' : ∀ y ∈ rest, ∃ s, (makeUniqueStep turn x d).2.topology.screen? y = some s :=
      live_of_rewritten (fun y hy => hlive y (List.mem_cons_of_mem x hy))
        (screen?_makeUniqueStep h turn hs)
    obtain ⟨ds, hok', hlength, hsingling⟩ :=
      ih hrest ((extends_makeUniqueStep h turn x).sound h) hlive'
    rw [makeUniqueSteps_of_ok hok hok']
    exact ⟨_, rfl, congrArg Nat.succ hlength, hsingling.cons h hs hx⟩

end Draft

namespace Service

open DisplayServer.Topology

variable {ι : Type} [DecidableEq ι] {respond : ι → AgentEvent → Response ι}
variable {capability : FoldCapability} {known : ScreenId → Prop} {s s' : Service ι}

/-! ## The request -/

/-- The screens `ids` were made unique and `ds` are their displays. Here `used` are the numbers
that displays have had before. -/
structure MadeUnique (used : DisplayId → Prop) (ids : List ScreenId) (turn : UniqueRotation)
    (ds : List DisplayId) (s s' : Service ι) : Prop where
  /-- There is one number for each distinct screen. -/
  length : ds.length = (distinct ids).length
  /-- The numbers differ. -/
  nodup : ds.Nodup
  /-- No display has had one of them before. -/
  unused : ∀ d ∈ ds, ¬ used d
  /-- Each of the screens is in no group, and turned where the rotation is locked. -/
  screen : ∀ x ∈ ids, ∃ old new, s.topology.screen? x = some old ∧
    s'.topology.screen? x = some new ∧ new.parent = none ∧
    new.rotation = if turn.locked then turn.rotation else old.rotation
  /-- It is bound to the display of its number and to no other. -/
  bound : ∀ p ∈ (distinct ids).zip ds, s'.registry.bindings.get? p.1 = some p.2 ∧
    ∀ d, s'.registry.Serves d p.1 ↔ d = p.2
  /-- The display shows it as it is. -/
  display : ∀ p ∈ (distinct ids).zip ds, ∃ w v, s'.topology.screen? p.1 = some w ∧
    s'.registry.displays.get? p.2 = some v ∧ v.rotation = w.rotation ∧
    (v.width, v.height) = w.presentedSize
  /-- The displays that they had are gone. -/
  gone : ∀ x ∈ ids, ∀ d, s.registry.Serves d x → s'.registry.displays.get? d = none
  /-- Every other screen stays where and as it is, and so does its display. -/
  others : ∀ y, y ∉ ids → s'.topology.screen? y = s.topology.screen? y ∧
    s'.registry.displayOf? y = s.registry.displayOf? y

omit [DecidableEq ι] in
/-- The request is carried out, and the registry follows what it reported. -/
theorem arranged_makeUnique (h : Follows known s) {ids : List ScreenId} {turn : UniqueRotation}
    {ds : List DisplayId} (ha : Arranged (.makeUnique ids turn) s s')
    (hok : (s.topology.makeUnique ids turn).result = .ok ds)
    (hdisplays : s'.topology.displayIds.count ≤ 2 ^ 64) :
    (∀ x ∈ ids, ∃ w, s.topology.screen? x = some w) ∧ ds.length = (distinct ids).length ∧
      ds.map DisplayId.val = List.range' s.topology.displayIds.count (distinct ids).length ∧
      (∀ y, s'.topology.screen? y =
        if y ∈ ids then (s.topology.screen? y).map (Draft.singled turn)
        else s.topology.screen? y) ∧
      ∃ sources es, s'.registry = (s.registry.followAll sources es).1 ∧
        (∀ e ∈ es, ∀ y, e.concerns? = some y → y ∈ ids) ∧
        Draft.Renews turn s.topology (distinct ids) ds es := by
  obtain ⟨e, hd⟩ | ⟨hlive, hd⟩ := makeUnique_cases s.topology ids turn
  · rw [hd] at hok
    cases hok
  obtain ⟨ds', hok', hlength, hscreen, -, hnumbers, es, hes, habout, hrenews⟩ :=
    Draft.singling_makeUniqueSteps turn (nodup_distinct ids) (d := .begin s.topology) h.sound hlive
  obtain rfl : ds = ds' := by
    rw [hd] at hok
    exact Except.ok.inj (hok.symm.trans hok')
  have houtcome := congrArg Outcome.void hd
  have hevents : ((Command.makeUnique ids turn).outcome s.topology).events = es :=
    (congrArg Outcome.events houtcome).trans hes
  refine ⟨fun x hx => hlive x (mem_distinct.mpr hx), hlength, hnumbers ?_, fun y => ?_,
    (((Command.makeUnique ids turn).outcome s.topology).topology.displayIds), es,
    hevents ▸ ha.registry, fun e he y hy => mem_distinct.mp (habout e he y hy), hrenews⟩
  · -- the registry draws its numbers after these
    rw [ha.topology] at hdisplays
    refine Nat.le_trans ?_ hdisplays
    exact (congrArg (·.topology.displayIds.count) houtcome).symm.trans_le
      (Registry.count_followAll _ _ _)
  · have hy := hscreen y
    simp only [mem_distinct] at hy
    rw [screen?_arranged ha]
    exact (congrArg (·.topology.screen? y) houtcome).trans hy

omit [DecidableEq ι] in
/-- Making screens unique on a registry that has followed so far. -/
theorem madeUnique_of_arranged (h : Follows known s) {ids : List ScreenId} {turn : UniqueRotation}
    {ds : List DisplayId} (ha : Arranged (.makeUnique ids turn) s s')
    (hok : (s.topology.makeUnique ids turn).result = .ok ds)
    (hscreens : s'.topology.screenIds.count ≤ 2 ^ 64)
    (hdisplays : s'.topology.displayIds.count ≤ 2 ^ 64) {used : DisplayId → Prop}
    (hused : ∀ d, used d → d.val < s.topology.displayIds.count) :
    MadeUnique used ids turn ds s s' := by
  have horderly := (follows_arranged h ha hscreens hdisplays).orderly
  obtain ⟨hlive, hlength, hnumbers, hscreen, sources, es, hregistry, habout, hrenews⟩ :=
    arranged_makeUnique h ha hok hdisplays
  have hnew : ∀ d ∈ ds, s.topology.displayIds.count ≤ d.val := by
    intro d hd
    have hmem := List.mem_map_of_mem (f := DisplayId.val) hd
    rw [hnumbers, List.mem_range'_1] at hmem
    exact hmem.1
  have hkeeps : ∀ y, y ∉ ids → s'.registry.displayOf? y = s.registry.displayOf? y := by
    intro y hy
    rw [hregistry] at horderly ⊢
    exact Registry.displayOf?_followAll horderly fun e he hey => hy (habout e he y hey)
  have hmade := hrenews s.registry sources (hregistry ▸ horderly)
  rw [← hregistry] at hmade
  have hbound : ∀ p ∈ (distinct ids).zip ds, s'.registry.bindings.get? p.1 = some p.2 ∧
      ∀ d, s'.registry.Serves d p.1 ↔ d = p.2 := by
    intro p hp
    obtain ⟨w, v, -, hb, -⟩ := hmade p hp
    refine ⟨hb, fun d => (horderly.bound p.1 d).symm.trans ?_⟩
    rw [hb, Option.some.injEq, eq_comm]
  exact {
    length := hlength
    nodup := by
      refine List.Nodup.of_map DisplayId.val ?_
      rw [hnumbers]
      exact List.nodup_range'
    unused := by
      intro d hd hu
      exact absurd (hused d hu) (Nat.not_lt.mpr (hnew d hd))
    screen := by
      intro x hx
      obtain ⟨w, hw⟩ := hlive x hx
      refine ⟨w, Draft.singled turn w, hw, ?_, turn.apply_parent _, Draft.singled_rotation turn w⟩
      rw [hscreen, if_pos hx, hw]
      rfl
    bound := hbound
    display := by
      intro p hp
      obtain ⟨w, v, hw, -, hv, hportrays⟩ := hmade p hp
      have hx : p.1 ∈ ids := mem_distinct.mp (List.of_mem_zip hp).1
      refine ⟨Draft.singled turn w, v, ?_, hv, congrArg Geometry.rotation hportrays,
        Prod.ext (congrArg Geometry.width hportrays) (congrArg Geometry.height hportrays)⟩
      rw [hscreen, if_pos hx, hw]
      rfl
    gone := by
      intro x hx d hd
      cases hv : s'.registry.displays.get? d with
      | none => rfl
      | some v =>
        obtain ⟨u, hu, rfl⟩ := hd
        by_cases hvx : v.screen ∈ ids
        · -- the displays of listed screens have new numbers
          obtain ⟨p, hp, hpx⟩ : ∃ p ∈ (distinct ids).zip ds, p.1 = v.screen := by
            rw [← List.mem_map, List.map_fst_zip hlength.ge]
            exact mem_distinct.mpr hvx
          obtain rfl := ((hbound p hp).2 d).mp ⟨v, hv, hpx.symm⟩
          have := hnew p.2 (List.of_mem_zip hp).2
          have := h.drawn p.2 u hu
          omega
        · -- and a display of another screen was there before, for that screen
          rw [hregistry] at hv
          have hold := Registry.displays_of_followAll hv fun e he hey => hvx (habout e he _ hey)
          rw [hu] at hold
          exact absurd (Option.some.inj hold ▸ hx) hvx
    others := by
      intro y hy
      exact ⟨by rw [hscreen, if_neg hy], hkeeps y hy⟩ }

/-- A display has had the number at some point of the run. -/
def Used (respond : ι → AgentEvent → Response ι) (capability : FoldCapability)
    (run : List (Command ι)) (d : DisplayId) : Prop :=
  d ∈ made (Service.news respond (start capability) run) ∨
    ∃ beginning, beginning <+: run ∧ (after respond (start capability) beginning).registry.Has d

theorem drawn_of_used {run : List (Command ι)}
    (hscreens : (after respond (start capability) run).topology.screenIds.count ≤ 2 ^ 64)
    (hdisplays : (after respond (start capability) run).topology.displayIds.count ≤ 2 ^ 64)
    {d : DisplayId} (hd : Used respond capability run d) :
    d.val < (after respond (start capability) run).topology.displayIds.count := by
  rcases hd with hmade | ⟨beginning, hbefore, hd⟩
  · exact (recorded_after respond capability run hscreens hdisplays).drawn d hmade
  · obtain ⟨hscreens', hdisplays'⟩ :=
      counts_le_of_beginning respond (s := start capability) hbefore
    obtain ⟨v, hv⟩ := Option.isSome_iff_exists.mp hd
    have hdrawn := (follows_after respond beginning (Nat.le_trans hscreens' hscreens)
      (Nat.le_trans hdisplays' hdisplays)).drawn d v hv
    exact Nat.lt_of_lt_of_le hdrawn hdisplays'

/-- **Making screens unique after any run gives each of them a display of its own, under a number
that was never used before, and leaves all other screens and their displays alone.** -/
theorem madeUnique_of_granted (run : List (Command ι)) (ids : List ScreenId)
    (turn : UniqueRotation) {ds : List DisplayId} {reply : Reply ι (Except Error (List DisplayId))}
    (hreply : reply = (after respond (start capability) run).arrange respond
      fun t => t.makeUnique ids turn)
    (hok : reply.result = .ok ds)
    (hscreens : reply.service.topology.screenIds.count ≤ 2 ^ 64)
    (hdisplays : reply.service.topology.displayIds.count ≤ 2 ^ 64) :
    MadeUnique (Used respond capability run) ids turn ds
      (after respond (start capability) run) reply.service := by
  subst hreply
  have hcounts := counts_perform respond (after respond (start capability) run)
    (.arrange (.makeUnique ids turn))
  have hscreens' := Nat.le_trans hcounts.1 hscreens
  have hdisplays' := Nat.le_trans hcounts.2 hdisplays
  exact madeUnique_of_arranged (follows_after respond run hscreens' hdisplays')
    (arranged_arrange respond _ (.makeUnique ids turn)) hok hscreens hdisplays
    fun d hd => drawn_of_used hscreens' hdisplays' hd

/-- A panel that is a source, two screens that show it, a screen on a desktop, and one that has
been made unique before. -/
def gatheredRun : List (Command Nat) :=
  [.arrange (.connect ⟨0⟩ ⟨"builtin", [⟨1080, 2340, 60⟩], 0, 2, []⟩),
    .arrange (.create ⟨"a", 640, 480, 1, none⟩),
    .arrange (.create ⟨"b", 640, 480, 1, none⟩),
    .arrange (.create ⟨"c", 800, 600, 1, none⟩),
    .arrange (.create ⟨"d", 800, 600, 1, none⟩),
    .arrange (.mirror ⟨0⟩ [⟨2⟩, ⟨3⟩]),
    .arrange (.expand [⟨4⟩] [⟨0, 0⟩]),
    .arrange (.makeUnique [⟨5⟩] ⟨true, .deg90⟩)]

/-- The listed screens come from the mirror, the desktop, the group of panels, and from nowhere;
one is listed twice. -/
theorem madeUnique_of_granted_gatheredRun :
    ((after quiet (start ⟨false, []⟩) gatheredRun).arrange quiet
        fun t => t.makeUnique [⟨3⟩, ⟨4⟩, ⟨3⟩, ⟨5⟩, ⟨0⟩] ⟨true, .deg270⟩).result =
          .ok [⟨3⟩, ⟨4⟩, ⟨5⟩, ⟨6⟩] ∧
      MadeUnique (Used quiet ⟨false, []⟩ gatheredRun) [⟨3⟩, ⟨4⟩, ⟨3⟩, ⟨5⟩, ⟨0⟩] ⟨true, .deg270⟩
        [⟨3⟩, ⟨4⟩, ⟨5⟩, ⟨6⟩] (after quiet (start ⟨false, []⟩) gatheredRun)
        ((after quiet (start ⟨false, []⟩) gatheredRun).arrange quiet
          fun t => t.makeUnique [⟨3⟩, ⟨4⟩, ⟨3⟩, ⟨5⟩, ⟨0⟩] ⟨true, .deg270⟩).service :=
  ⟨by decide +kernel,
    madeUnique_of_granted gatheredRun [⟨3⟩, ⟨4⟩, ⟨3⟩, ⟨5⟩, ⟨0⟩] ⟨true, .deg270⟩ rfl
      (by decide +kernel) (by decide +kernel) (by decide +kernel)⟩

end Service

end DisplayServer
