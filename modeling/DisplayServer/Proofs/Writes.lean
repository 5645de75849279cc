import DisplayServer.Proofs.Commands
import DisplayServer.Proofs.Requests
import Mathlib.Logic.Relation

/-!
# What no edit does, whatever the topology

Some laws hold of every topology, sound or not: numbers are drawn and never given back, what is
reported stays reported, and a report quotes an entry as it stands at that moment. They need no
account of what an operation is for, only of the single writes that it is made of. `Draft.Write`
lists these writes, `Draft.Writes` chains them, and every operation is such a chain; a law is
then proved once for each kind of write.

The predicate on events says which events a chain may report, so that one account also tells
which operations report what.
-/

namespace DisplayServer

/-- The report of a screen that the event carries. -/
def TopologyEvent.screen? : TopologyEvent → Option ScreenReport
  | connected screen => some screen
  | changed screen _ => some screen
  | joinedGroup screen _ => some screen
  | leftGroup screen _ _ => some screen
  | becameUnique screen _ => some screen
  | disconnected _ => none
  | groupDissolved _ => none

namespace Draft

open DisplayServer.Topology

/-- A single write to a draft; `P` says what it may report. -/
inductive Write (P : TopologyEvent → Prop) : Draft → Draft → Prop
  /-- A live screen is rewritten with the pixel ratio it had. -/
  | rewrite (d : Draft) (x k : ScreenId) (old new : Screen)
      (hold : d.topology.screen? x = some old) (hratio : new.pixelRatio = old.pixelRatio) :
      Write P d (d.edit fun t => { t with nodes := t.nodes.insert k (.leaf new) })
  /-- A screen is put whose pixel ratio was checked. -/
  | enlist (d : Draft) (s : Screen) (hratio : 0 < s.pixelRatio) :
      Write P d (d.edit fun t => t.putScreen s)
  /-- A group is put. -/
  | compose (d : Draft) (k : ScreenId) (g : ScreenGroup) :
      Write P d (d.edit fun t => { t with nodes := t.nodes.insert k (.group g) })
  /-- An entry is dropped. -/
  | drop (d : Draft) (k : ScreenId) :
      Write P d (d.edit fun t => { t with nodes := t.nodes.erase k })
  /-- The panels are put into a power state. -/
  | power (d : Draft) (power : ScreenPower) :
      Write P d (d.edit fun t => (t.setPanelPower power).1)
  /-- Something beside the entries is written, and the sources of numbers go forward. -/
  | beside (d : Draft) (u : Topology) (hnodes : u.nodes = d.topology.nodes)
      (hscreens : d.topology.screenIds.count ≤ u.screenIds.count)
      (hdisplays : d.topology.displayIds.count ≤ u.displayIds.count) :
      Write P d (d.edit fun _ => u)
  /-- An event is reported that quotes entries as they are. -/
  | report (d : Draft) (e : TopologyEvent) (hP : P e)
      (hquote : ∀ r, e.screen? = some r → ∃ x, d.topology.report? x = some r) :
      Write P d (d.emit e)

/-- Writes, one after the other. -/
def Writes (P : TopologyEvent → Prop) : Draft → Draft → Prop := Relation.ReflTransGen (Write P)

variable {P : TopologyEvent → Prop} {d d' d'' : Draft}

theorem Writes.refl (d : Draft) : Writes P d d := Relation.ReflTransGen.refl

theorem Writes.trans (h : Writes P d d') (h' : Writes P d' d'') : Writes P d d'' :=
  Relation.ReflTransGen.trans h h'

theorem Writes.tail (h : Writes P d d') (h' : Write P d' d'') : Writes P d d'' :=
  Relation.ReflTransGen.tail h h'

theorem Write.writes (h : Write P d d') : Writes P d d' := Relation.ReflTransGen.single h

theorem Writes.mono {Q : TopologyEvent → Prop} (hPQ : ∀ e, P e → Q e) (h : Writes P d d') :
    Writes Q d d' := by
  refine Relation.ReflTransGen.mono (fun _ _ hw => ?_) _ _ h
  cases hw with
  | rewrite x k old new hold hratio => exact .rewrite _ x k old new hold hratio
  | enlist s hratio => exact .enlist _ s hratio
  | compose k g => exact .compose _ k g
  | drop k => exact .drop _ k
  | power p => exact .power _ p
  | beside u hnodes hscreens hdisplays => exact .beside _ u hnodes hscreens hdisplays
  | report e hP hquote => exact .report _ e (hPQ e hP) hquote

theorem Writes.foldl {α : Type} {f : Draft → α → Draft} (hf : ∀ d a, Writes P d (f d a))
    (as : List α) (d : Draft) : Writes P d (as.foldl f d) := by
  induction as generalizing d with
  | nil => exact Writes.refl d
  | cons a rest ih => exact (hf d a).trans (ih (f d a))

/-! ## Laws of all writes -/

theorem Writes.screenIds_le (h : Writes P d d') :
    d.topology.screenIds.count ≤ d'.topology.screenIds.count := by
  induction h with
  | refl => exact Nat.le_refl _
  | tail _ hw ih =>
    refine Nat.le_trans ih ?_
    -- only writes beside the entries touch the sources
    cases hw with
    | beside _ hnodes hscreens hdisplays => exact hscreens
    | _ => exact Nat.le_refl _

theorem Writes.displayIds_le (h : Writes P d d') :
    d.topology.displayIds.count ≤ d'.topology.displayIds.count := by
  induction h with
  | refl => exact Nat.le_refl _
  | tail _ hw ih =>
    refine Nat.le_trans ih ?_
    cases hw with
    | beside _ hnodes hscreens hdisplays => exact hdisplays
    | _ => exact Nat.le_refl _

/-- What was reported stays reported, and what is added is allowed. -/
theorem Writes.events (h : Writes P d d') :
    ∃ es, d'.events = d.events ++ es ∧ ∀ e ∈ es, P e := by
  induction h with
  | refl => exact ⟨[], (List.append_nil _).symm, fun e he => (List.not_mem_nil he).elim⟩
  | tail _ hw ih =>
    obtain ⟨es, hes, hP⟩ := ih
    cases hw with
    | report e he hquote =>
      refine ⟨es ++ [e], ?_, ?_⟩
      · rw [← List.append_assoc, ← hes]
        rfl
      · intro e' he'
        rcases List.mem_append.mp he' with he' | he'
        · exact hP e' he'
        · rw [List.mem_singleton.mp he']
          exact he
    | _ => exact ⟨es, hes, hP⟩

/-- Everything that readers were told or would be told has a positive pixel ratio. -/
structure Lit (d : Draft) : Prop where
  /-- A reader of the entries sees a positive ratio. -/
  entries : ∀ x r, d.topology.report? x = some r → 0 < r.pixelRatio
  /-- So did the readers of the events. -/
  reports : ∀ e ∈ d.events, ∀ r, e.screen? = some r → 0 < r.pixelRatio

/-- A table of entries stays lit when one entry of it is written. -/
theorem lit_insert {t : Topology} {k : ScreenId} {n : Node}
    (h : ∀ x r, t.report? x = some r → 0 < r.pixelRatio) (hn : 0 < n.report.pixelRatio) :
    ∀ x r, ({ t with nodes := t.nodes.insert k n } : Topology).report? x = some r →
      0 < r.pixelRatio := by
  intro x r hr
  simp only [report?, Table.get?_insert_ite] at hr
  split at hr
  · rw [← Option.some.inj hr]
    exact hn
  · exact h x r hr

theorem Write.lit (hw : Write P d d') (h : Lit d) : Lit d' := by
  cases hw with
  | rewrite x k old new hold hratio =>
    refine ⟨lit_insert h.entries ?_, h.reports⟩
    -- the ratio is the one of the screen that was there
    have := h.entries x old.report (report?_of_screen? hold)
    show 0 < new.pixelRatio
    rw [hratio]
    exact this
  | enlist s hratio => exact ⟨lit_insert h.entries hratio, h.reports⟩
  | compose k g =>
    refine ⟨lit_insert h.entries ?_, h.reports⟩
    -- a group is reported with the ratio one
    show (0 : Float32) < 1
    decide
  | drop k =>
    refine ⟨?_, h.reports⟩
    intro x r hr
    simp only [edit, report?, Table.get?_erase_ite] at hr
    split at hr
    · cases hr
    · exact h.entries x r hr
  | power p =>
    refine ⟨?_, h.reports⟩
    intro x r hr
    simp only [edit, setPanelPower, report?, Table.get?_map, Option.map_eq_some_iff] at hr
    obtain ⟨n, ⟨old, hold, rfl⟩, rfl⟩ := hr
    have := h.entries x old.report (by simp [report?, hold])
    -- whatever the entry is, its ratio is left alone
    have hratio : (powerPanel p old).report.pixelRatio = old.report.pixelRatio := by
      cases old with
      | leaf s =>
        simp only [powerPanel]
        split <;> rfl
      | group g => rfl
    rw [hratio]
    exact this
  | beside u hnodes hscreens hdisplays =>
    refine ⟨?_, h.reports⟩
    intro x r hr
    simp only [edit, report?, hnodes] at hr
    exact h.entries x r hr
  | report e hP hquote =>
    refine ⟨h.entries, ?_⟩
    intro e' he' r hr
    rcases List.mem_append.mp he' with he' | he'
    · exact h.reports e' he' r hr
    · rw [List.mem_singleton.mp he'] at hr
      -- the event quotes an entry, and all entries are lit
      obtain ⟨x, hx⟩ := hquote r hr
      exact h.entries x r hx

theorem Writes.lit (hw : Writes P d d') (h : Lit d) : Lit d' := by
  induction hw with
  | refl => exact h
  | tail _ hw ih => exact hw.lit ih

/-! ## The steps of drafts -/

/-- Updating a screen is rewriting it, where there is one. -/
theorem writes_modifyScreen (d : Draft) (x : ScreenId) (f : Screen → Screen)
    (hf : ∀ s, (f s).pixelRatio = s.pixelRatio) :
    Writes P d (d.edit fun t => t.modifyScreen x f) := by
  cases hs : d.topology.screen? x with
  | none =>
    have : (d.edit fun t => t.modifyScreen x f) = d := by
      simp [edit, modifyScreen_of_none hs]
    rw [this]
    exact Writes.refl d
  | some s =>
    have : (d.edit fun t => t.modifyScreen x f) =
        d.edit fun t => { t with nodes := t.nodes.insert x (.leaf (f s)) } := by
      simp [edit, modifyScreen, hs]
    rw [this]
    exact (Write.rewrite d x x s (f s) hs (hf s)).writes

/-- Updating how a group is composed is putting it, where there is one. -/
theorem writes_modifyGroup (d : Draft) (x : ScreenId) (f : Composition → Composition) :
    Writes P d (d.edit fun t => t.modifyGroup x f) := by
  cases hg : d.topology.group? x with
  | none =>
    have : (d.edit fun t => t.modifyGroup x f) = d := by
      simp [edit, modifyGroup, hg]
    rw [this]
    exact Writes.refl d
  | some g =>
    have : (d.edit fun t => t.modifyGroup x f) = d.edit fun t =>
        { t with
          nodes := t.nodes.insert x (.group { g with composition := f g.composition }) } := by
      simp [edit, modifyGroup, hg]
    rw [this]
    exact (Write.compose d x _).writes

section Leaving

theorem writes_detach {reason : LeaveReason} (hleft : ∀ s g, P (.leftGroup s g reason))
    (d : Draft) (x : ScreenId) : Writes P d (d.detach x reason).1 := by
  unfold detach
  split
  · exact Writes.refl d
  · rename_i g hparent
    have hclear := writes_modifyScreen (P := P) d x (fun s => { s with parent := none })
      fun _ => rfl
    simp only
    split
    · exact hclear
    · split
      · have hremove := hclear.trans (writes_modifyGroup _ g fun c => c.remove x)
        split
        · rename_i screen group hscreen hgroup
          refine hremove.tail (Write.report _ _ (hleft screen group) ?_)
          intro r hr
          exact ⟨x, hscreen.trans hr⟩
        · exact hremove
      · exact hclear

variable (hdissolved : ∀ g, P (.groupDissolved g))

include hdissolved

theorem writes_dissolveIfEmpty (d : Draft) (g : ScreenId) : Writes P d (d.dissolveIfEmpty g) := by
  unfold dissolveIfEmpty
  split
  · exact Writes.refl d
  · split
    · refine ((Write.drop d g).writes.tail ?_).tail (Write.report _ _ (hdissolved g) ?_)
      · exact Write.beside _ _ rfl (Nat.le_refl _) (Nat.le_refl _)
      · intro r hr
        cases hr
    · exact Writes.refl d

theorem writes_leave {reason : LeaveReason} (hleft : ∀ s g, P (.leftGroup s g reason))
    (d : Draft) (x : ScreenId) : Writes P d (d.leave x reason) := by
  have hdetach := writes_detach hleft d x
  unfold leave
  split
  · rename_i d' g h
    rw [h] at hdetach
    exact hdetach.trans (writes_dissolveIfEmpty hdissolved d' g)
  · rename_i d' h
    rw [h] at hdetach
    exact hdetach

section Detaching

variable (hleft : ∀ s g, P (.leftGroup s g .detached))

include hleft

theorem writes_stopMirrorsOf (d : Draft) (x : ScreenId) : Writes P d (d.stopMirrorsOf x) := by
  refine Writes.foldl (fun d g => ?_) _ d
  refine Writes.trans ?_ (writes_dissolveIfEmpty hdissolved _ g)
  exact Writes.foldl (fun d child => writes_detach hleft d child) _ d

theorem writes_erase (hlast : ∀ s g, P (.leftGroup s g .destroyed))
    (hgone : ∀ x, P (.disconnected x)) (d : Draft) (x : ScreenId) :
    Writes P d (d.erase x) := by
  have hleave := (writes_stopMirrorsOf hdissolved hleft d x).trans
    (writes_leave hdissolved hlast _ x)
  refine ((hleave.tail (Write.drop _ x)).tail ?_).tail (Write.report _ _ (hgone x) ?_)
  · exact Write.beside _ _ rfl (Nat.le_refl _) (Nat.le_refl _)
  · intro r hr
    cases hr

theorem writes_stopStep (combination : Combination) (d : Draft) (x : ScreenId) :
    Writes P d (stopStep combination d x) := by
  unfold stopStep
  split
  · split
    · exact writes_leave hdissolved hleft d x
    · exact Writes.refl d
  · exact Writes.refl d

theorem writes_ungroupStep (d : Draft) (x : ScreenId) : Writes P d (ungroupStep d x) := by
  unfold ungroupStep
  split
  · exact writes_leave hdissolved hleft d x
  · exact Writes.refl d

end Detaching

section Uniting

variable (hleft : ∀ s g, P (.leftGroup s g .madeUnique)) (hunique : ∀ s d, P (.becameUnique s d))

include hleft hunique

theorem writes_makeUniqueStep (turn : UniqueRotation) (x : ScreenId) (d : Draft) :
    Writes P d (makeUniqueStep turn x d).2 := by
  have hleave := writes_leave hdissolved hleft d x
  unfold makeUniqueStep
  simp only
  split
  · exact hleave
  · rename_i s hs
    have hratio : (if turn.locked then { s with rotation := turn.rotation } else s).pixelRatio
        = s.pixelRatio := by
      split <;> rfl
    revert hratio
    generalize (if turn.locked then { s with rotation := turn.rotation } else s) = s'
    intro hratio
    -- the number is drawn beside the entries, and the event quotes the screen as turned
    let u := (d.leave x .madeUnique).topology.putScreen s'
    have hdraw : Writes P d ((d.leave x .madeUnique).edit fun _ =>
        { u with displayIds := u.displayIds.advance }) :=
      (hleave.tail (Write.rewrite _ x s'.id s s' hs hratio)).tail
        (Write.beside _ _ rfl (Nat.le_refl _) (Nat.le_succ _))
    refine hdraw.tail (Write.report _ _ (hunique s'.report _) ?_)
    intro r hr
    have hput : u.screen? s'.id = some s' := by
      rw [screen?_putScreen, if_pos rfl]
    exact ⟨s'.id, (report?_of_screen? hput).trans hr⟩

theorem writes_makeUniqueSteps (turn : UniqueRotation) (ids : List ScreenId) (d : Draft) :
    Writes P d (makeUniqueSteps turn ids d).2 := by
  induction ids generalizing d with
  | nil => exact Writes.refl d
  | cons x rest ih =>
    have hstep := writes_makeUniqueStep hdissolved hleft hunique turn x d
    unfold makeUniqueSteps
    split
    · rename_i e d' h
      rw [h] at hstep
      exact hstep
    · rename_i display d' h
      rw [h] at hstep
      have hrest := hstep.trans (ih d')
      split
      · rename_i e d'' h'
        rw [h'] at hrest
        exact hrest
      · rename_i displays d'' h'
        rw [h'] at hrest
        exact hrest

end Uniting

end Leaving

section Joining

variable (hjoined : ∀ s g, P (.joinedGroup s g))

include hjoined in
theorem writes_attach (d : Draft) (x g : ScreenId) (start : Point) :
    Writes P d (d.attach x g start) := by
  unfold attach
  split
  · exact Writes.refl d
  · have hplace := (writes_modifyGroup (P := P) d g fun c => c.place x start).trans
      (writes_modifyScreen _ x (fun s => { s with parent := some g }) fun _ => rfl)
    simp only
    split
    · rename_i screen group hscreen hgroup
      refine hplace.tail (Write.report _ _ (hjoined screen group) ?_)
      intro r hr
      exact ⟨x, hscreen.trans hr⟩
    · exact hplace

variable (hdissolved : ∀ g, P (.groupDissolved g)) (hleft : ∀ s g, P (.leftGroup s g .detached))

include hjoined hdissolved hleft

theorem writes_mirrorOnto (g : ScreenId) (d : Draft) (x : ScreenId) :
    Writes P d (mirrorOnto g d x) := by
  unfold mirrorOnto
  split
  · exact Writes.refl d
  · exact (writes_leave hdissolved hleft d x).trans (writes_attach hjoined _ x g .origin)

theorem writes_expandOnto (g : ScreenId) (d : Draft) (placed : ScreenId × Point) :
    Writes P d (expandOnto g d placed) := by
  unfold expandOnto
  split
  · exact writes_modifyGroup d g _
  · exact (writes_leave hdissolved hleft d placed.1).trans
      (writes_attach hjoined _ placed.1 g placed.2)

end Joining

end Draft

namespace Topology

open Draft

/-! ## The operations -/

/-- A live screen is rewritten and the change of it reported. -/
theorem writes_changed {P : TopologyEvent → Prop} (t : Topology) {x : ScreenId} {old s : Screen}
    (hold : t.screen? x = some old) (hratio : s.pixelRatio = old.pixelRatio)
    (change : ScreenChange) (hP : P (.changed s.report change)) :
    Writes P (.begin t) ((Draft.begin (t.putScreen s)).emit (.changed s.report change)) := by
  have hput : (t.putScreen s).screen? s.id = some s := by
    rw [screen?_putScreen, if_pos rfl]
  refine (Write.rewrite (.begin t) x s.id old s hold hratio).writes.tail (Write.report _ _ hP ?_)
  intro r hr
  exact ⟨s.id, (report?_of_screen? hput).trans hr⟩

/-- A new screen is put and reported; what is written beside it goes forward. -/
theorem writes_enlist {P : TopologyEvent → Prop} (t u : Topology) {s : Screen}
    (hratio : 0 < s.pixelRatio) (hP : P (.connected s.report))
    (hnodes : u.nodes = (t.putScreen s).nodes)
    (hscreens : t.screenIds.count ≤ u.screenIds.count)
    (hdisplays : t.displayIds.count ≤ u.displayIds.count) :
    Writes P (.begin t) ((Draft.begin u).emit (.connected s.report)) := by
  have hput : (t.putScreen s).screen? s.id = some s := by
    rw [screen?_putScreen, if_pos rfl]
  have hplug : Writes P (.begin t)
      (((Draft.begin t).edit fun t => t.putScreen s).emit (.connected s.report)) := by
    refine (Write.enlist _ s hratio).writes.tail (Write.report _ _ hP ?_)
    intro r hr
    exact ⟨s.id, (report?_of_screen? hput).trans hr⟩
  exact hplug.tail (Write.beside _ u hnodes hscreens hdisplays)

/-- A group is opened under a number just drawn. -/
theorem writes_openGroup {P : TopologyEvent → Prop} (d : Draft) (combination : Combination)
    (main : Option ScreenId) :
    Writes P d (d.edit fun t => t.openGroup combination main) :=
  (Write.compose d d.topology.nextScreenId ⟨_, .fresh combination main⟩).writes.tail
    (Write.beside _ (d.topology.openGroup combination main) rfl (Nat.le_succ _) (Nat.le_refl _))

theorem writes_connect {P : TopologyEvent → Prop}
    (hconnected : ∀ s, s.kind = .physical → P (.connected s))
    (hjoined : ∀ s g, P (.joinedGroup s g)) (t : Topology) (r : RenderId)
    (panel : PanelDescription) :
    Writes P (.begin t) ⟨(t.connect r panel).topology, (t.connect r panel).events⟩ := by
  obtain ⟨e, h⟩ | ⟨s, hs, hfault, -, h⟩ := connect_cases t r panel
  · rw [h]
    exact Writes.refl _
  · rw [h]
    have hratio : 0 < s.pixelRatio := by
      rw [hs]
      exact pixelRatio_of_panelFault? hfault
    refine Writes.trans ?_ (writes_attach hjoined _ s.id _ .origin)
    have hkind : s.report.kind = .physical := by
      rw [hs]
      rfl
    have hplug := writes_enlist (P := P) t (t.plugIn s) hratio (hconnected _ hkind) rfl
      (Nat.le_succ _) (Nat.le_refl _)
    -- the group to join is live already, or opened and made the home of panels
    cases hd : (t.plugIn s).defaultGroup with
    | some g =>
      rw [homeGroup_of_some hd]
      exact hplug
    | none =>
      rw [homeGroup_of_none hd]
      exact (hplug.trans (writes_openGroup _ .alone (some s.id))).tail
        (Write.beside _ _ rfl (Nat.le_refl _) (Nat.le_refl _))

theorem writes_stop {P : TopologyEvent → Prop} (hdissolved : ∀ g, P (.groupDissolved g))
    (hleft : ∀ s g, P (.leftGroup s g .detached)) (t : Topology) (combination : Combination)
    (ids : List ScreenId) :
    Writes P (.begin t) ⟨(t.stop combination ids).topology, (t.stop combination ids).events⟩ := by
  obtain ⟨e, h⟩ | h := stop_cases t combination ids
  · rw [h]
    exact Writes.refl _
  · rw [h]
    exact Writes.foldl (writes_stopStep hdissolved hleft combination) ids _

/-- What a command can report. -/
def Command.Reports : Command → TopologyEvent → Prop
  | connect _ _ => fun
    | .connected screen => screen.kind = .physical
    | .joinedGroup _ _ => True
    | _ => False
  | create _ => fun
    | .connected screen => screen.kind = .virtual
    | _ => False
  | disconnect _ | destroy _ => fun
    | .leftGroup _ _ reason => reason ≠ .madeUnique
    | .groupDissolved _ | .disconnected _ => True
    | _ => False
  | mirror _ _ | expand _ _ => fun
    | .leftGroup _ _ reason => reason = .detached
    | .groupDissolved _ | .joinedGroup _ _ => True
    | _ => False
  | makeUnique _ _ => fun
    | .leftGroup _ _ reason => reason = .madeUnique
    | .groupDissolved _ | .becameUnique _ _ => True
    | _ => False
  | stopMirror _ | stopExpand _ | ungroup _ => fun
    | .leftGroup _ _ reason => reason = .detached
    | .groupDissolved _ => True
    | _ => False
  | rotate _ _ => fun
    | .changed _ change => change = .rotation
    | _ => False
  | setMode _ _ => fun
    | .changed _ change => change = .mode
    | _ => False
  | setSurface _ _ | setPower _ _ | setPanelPower _ => fun _ => False

/-- Every operation is a chain of writes, and reports only what is its own to report. -/
theorem writes_reports (c : Command) (t : Topology) :
    Writes c.Reports (.begin t) ⟨(c.outcome t).topology, (c.outcome t).events⟩ := by
  cases c with
  | connect r panel => exact writes_connect (fun _ => id) (fun _ _ => trivial) t r panel
  | disconnect r =>
    obtain ⟨e, h⟩ | ⟨x, -, h⟩ := disconnect_cases t r
    · simp only [Command.outcome, Outcome.void, h]
      exact Writes.refl _
    · simp only [Command.outcome, Outcome.void, h]
      exact writes_erase (fun _ => trivial) (fun _ _ => LeaveReason.noConfusion)
        (fun _ _ => LeaveReason.noConfusion) (fun _ => trivial) _ x
  | create request =>
    obtain ⟨e, h⟩ | ⟨s, hs, hfault, h⟩ := create_cases t request
    · simp only [Command.outcome, Outcome.void, h]
      exact Writes.refl _
    · simp only [Command.outcome, Outcome.void, h]
      have hratio : 0 < s.pixelRatio := by
        rw [hs]
        exact density_of_requestFault? hfault
      have hkind : s.report.kind = .virtual := by
        rw [hs]
        rfl
      exact writes_enlist t (t.addSoftware s) hratio hkind rfl (Nat.le_succ _) (Nat.le_refl _)
  | destroy x =>
    obtain ⟨e, h⟩ | ⟨s, -, -, h⟩ := destroy_cases t x
    · simp only [Command.outcome, h]
      exact Writes.refl _
    · simp only [Command.outcome, h]
      exact writes_erase (fun _ => trivial) (fun _ _ => LeaveReason.noConfusion)
        (fun _ _ => LeaveReason.noConfusion) (fun _ => trivial) _ x
  | setSurface x surface =>
    obtain ⟨e, h⟩ | h := setSurface_cases t x surface
    · simp only [Command.outcome, h]
      exact Writes.refl _
    · simp only [Command.outcome, h]
      exact writes_modifyScreen (.begin t) x _ fun _ => rfl
  | mirror main ids =>
    have hstep := fun g => Writes.foldl
      (writes_mirrorOnto (P := (Command.mirror main ids).Reports) (fun _ _ => trivial)
        (fun _ => trivial) (fun _ _ => rfl) g) (distinct ids)
    obtain ⟨e, h⟩ | ⟨-, -, -, -, ⟨g, -, h⟩ | ⟨-, h⟩⟩ := mirror_cases t main ids
    · simp only [Command.outcome, Outcome.void, h]
      exact Writes.refl _
    · simp only [Command.outcome, Outcome.void, h]
      exact hstep g (.begin t)
    · simp only [Command.outcome, Outcome.void, h]
      exact (writes_openGroup (.begin t) .mirror (some main)).trans (hstep _ _)
  | expand ids starts =>
    have hstep := fun g => Writes.foldl
      (writes_expandOnto (P := (Command.expand ids starts).Reports) (fun _ _ => trivial)
        (fun _ => trivial) (fun _ _ => rfl) g) (ids.zip starts)
    obtain ⟨e, h⟩ | ⟨first, start, rest, -, -, ⟨g, -, -, h⟩ | h⟩ := expand_cases t ids starts
    · simp only [Command.outcome, Outcome.void, h]
      exact Writes.refl _
    · simp only [Command.outcome, Outcome.void, h]
      exact hstep g (.begin t)
    · simp only [Command.outcome, Outcome.void, h]
      exact (writes_openGroup (.begin t) .expand (some first)).trans (hstep _ _)
  | makeUnique ids turn =>
    obtain ⟨e, h⟩ | ⟨-, h⟩ := makeUnique_cases t ids turn
    · simp only [Command.outcome, Outcome.void, h]
      exact Writes.refl _
    · simp only [Command.outcome, Outcome.void, h]
      exact writes_makeUniqueSteps (fun _ => trivial) (fun _ _ => rfl) (fun _ _ => trivial) turn
        (distinct ids) (.begin t)
  | stopMirror ids => exact writes_stop (fun _ => trivial) (fun _ _ => rfl) t .mirror ids
  | stopExpand ids => exact writes_stop (fun _ => trivial) (fun _ _ => rfl) t .expand ids
  | ungroup ids =>
    exact Writes.foldl (writes_ungroupStep (fun _ => trivial) (fun _ _ => rfl)) ids _
  | rotate x rotation =>
    obtain ⟨e, h⟩ | h | ⟨s, hs, -, h⟩ := rotate_cases t x rotation
    · simp only [Command.outcome, h]
      exact Writes.refl _
    · simp only [Command.outcome, h]
      exact Writes.refl _
    · simp only [Command.outcome, h]
      exact writes_changed t hs (by rfl) .rotation rfl
  | setMode x index =>
    obtain ⟨e, h⟩ | h | ⟨s, hs, -, -, h⟩ := setMode_cases t x index
    · simp only [Command.outcome, h]
      exact Writes.refl _
    · simp only [Command.outcome, h]
      exact Writes.refl _
    · simp only [Command.outcome, h]
      exact writes_changed t hs (by rfl) .mode rfl
  | setPower x power => exact writes_modifyScreen (.begin t) x _ fun _ => rfl
  | setPanelPower power => exact (Write.power (.begin t) power).writes

/-- Every event of an operation is its own to report. -/
theorem reports_of_mem {c : Command} {t : Topology} {e : TopologyEvent}
    (he : e ∈ (c.outcome t).events) : c.Reports e := by
  obtain ⟨es, hes, hreports⟩ := (writes_reports c t).events
  have hes : (c.outcome t).events = es := hes
  exact hreports e (hes ▸ he)

/-- Every operation is a chain of writes. -/
theorem writes_outcome (c : Command) (t : Topology) :
    Writes (fun _ => True) (.begin t) ⟨(c.outcome t).topology, (c.outcome t).events⟩ :=
  (writes_reports c t).mono fun _ _ => trivial

/-- An operation quotes, and leaves behind, entries with positive pixel ratios only. -/
theorem lit_outcome {t : Topology} (h : ∀ x r, t.report? x = some r → 0 < r.pixelRatio)
    (c : Command) : Draft.Lit ⟨(c.outcome t).topology, (c.outcome t).events⟩ :=
  (writes_outcome c t).lit ⟨h, fun _ he => (List.not_mem_nil he).elim⟩

end Topology

end DisplayServer
