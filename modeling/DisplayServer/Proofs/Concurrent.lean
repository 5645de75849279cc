import DisplayServer.Proofs.Accounted
import DisplayServer.Proofs.Following
import DisplayServer.Proofs.Tracking
import DisplayServer.Proofs.Traffic
import Mathlib.Data.List.Nodup

/-!
# What every interleaving of calls keeps

Whatever the order in which the registry hears the events of concurrent calls, the topology is as
was reported (`Truthful`), the registry is in order, and no two displays get one number
(`Apart`): the numbers that events quote were drawn when the topology changed and stay free until
the registry hears of them. What the order decides is which screens are bound: those that the
events heard bind (`Concurrent`).
-/

namespace DisplayServer

open TopologyEvent

/-! ## Numbers quoted -/

/-- The number of the display that a screen is to get. -/
def TopologyEvent.quoted? : TopologyEvent → Option DisplayId
  | becameUnique _ display => some display
  | _ => none

namespace Topology

variable {t u : Topology}

/-- The numbers that a change quotes are those that it draws. -/
theorem Change.quoted {es : List TopologyEvent} (hc : Change t es u)
    (hcount : u.displayIds.count ≤ 2 ^ 64) :
    es.filterMap quoted? =
      (List.range' t.displayIds.count (u.displayIds.count - t.displayIds.count)).map .mk := by
  obtain ⟨hids, hes⟩ | ⟨s, rfl, hids⟩ := hc.draws
  · rw [hids, Nat.sub_self, List.range'_zero, List.map_nil, List.filterMap_eq_nil_iff]
    intro e he
    have hdrawn := hes e he
    cases e with
    | becameUnique s d => cases hdrawn
    | _ => rfl
  · rw [hids, IdSource.count_advance] at hcount ⊢
    rw [Nat.add_sub_cancel_left]
    have hpeek : t.displayIds.peek = t.displayIds.count := IdSource.peek_of_lt hcount
    simp [quoted?, hpeek]

theorem Changes.quoted {es : List TopologyEvent} (hc : Changes t es u)
    (hcount : u.displayIds.count ≤ 2 ^ 64) :
    t.displayIds.count ≤ u.displayIds.count ∧ es.filterMap quoted? =
      (List.range' t.displayIds.count (u.displayIds.count - t.displayIds.count)).map .mk := by
  induction hc with
  | refl => simp
  | @tail v u _ _ hcs hc ih =>
    have hle := hc.displayIds_le
    obtain ⟨hle', hes⟩ := ih (Nat.le_trans hle hcount)
    refine ⟨Nat.le_trans hle' hle, ?_⟩
    rw [List.filterMap_append, hes, hc.quoted hcount, ← List.map_append]
    have hsplit : u.displayIds.count - t.displayIds.count =
        (v.displayIds.count - t.displayIds.count) + (u.displayIds.count - v.displayIds.count) := by
      omega
    rw [hsplit, ← List.range'_append_1]
    congr 3
    omega

end Topology

namespace Registry

variable {r : Registry} {ids : IdSource}

theorem displays_ensure (s : ScreenReport) {d : DisplayId} {v : Display}
    (hv : (r.ensure ids s).1.displays.get? d = some v) :
    r.displays.get? d = some v ∨ (d = ⟨ids.peek⟩ ∧ (r.ensure ids s).2.1 = ids.advance) := by
  unfold ensure at hv ⊢
  split at hv
  · exact .inl hv
  · rename_i hfree
    rw [if_neg hfree]
    simp only [create, Table.get?_insert_ite] at hv
    split at hv
    · rename_i hd
      exact .inr ⟨hd, rfl⟩
    · exact .inl hv

/-- A display that is there after an event was there before, or has the number that the event
quotes, or has the number that was drawn for it. -/
theorem displays_cases_follow (h : Orderly r) (e : TopologyEvent) {d : DisplayId} {v : Display}
    (hv : (r.follow ids e).1.displays.get? d = some v) :
    (∃ u, r.displays.get? d = some u) ∨ e.quoted? = some d ∨
      (d = ⟨ids.peek⟩ ∧ (r.follow ids e).2.1 = ids.advance) := by
  have hensure : ∀ s, (r.ensure ids s).1.displays.get? d = some v →
      (∃ u, r.displays.get? d = some u) ∨ e.quoted? = some d ∨
        (d = ⟨ids.peek⟩ ∧ (r.ensure ids s).2.1 = ids.advance) :=
    fun s hv => (displays_ensure s hv).imp (fun hold => ⟨v, hold⟩) .inr
  cases e with
  | connected s => exact .inl ⟨v, hv⟩
  | groupDissolved g => exact .inl ⟨v, hv⟩
  | disconnected x => exact .inl ⟨v, displays_remove x d hv⟩
  | changed s change => exact .inl (displays_refresh h s change d hv)
  | becameUnique s k =>
    simp only [follow, create, Table.get?_insert_ite] at hv
    split at hv
    · rename_i hd
      exact .inr (.inl (by rw [hd]; rfl))
    · exact .inl ⟨v, displays_remove s.id d hv⟩
  | joinedGroup s g =>
    cases hg : g.combination with
    | mirror =>
      simp only [follow, hg] at hv
      exact .inl ⟨v, displays_remove s.id d hv⟩
    | alone =>
      simp only [follow, hg] at hv ⊢
      exact hensure s hv
    | expand =>
      simp only [follow, hg] at hv ⊢
      exact hensure s hv
  | leftGroup s g reason =>
    simp only [follow] at hv ⊢
    split at hv
    · rename_i hdetached
      rw [if_pos hdetached]
      exact hensure s hv
    · exact .inl ⟨v, hv⟩

/-- Following an event in whatever order leaves the registry in order, as long as the number that
the event quotes is still free. -/
theorem orderly_follow_of_free (h : Orderly r) (e : TopologyEvent)
    (hdrawn : ∀ d v, r.displays.get? d = some v → d.val < ids.count)
    (hquoted : ∀ d, e.quoted? = some d → d.val < ids.count ∧ r.displays.get? d = none)
    (hcount : (r.follow ids e).2.1.count ≤ 2 ^ 64) : Orderly (r.follow ids e).1 := by
  cases he : e.quoted? with
  | none =>
    have hnumbered : Numbered ids.count ids.count ids r :=
      ⟨Nat.le_refl _, Nat.le_refl _, fun d v hv => .inl (hdrawn d v hv)⟩
    refine (orderly_follow h hnumbered hcount ?_).1
    rintro s d rfl
    cases he
  | some k =>
    obtain ⟨hlt, hfree⟩ := hquoted k he
    -- the displays are below the number quoted or above it
    have hnumbered : Numbered k.val (k.val + 1) ids r := by
      refine ⟨Nat.le_succ _, hlt, fun d v hv => ?_⟩
      have hne : d.val ≠ k.val := by
        intro hd
        obtain rfl : d = k := by cases d; cases k; exact congrArg DisplayId.mk hd
        rw [hfree] at hv
        cases hv
      have := hdrawn d v hv
      omega
    refine (orderly_follow h hnumbered hcount ?_).1
    rintro s d rfl
    exact ⟨Option.some.inj he, Nat.lt_succ_self _⟩

end Registry

namespace Traffic

open DisplayServer.Topology

variable {w : Traffic}

/-! ## What every interleaving keeps -/

/-- What events tell, when nothing was known before. -/
def ledger (es : List TopologyEvent) : Ledger :=
  es.foldl Ledger.record ⟨fun _ => False, [], fun _ => false⟩

/-- The numbers that pending events quote. -/
def quoted (w : Traffic) : List DisplayId := w.pending.flatten.filterMap quoted?

/-- The topology is as was reported. -/
structure Truthful (w : Traffic) : Prop where
  /-- The topology is sound. -/
  sound : Sound w.topology
  /-- What was reported fits the topology. -/
  tracks : Tracks (ledger w.reported) w.topology
  /-- No matter is open. -/
  settled : (ledger w.reported).unsettled = []

/-- The registry is in order, and the numbers of displays and those that pending events quote are
apart. -/
structure Apart (w : Traffic) : Prop where
  /-- The registry is in order. -/
  orderly : w.registry.Orderly
  /-- Numbers of displays have been drawn. -/
  drawn : ∀ d v, w.registry.displays.get? d = some v → d.val < w.topology.displayIds.count
  /-- So have the numbers that pending events quote. -/
  quoted_lt : ∀ d ∈ w.quoted, d.val < w.topology.displayIds.count
  /-- No display has one of those. -/
  free : ∀ d ∈ w.quoted, w.registry.displays.get? d = none
  /-- No number is quoted twice. -/
  nodup : w.quoted.Nodup

/-- What holds of topology and registry whatever the order of the deliveries. -/
structure Concurrent (w : Traffic) : Prop extends Truthful w, Apart w where
  /-- Bound are the screens that the events heard bind. -/
  bound : w.registry.bindings.contains = (ledger w.delivered).bound

theorem concurrent_start (capability : FoldCapability) : Concurrent (start capability) where
  sound := sound_empty
  tracks := by
    constructor
    · exact fun x hx => hx.elim
    · intro x g hg
      cases hg
    · intro x s hs
      cases hs
    · exact fun x _ => iff_of_false Bool.false_ne_true (not_shows_of_dead rfl)
  settled := rfl
  orderly := Registry.orderly_empty capability
  bound := rfl
  drawn := by intro d v h; cases h
  quoted_lt := by intro d h; cases h
  free := by intro d h; cases h
  nodup := .nil

/-- What a call reports closes what it opens. -/
theorem truthful_call (h : Truthful w) (c : Topology.Command)
    (hscreens : (w.call c).topology.screenIds.count ≤ 2 ^ 64) : Truthful (w.call c) := by
  have hchanges := changes_outcome h.sound c hscreens
  have hledger : ledger (w.call c).reported =
      (c.outcome w.topology).events.foldl Ledger.record (ledger w.reported) :=
    List.foldl_append
  refine ⟨sound_changes hchanges h.sound, ?_, ?_⟩
  · rw [hledger]
    exact tracks_changes hchanges h.sound hscreens h.tracks
  · rw [hledger, Ledger.unsettled_foldl, h.settled]
    exact (accounted_outcome h.sound c hscreens).settled

/-- The registry draws numbers from the topology and changes nothing else of it. -/
theorem truthful_hear (h : Truthful w) (e : TopologyEvent) (pending : List (List TopologyEvent)) :
    Truthful (w.hear e pending) where
  sound := sound_congr h.sound rfl (Nat.le_refl _) rfl rfl
  tracks := tracks_none h.tracks (Nat.le_refl _) (fun _ => rfl) (fun _ => rfl) (fun _ => Iff.rfl)
    rfl rfl
  settled := h.settled

/-- A call draws the numbers that it quotes, so they are new. -/
theorem apart_call (h : Apart w) (hsound : Sound w.topology) (c : Topology.Command)
    (hscreens : (w.call c).topology.screenIds.count ≤ 2 ^ 64)
    (hdisplays : (w.call c).topology.displayIds.count ≤ 2 ^ 64) : Apart (w.call c) := by
  obtain ⟨hle, hes⟩ := (changes_outcome hsound c hscreens).quoted hdisplays
  have hquoted : (w.call c).quoted =
      w.quoted ++ (c.outcome w.topology).events.filterMap quoted? := by
    show (w.pending ++ [_]).flatten.filterMap quoted? = _
    rw [List.flatten_append, List.flatten_singleton, List.filterMap_append]
    rfl
  have hnew : ∀ d ∈ (c.outcome w.topology).events.filterMap quoted?,
      w.topology.displayIds.count ≤ d.val ∧ d.val < (w.call c).topology.displayIds.count := by
    intro d hd
    rw [hes, List.mem_map] at hd
    obtain ⟨n, hn, rfl⟩ := hd
    rw [List.mem_range'_1] at hn
    show _ ≤ n ∧ n < (c.outcome w.topology).topology.displayIds.count
    omega
  exact {
    orderly := h.orderly
    drawn := fun d v hv => Nat.lt_of_lt_of_le (h.drawn d v hv) hle
    quoted_lt := by
      intro d hd
      rw [hquoted, List.mem_append] at hd
      rcases hd with hd | hd
      · exact Nat.lt_of_lt_of_le (h.quoted_lt d hd) hle
      · exact (hnew d hd).2
    free := by
      intro d hd
      rw [hquoted, List.mem_append] at hd
      rcases hd with hd | hd
      · exact h.free d hd
      · refine Option.eq_none_iff_forall_ne_some.mpr fun v hv => ?_
        exact absurd (h.drawn d v hv) (Nat.not_lt.mpr (hnew d hd).1)
    nodup := by
      rw [hquoted, List.nodup_append]
      refine ⟨h.nodup, ?_, fun d hd d' hd' he => ?_⟩
      · rw [hes]
        exact List.Nodup.map (fun a b he => DisplayId.mk.inj he) List.nodup_range'
      · subst he
        exact absurd (h.quoted_lt d hd) (Nat.not_lt.mpr (hnew d hd').1) }

/-- After an event, a display was there before, or has the number quoted, or has the one that was
drawn for it. -/
theorem displays_cases_hear (h : w.registry.Orderly) {e : TopologyEvent}
    {pending : List (List TopologyEvent)}
    (hdisplays : (w.hear e pending).topology.displayIds.count ≤ 2 ^ 64) {d : DisplayId}
    {v : Display} (hv : (w.hear e pending).registry.displays.get? d = some v) :
    (∃ u, w.registry.displays.get? d = some u) ∨ e.quoted? = some d ∨
      (d.val = w.topology.displayIds.count ∧
        d.val < (w.hear e pending).topology.displayIds.count) := by
  refine (Registry.displays_cases_follow h e hv).imp_right (.imp_right ?_)
  rintro ⟨rfl, hadvance⟩
  have hadvance : (w.hear e pending).topology.displayIds = w.topology.displayIds.advance :=
    hadvance
  rw [hadvance, IdSource.count_advance] at hdisplays ⊢
  have hpeek : w.topology.displayIds.peek = w.topology.displayIds.count :=
    IdSource.peek_of_lt hdisplays
  exact ⟨hpeek, Nat.lt_succ_of_le (Nat.le_of_eq hpeek)⟩

/-- The registry may hear any event that is pending. -/
theorem apart_hear (h : Apart w) {e : TopologyEvent} {pending : List (List TopologyEvent)}
    (hperm : w.pending.flatten.Perm (e :: pending.flatten))
    (hdisplays : (w.hear e pending).topology.displayIds.count ≤ 2 ^ 64) :
    Apart (w.hear e pending) := by
  have hcount := Registry.count_follow w.registry w.topology.displayIds e
  have hquoted : w.quoted.Perm ((e :: pending.flatten).filterMap quoted?) :=
    hperm.filterMap quoted?
  have hnodup := hquoted.nodup_iff.mp h.nodup
  have hsublist := (List.sublist_cons_self e pending.flatten).filterMap quoted?
  have hheard : ∀ d, e.quoted? = some d → d ∈ w.quoted := by
    intro d he
    rw [hquoted.mem_iff, List.filterMap_cons_some he]
    exact List.mem_cons_self
  have hleft : ∀ d ∈ (w.hear e pending).quoted, d ∈ w.quoted ∧ e.quoted? ≠ some d := by
    intro d hd
    refine ⟨hquoted.mem_iff.mpr (hsublist.subset hd), fun he => ?_⟩
    rw [List.filterMap_cons_some he, List.nodup_cons] at hnodup
    exact hnodup.1 hd
  exact {
    orderly := Registry.orderly_follow_of_free h.orderly e h.drawn
      (fun d he => ⟨h.quoted_lt d (hheard d he), h.free d (hheard d he)⟩) hdisplays
    drawn := by
      intro d v hv
      obtain ⟨u, hu⟩ | he | ⟨-, hlt⟩ := displays_cases_hear h.orderly hdisplays hv
      · exact Nat.lt_of_lt_of_le (h.drawn d u hu) hcount
      · exact Nat.lt_of_lt_of_le (h.quoted_lt d (hheard d he)) hcount
      · exact hlt
    quoted_lt := fun d hd => Nat.lt_of_lt_of_le (h.quoted_lt d (hleft d hd).1) hcount
    free := by
      intro d hd
      obtain ⟨hd, hne⟩ := hleft d hd
      refine Option.eq_none_iff_forall_ne_some.mpr fun v hv => ?_
      obtain ⟨u, hu⟩ | he | ⟨hnew, -⟩ := displays_cases_hear h.orderly hdisplays hv
      · rw [h.free d hd] at hu
        cases hu
      · exact hne he
      · exact absurd (h.quoted_lt d hd) (Nat.not_lt.mpr (Nat.le_of_eq hnew.symm))
    nodup := hnodup.sublist hsublist }

/-- Sources of numbers go forward. -/
theorem counts_step (w : Traffic) (a : Action) :
    w.topology.screenIds.count ≤ (w.step a).topology.screenIds.count ∧
      w.topology.displayIds.count ≤ (w.step a).topology.displayIds.count := by
  refine step_induction (P := fun v => w.topology.screenIds.count ≤ v.topology.screenIds.count ∧
      w.topology.displayIds.count ≤ v.topology.displayIds.count)
    ⟨Nat.le_refl _, Nat.le_refl _⟩ (fun c => ?_) fun k e earlier rest later _ _ _ _ => ?_
  · exact ⟨(writes_outcome c w.topology).screenIds_le, (writes_outcome c w.topology).displayIds_le⟩
  · exact ⟨Nat.le_refl _, Registry.count_follow _ _ _⟩

theorem counts_after (w : Traffic) (schedule : List Action) :
    w.topology.screenIds.count ≤ (w.after schedule).topology.screenIds.count ∧
      w.topology.displayIds.count ≤ (w.after schedule).topology.displayIds.count :=
  ⟨measure_le_foldl (m := fun v => v.topology.screenIds.count)
      (fun v a => (counts_step v a).1) w schedule,
    measure_le_foldl (m := fun v => v.topology.displayIds.count)
      (fun v a => (counts_step v a).2) w schedule⟩

theorem concurrent_step (h : Concurrent w) (a : Action)
    (hscreens : (w.step a).topology.screenIds.count ≤ 2 ^ 64)
    (hdisplays : (w.step a).topology.displayIds.count ≤ 2 ^ 64) : Concurrent (w.step a) := by
  refine step_induction (P := fun v => v.topology.screenIds.count ≤ 2 ^ 64 →
      v.topology.displayIds.count ≤ 2 ^ 64 → Concurrent v) (fun _ _ => h)
    (fun c hscreens hdisplays => ?_)
    (fun k e earlier rest later _ _ hpending _ _ hdisplays => ?_) hscreens hdisplays
  · exact ⟨truthful_call h.toTruthful c hscreens,
      apart_call h.toApart h.sound c hscreens hdisplays, h.bound⟩
  · have hperm : w.pending.flatten.Perm (e :: (earlier ++ rest :: later).flatten) := by
      rw [hpending]
      exact perm_flatten earlier later e rest
    refine ⟨truthful_hear h.toTruthful e _, apart_hear h.toApart hperm hdisplays, ?_⟩
    show (w.registry.follow w.topology.displayIds e).1.bindings.contains =
      (ledger (w.delivered ++ [e])).bound
    rw [Registry.contains_follow, h.bound, ledger, ledger, List.foldl_append]
    rfl

/-- **Every interleaving keeps topology and registry in order.** -/
theorem concurrent_after (h : Concurrent w) (schedule : List Action)
    (hscreens : (w.after schedule).topology.screenIds.count ≤ 2 ^ 64)
    (hdisplays : (w.after schedule).topology.displayIds.count ≤ 2 ^ 64) :
    Concurrent (w.after schedule) := by
  induction schedule generalizing w with
  | nil => exact h
  | cons a rest ih =>
    -- the bounds on what the whole schedule leads to bound what its first step leads to
    obtain ⟨hscreens', hdisplays'⟩ := counts_after (w.step a) rest
    exact ih (concurrent_step h a (Nat.le_trans hscreens' hscreens)
      (Nat.le_trans hdisplays' hdisplays)) hscreens hdisplays

end Traffic

end DisplayServer
