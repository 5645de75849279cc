import DisplayServer.Proofs.Bindings
import DisplayServer.Proofs.Change
import DisplayServer.Proofs.ServiceRuns

/-!
# The registry after a whole operation

An operation of the topology is carried out before the registry follows its events. By then the
topology has drawn all numbers that it draws for the operation, so the numbers that the registry
draws while it follows are later ones, and the numbers quoted by events not yet followed are
still free. `orderly_changes` says so for any sequence of changes.

Steps that clients ask for touch display records only, and bind and unbind nothing (`Touches`).
-/

namespace DisplayServer

open TopologyEvent

namespace Topology

variable {t u : Topology}

/-- A change draws a display number for the screen that becomes unique, and none otherwise. -/
theorem Change.draws {es : List TopologyEvent} (hc : Change t es u) :
    (u.displayIds = t.displayIds ∧ ∀ e ∈ es, e.drawn = 0) ∨
      ∃ s, es = [.becameUnique s ⟨t.displayIds.peek⟩] ∧ u.displayIds = t.displayIds.advance := by
  cases hc with
  | single s turn hs hp => exact .inr ⟨_, rfl, rfl⟩
  | _ => exact .inl ⟨rfl, by simp [drawn]⟩

theorem Change.displayIds_le {es : List TopologyEvent} (hc : Change t es u) :
    t.displayIds.count ≤ u.displayIds.count := by
  obtain ⟨hids, -⟩ | ⟨-, -, hids⟩ := hc.draws
  · exact Nat.le_of_eq (by rw [hids])
  · rw [hids]
    exact Nat.le_succ _

end Topology

namespace Registry

open DisplayServer.Topology

variable {r : Registry} {low high : Nat} {ids : IdSource}

theorem followAll_append (r : Registry) (ids : IdSource) (es fs : List TopologyEvent) :
    r.followAll ids (es ++ fs) =
      (((r.followAll ids es).1.followAll (r.followAll ids es).2.1 fs).1,
        ((r.followAll ids es).1.followAll (r.followAll ids es).2.1 fs).2.1,
        (r.followAll ids es).2.2 ++
          ((r.followAll ids es).1.followAll (r.followAll ids es).2.1 fs).2.2) := by
  induction es generalizing r ids with
  | nil => rfl
  | cons e rest ih =>
    simp only [List.cons_append, followAll, ih, List.append_assoc]

theorem contains_followAll (r : Registry) (ids : IdSource) (es : List TopologyEvent) :
    (r.followAll ids es).1.bindings.contains = es.foldl rebind r.bindings.contains := by
  induction es generalizing r ids with
  | nil => rfl
  | cons e rest ih =>
    simp only [followAll, List.foldl_cons, ih]
    rw [contains_follow]

theorem count_ensure (r : Registry) (ids : IdSource) (s : ScreenReport) :
    ids.count ≤ (r.ensure ids s).2.1.count := by
  unfold ensure
  split
  · exact Nat.le_refl _
  · exact Nat.le_succ _

theorem count_follow (r : Registry) (ids : IdSource) (e : TopologyEvent) :
    ids.count ≤ (r.follow ids e).2.1.count := by
  cases e with
  | joinedGroup s g =>
    simp only [follow]
    split
    · exact Nat.le_refl _
    · exact count_ensure r ids s
    · exact count_ensure r ids s
  | leftGroup s g reason =>
    simp only [follow]
    split
    · exact count_ensure r ids s
    · exact Nat.le_refl _
  | _ => exact Nat.le_refl _

theorem count_followAll (r : Registry) (ids : IdSource) (es : List TopologyEvent) :
    ids.count ≤ (r.followAll ids es).2.1.count := by
  induction es generalizing r ids with
  | nil => exact Nat.le_refl _
  | cons e rest ih => exact Nat.le_trans (count_follow r ids e) (ih _ _)

/-! ## Laws of following

A law `P low ids news r` says how registry and numbers stand while the events of an operation are
followed: the topology has drawn the numbers below `low` for the events followed so far, the
source stands at `ids`, and the registry has told `news`. What every event keeps, every operation
keeps.
-/

section Law

variable {P : Nat → IdSource → List AgentEvent → Registry → Prop}
  (hsource : ∀ {low ids news r}, P low ids news r → high ≤ ids.count)
  (hstep : ∀ {low ids news r} {e : TopologyEvent}, P low ids news r →
    (r.follow ids e).2.1.count ≤ 2 ^ 64 →
    (∀ s d, e = .becameUnique s d → d = ⟨low⟩ ∧ low < high) →
    P (low + e.drawn) (r.follow ids e).2.1 (news ++ (r.follow ids e).2.2) (r.follow ids e).1)

include hstep

/-- Events for which the topology drew no number leave `low` where it is. -/
theorem law_followAll {es : List TopologyEvent} {news : List AgentEvent}
    (hes : ∀ e ∈ es, e.drawn = 0) (h : P low ids news r)
    (hcount : (r.followAll ids es).2.1.count ≤ 2 ^ 64) :
    P low (r.followAll ids es).2.1 (news ++ (r.followAll ids es).2.2)
      (r.followAll ids es).1 := by
  induction es generalizing r ids news with
  | nil => exact (List.append_nil news).symm ▸ h
  | cons e rest ih =>
    obtain ⟨he, hrest⟩ := List.forall_mem_cons.mp hes
    have hcount' := Nat.le_trans (count_followAll (r.follow ids e).1 (r.follow ids e).2.1 rest)
      hcount
    have h' := hstep h hcount' fun s d heq => by
      rw [heq] at he
      cases he
    rw [he, Nat.add_zero] at h'
    have hlater := ih hrest h' hcount
    rw [List.append_assoc] at hlater
    exact hlater

include hsource

/-- The registry follows a change. -/
theorem law_change {t u : Topology} {es : List TopologyEvent} {news : List AgentEvent}
    (hc : Change t es u) (h : P t.displayIds.count ids news r)
    (hhigh : u.displayIds.count ≤ high) (hcount : (r.followAll ids es).2.1.count ≤ 2 ^ 64) :
    P u.displayIds.count (r.followAll ids es).2.1 (news ++ (r.followAll ids es).2.2)
      (r.followAll ids es).1 := by
  obtain ⟨hids, hes⟩ | ⟨s, rfl, hids⟩ := hc.draws
  · rw [hids]
    exact law_followAll (P := P) hstep hes h hcount
  · rw [hids, IdSource.count_advance] at hhigh ⊢
    have hlast : ids.count ≤ 2 ^ 64 :=
      Nat.le_trans (count_followAll r ids [.becameUnique s ⟨t.displayIds.peek⟩]) hcount
    -- the number quoted is the one that the topology drew for the event
    have hpeek : t.displayIds.peek = t.displayIds.count :=
      IdSource.peek_of_lt (by have := hsource h; omega)
    have hfollowed := hstep (e := .becameUnique s ⟨t.displayIds.peek⟩) h hcount <| by
      intro s' d heq
      cases heq
      exact ⟨by rw [hpeek], hhigh⟩
    simp only [followAll, List.append_nil]
    exact hfollowed

/-- The registry follows several changes. -/
theorem law_changes {t u : Topology} {es : List TopologyEvent} (hc : Changes t es u)
    (news : List AgentEvent) (h : P t.displayIds.count ids news r)
    (hhigh : u.displayIds.count ≤ high) (hcount : (r.followAll ids es).2.1.count ≤ 2 ^ 64) :
    P u.displayIds.count (r.followAll ids es).2.1 (news ++ (r.followAll ids es).2.2)
      (r.followAll ids es).1 := by
  induction hc with
  | refl => exact (List.append_nil news).symm ▸ h
  | tail _ hc ih =>
    rw [followAll_append] at hcount ⊢
    have h' := ih (Nat.le_trans hc.displayIds_le hhigh)
      (Nat.le_trans (count_followAll _ _ _) hcount)
    have hlater := law_change (P := P) hsource hstep hc h' hhigh hcount
    rw [List.append_assoc] at hlater
    exact hlater

end Law

/-- The registry stays in order while it follows an operation. -/
theorem orderly_changes {t u : Topology} {es : List TopologyEvent} (hc : Changes t es u)
    (h : Orderly r) (hn : Numbered t.displayIds.count high ids r)
    (hhigh : u.displayIds.count ≤ high)
    (hcount : (r.followAll ids es).2.1.count ≤ 2 ^ 64) :
    Orderly (r.followAll ids es).1 ∧
      Numbered u.displayIds.count high (r.followAll ids es).2.1 (r.followAll ids es).1 :=
  law_changes (P := fun low ids _ r => Orderly r ∧ Numbered low high ids r)
    (fun h => h.2.high_le) (fun h hcount hunique => orderly_follow h.1 h.2 hcount hunique) hc []
    ⟨h, hn⟩ hhigh hcount

/-! ## Steps that leave the bindings alone -/

/-- A step that binds nothing, unbinds nothing and, in an orderly registry, makes no display. -/
structure Touches (r r' : Registry) : Prop where
  /-- The registry stays in order. -/
  orderly : Orderly r → Orderly r'
  /-- The bindings stay. -/
  bindings : r'.bindings = r.bindings
  /-- A display that is there was there before. -/
  old : Orderly r → ∀ d v, r'.displays.get? d = some v → ∃ u, r.displays.get? d = some u

theorem Touches.refl (r : Registry) : Touches r r := ⟨id, rfl, fun _ _ v hv => ⟨v, hv⟩⟩

theorem touches_updateDisplay (r : Registry) (x : ScreenId) {f : Display → Display}
    (hid : ∀ v, (f v).id = v.id) (hscreen : ∀ v, (f v).screen = v.screen)
    (hstate : ∀ v, (f v).state = v.state) (announce : Display → AgentEvent) :
    Touches r (r.updateDisplay x f announce).registry := by
  refine ⟨fun h => orderly_updateDisplay h x hid hscreen hstate announce, ?_, fun h d v hv => ?_⟩
  · unfold updateDisplay
    cases r.displayOf? x <;> rfl
  · unfold updateDisplay at hv
    cases hw : r.displayOf? x with
    | none =>
      rw [hw] at hv
      exact ⟨v, hv⟩
    | some w =>
      rw [hw] at hv
      simp only [Table.get?_insert_ite, hid] at hv
      split at hv
      · rename_i hd
        exact ⟨w, hd ▸ (h.displayOf? hw).1⟩
      · exact ⟨v, hv⟩

theorem touches_setAvailableArea (r : Registry) (x : ScreenId) (area : Rect) :
    Touches r (r.setAvailableArea x area).registry := by
  unfold setAvailableArea
  refine touches_updateDisplay r x ?_ ?_ ?_ _ <;> exact fun _ => rfl

theorem touches_overrideRotation (r : Registry) (x : ScreenId) (rotation : Rotation)
    (width height : Nat) : Touches r (r.overrideRotation x rotation width height).registry := by
  unfold overrideRotation
  refine touches_updateDisplay r x ?_ ?_ ?_ _ <;> exact fun _ => rfl

theorem touches_setState (r : Registry) (state : DisplayState) :
    Touches r (r.setState state).registry := by
  refine ⟨fun h => orderly_setState h state, ?_, fun _ d v hv => ?_⟩
  · unfold setState
    split <;> rfl
  · unfold setState at hv
    split at hv
    · exact ⟨v, hv⟩
    · simp only [Table.get?_map, Option.map_eq_some_iff] at hv
      obtain ⟨u, hu, -⟩ := hv
      exact ⟨u, hu⟩

theorem touches_fold (r : Registry) (step : Posture → Posture × List AgentEvent) :
    Touches r (r.fold step).registry := by
  unfold fold
  split
  · exact ⟨fun h => ⟨h.id, h.bound, h.state, h.default, h.defaulted⟩, rfl, fun _ _ v hv => ⟨v, hv⟩⟩
  · exact Touches.refl r

theorem touches_forceFoldMode (r : Registry) (mode : FoldDisplayMode) :
    Touches r (r.forceFoldMode mode).registry := by
  unfold forceFoldMode
  split
  · cases mode.impliedStatus with
    | none => exact Touches.refl r
    | some implied => exact touches_fold r fun p => p.force mode implied
  · exact Touches.refl r

end Registry

end DisplayServer
