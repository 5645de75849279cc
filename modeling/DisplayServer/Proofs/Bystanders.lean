import DisplayServer.Proofs.DisplaysCurrent

/-!
# Screens of which nothing is told keep their displays

The registry writes of the screen that an event is about, and of no other. So a screen that none
of the events of an operation is about stays bound as it was, and its display stays as it was, to
the last field (`Registry.displayOf?_followAll`).

That the displays of other screens are left alone is a matter of order: removing a display means
erasing the number that a screen is bound to, and two screens that were bound to one number would
lose it together. Following is therefore looked at from its end. If the registry is in order
there, a screen that is still bound has a display that names it, and such a display is not one
that was made on the way.
-/

namespace DisplayServer

open TopologyEvent

/-- The screen that an event is about. -/
def TopologyEvent.concerns? : TopologyEvent → Option ScreenId
  | connected screen => some screen.id
  | joinedGroup screen _ => some screen.id
  | leftGroup screen _ _ => some screen.id
  | changed screen _ => some screen.id
  | becameUnique screen _ => some screen.id
  | disconnected screen => some screen
  | groupDissolved _ => none

/-- What is reported when a screen leaves its group is about that screen. -/
theorem TopologyEvent.concerns?_of_departure {x y : ScreenId} {reason : LeaveReason}
    {es : List TopologyEvent} (h : Departure x reason es) {e : TopologyEvent} (he : e ∈ es)
    (hy : e.concerns? = some y) : y = x := by
  obtain rfl | ⟨s, g, rfl, rfl | ⟨k, rfl⟩⟩ := h
  · cases he
  · obtain rfl := List.mem_singleton.mp he
    exact (Option.some.inj hy).symm
  · rcases List.mem_cons.mp he with rfl | he
    · exact (Option.some.inj hy).symm
    · obtain rfl := List.mem_singleton.mp he
      cases hy

namespace Registry

variable {r : Registry} {ids : IdSource} {x y : ScreenId}

theorem bindings_remove_of_ne (r : Registry) (h : x ≠ y) :
    (r.remove x).1.bindings.get? y = r.bindings.get? y := by
  unfold remove
  cases r.bindings.get? x with
  | none => rfl
  | some d => exact Table.get?_erase_of_ne _ h

theorem bindings_create_of_ne (r : Registry) (d : DisplayId) {q : ScreenReport} (h : q.id ≠ y) :
    (r.create d q).1.bindings.get? y = r.bindings.get? y :=
  Table.get?_insert_of_ne _ _ h

theorem bindings_ensure_of_ne (r : Registry) (ids : IdSource) {q : ScreenReport} (h : q.id ≠ y) :
    (r.ensure ids q).1.bindings.get? y = r.bindings.get? y := by
  unfold ensure
  split
  · rfl
  · exact bindings_create_of_ne r _ h

theorem bindings_refresh (r : Registry) (q : ScreenReport) (change : ScreenChange) :
    (r.refresh q change).1.bindings = r.bindings := by
  unfold refresh
  cases r.displayOf? q.id <;> rfl

/-- An event leaves every screen bound as it was that it is not about. -/
theorem bindings_follow (r : Registry) (ids : IdSource) {e : TopologyEvent}
    (he : e.concerns? ≠ some y) : (r.follow ids e).1.bindings.get? y = r.bindings.get? y := by
  cases e with
  | connected q => rfl
  | groupDissolved g => rfl
  | disconnected x => exact bindings_remove_of_ne r fun hx => he (congrArg some hx)
  | changed q change => exact congrArg (Table.get? · y) (bindings_refresh r q change)
  | becameUnique q d =>
    have hne : q.id ≠ y := fun hx => he (congrArg some hx)
    exact (bindings_create_of_ne _ d hne).trans (bindings_remove_of_ne r hne)
  | joinedGroup q g =>
    have hne : q.id ≠ y := fun hx => he (congrArg some hx)
    cases hg : g.combination with
    | mirror =>
      simp only [follow, hg]
      exact bindings_remove_of_ne r hne
    | alone =>
      simp only [follow, hg]
      exact bindings_ensure_of_ne r ids hne
    | expand =>
      simp only [follow, hg]
      exact bindings_ensure_of_ne r ids hne
  | leftGroup q g reason =>
    simp only [follow]
    split
    · exact bindings_ensure_of_ne r ids fun hx => he (congrArg some hx)
    · rfl

theorem bindings_followAll (r : Registry) (ids : IdSource) {es : List TopologyEvent}
    (hes : ∀ e ∈ es, e.concerns? ≠ some y) :
    (r.followAll ids es).1.bindings.get? y = r.bindings.get? y := by
  induction es generalizing r ids with
  | nil => rfl
  | cons e rest ih =>
    obtain ⟨he, hrest⟩ := List.forall_mem_cons.mp hes
    exact (ih _ _ hrest).trans (bindings_follow r ids he)

/-- A display of a screen that no event is about was there before. -/
theorem displays_of_followAll {es : List TopologyEvent} {d : DisplayId} {v : Display}
    (hv : (r.followAll ids es).1.displays.get? d = some v)
    (hes : ∀ e ∈ es, e.concerns? ≠ some v.screen) : r.displays.get? d = some v := by
  obtain hold | ⟨e, he, q, hq, hmade, -⟩ := kept_or_made_followAll hv
  · exact hold
  · -- a display made on the way names a screen that some event is about
    refine absurd ?_ (hes e he)
    rw [hmade]
    cases e <;> cases hq <;> rfl

/-- The display to which such a screen is bound stays as it is. -/
theorem displays_followAll {es : List TopologyEvent} (h : Orderly (r.followAll ids es).1)
    (hes : ∀ e ∈ es, e.concerns? ≠ some y) {d : DisplayId} (hd : r.bindings.get? y = some d) :
    (r.followAll ids es).1.displays.get? d = r.displays.get? d := by
  obtain ⟨v, hv, rfl⟩ := (h.bound y d).mp ((bindings_followAll r ids hes).trans hd)
  exact hv.trans (displays_of_followAll hv hes).symm

/-- **A screen that no event is about keeps its display as it is.** -/
theorem displayOf?_followAll {es : List TopologyEvent} (h : Orderly (r.followAll ids es).1)
    (hes : ∀ e ∈ es, e.concerns? ≠ some y) :
    (r.followAll ids es).1.displayOf? y = r.displayOf? y := by
  unfold displayOf?
  rw [bindings_followAll r ids hes]
  cases hd : r.bindings.get? y with
  | none => rfl
  | some d => exact displays_followAll h hes hd

end Registry

end DisplayServer
