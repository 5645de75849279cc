import DisplayServer.Proofs.Lookup
import DisplayServer.Registry
import Mathlib.Algebra.Group.Nat.Defs

/-!
# Displays and the screens they are bound to

The registry stores the link between displays and screens twice: a display names its screen, and
an index leads from screens to displays. `Orderly` says that the two agree, that there is a live
default display as soon as there is a display, and that every display is in the registry's
state.

A new display needs a number that no display has. Two parties draw numbers from one source: an
operation of the topology, for the screens that it makes unique, and after it the registry, which
follows the operation's events. `Numbered low high ids` is how things stand in between: displays
have numbers below `low`, which the events followed so far had drawn, or from `high` on, which
the registry has drawn since the operation ended; `ids` is where the source stands.

Which screens are bound after an event depends on the event and on which were bound before, and
on nothing else (`contains_follow`).
-/

namespace DisplayServer

/-- The screen that an event binds to a display, or unbinds. -/
def TopologyEvent.binds? : TopologyEvent → Option (ScreenId × Bool)
  | joinedGroup screen group => some (screen.id, group.combination ≠ .mirror)
  | leftGroup screen group reason =>
    if reason = .detached ∧ group.combination = .mirror then some (screen.id, true) else none
  | disconnected screen => some (screen, false)
  | becameUnique screen _ => some (screen.id, true)
  | connected _ => none
  | changed _ _ => none
  | groupDissolved _ => none

/-- The bound screens after an event. -/
def TopologyEvent.rebind (bound : ScreenId → Bool) (e : TopologyEvent) : ScreenId → Bool :=
  fun y =>
    match e.binds? with
    | some (x, b) => if y = x then b else bound y
    | none => bound y

/-- How many display numbers the topology drew for the event. -/
def TopologyEvent.drawn : TopologyEvent → Nat
  | becameUnique _ _ => 1
  | _ => 0

namespace Registry

variable {r : Registry}

/-! ## Order -/

/-- Displays and bindings agree, and default display and states are as they should be. -/
structure Orderly (r : Registry) : Prop where
  /-- A display stands under its own number. -/
  id : ∀ d v, r.displays.get? d = some v → v.id = d
  /-- A screen is bound to the displays that name it. -/
  bound : ∀ x d, r.bindings.get? x = some d ↔ ∃ v, r.displays.get? d = some v ∧ v.screen = x
  /-- All displays are in one state. -/
  state : ∀ d v, r.displays.get? d = some v → v.state = r.state
  /-- The default display is live. -/
  default : ∀ d, r.defaultDisplay = some d → ∃ v, r.displays.get? d = some v
  /-- Where there is a display, one is the default. -/
  defaulted : ∀ d v, r.displays.get? d = some v → r.defaultDisplay ≠ none

theorem orderly_empty (capability : FoldCapability) : Orderly (empty capability) where
  id := by intro d v h; simp [empty] at h
  bound := by intro x d; simp [empty]
  state := by intro d v h; simp [empty] at h
  default := by intro d h; simp [empty] at h
  defaulted := by intro d v h; simp [empty] at h

/-- An orderly registry has at most one display for a screen. -/
theorem Orderly.display_unique (h : Orderly r) {d d' : DisplayId} {v v' : Display}
    (hd : r.displays.get? d = some v) (hd' : r.displays.get? d' = some v')
    (hscreen : v.screen = v'.screen) : d = d' := by
  have hb := (h.bound v'.screen d).mpr ⟨v, hd, hscreen⟩
  rw [(h.bound v'.screen d').mpr ⟨v', hd', rfl⟩] at hb
  exact (Option.some.inj hb).symm

theorem Orderly.displayOf? (h : Orderly r) {x : ScreenId} {v : Display}
    (hv : r.displayOf? x = some v) : r.displays.get? v.id = some v ∧ v.screen = x := by
  obtain ⟨d, hd, hget⟩ := Option.bind_eq_some_iff.mp hv
  obtain ⟨w, hw, hscreen⟩ := (h.bound x d).mp hd
  have hget : r.displays.get? d = some v := hget
  rw [hget] at hw
  rw [h.id d v hget, Option.some.inj hw]
  exact ⟨hget.trans hw, hscreen⟩

theorem orderly_create (h : Orderly r) {k : DisplayId} (hfresh : r.displays.get? k = none)
    {s : ScreenReport} (hfree : r.bindings.get? s.id = none) : Orderly (r.create k s).1 := by
  have hold : ∀ {d v}, d ≠ k → (r.create k s).1.displays.get? d = some v →
      r.displays.get? d = some v := by
    intro d v hd hv
    simp only [create, Table.get?_insert_ite, if_neg hd] at hv
    exact hv
  have hnew : ∀ {v}, (r.create k s).1.displays.get? k = some v →
      v.id = k ∧ v.screen = s.id ∧ v.state = r.state := by
    intro v hv
    simp only [create, Table.get?_insert_self] at hv
    rw [← Option.some.inj hv]
    simp only [Display.ofScreen, and_self]
  exact {
    id := by
      intro d v hv
      by_cases hd : d = k
      · subst hd
        exact (hnew hv).1
      · exact h.id d v (hold hd hv)
    bound := by
      intro x d
      simp only [create, Table.get?_insert_ite]
      by_cases hx : x = s.id
      · subst hx
        rw [if_pos rfl]
        by_cases hd : d = k
        · rw [if_pos hd, hd]
          simp only [Display.ofScreen, Option.some.injEq, true_iff]
          exact ⟨_, rfl, rfl⟩
        · rw [if_neg hd]
          -- another display of the screen would have been bound to it
          refine iff_of_false (fun he => hd (Option.some.inj he).symm) fun hv => ?_
          rw [(h.bound s.id d).mpr hv] at hfree
          cases hfree
      · rw [if_neg hx]
        by_cases hd : d = k
        · -- the number was free, and its new owner names another screen
          rw [if_pos hd, hd]
          refine iff_of_false (fun hb => ?_) ?_
          · obtain ⟨v, hv, -⟩ := (h.bound x k).mp hb
            rw [hfresh] at hv
            cases hv
          · rintro ⟨v, hv, hscreen⟩
            rw [← Option.some.inj hv] at hscreen
            simp only [Display.ofScreen] at hscreen
            exact hx hscreen.symm
        · rw [if_neg hd]
          exact h.bound x d
    state := by
      intro d v hv
      by_cases hd : d = k
      · subst hd
        exact (hnew hv).2.2
      · exact h.state d v (hold hd hv)
    default := by
      intro d hd
      simp only [create] at hd ⊢
      rw [Table.get?_insert_ite]
      split
      · exact ⟨_, rfl⟩
      · -- the default is another display, so it is the one that there was
        rename_i hne
        split at hd
        · exact absurd (Option.some.inj hd).symm hne
        · exact h.default d hd
    defaulted := by
      intro d v _
      simp only [create]
      split
      · exact Option.some_ne_none k
      · rename_i hsome
        exact fun hnone => hsome (by rw [hnone]; rfl) }

theorem orderly_remove (h : Orderly r) (x : ScreenId) : Orderly (r.remove x).1 := by
  unfold remove
  cases hk : r.bindings.get? x with
  | none => exact h
  | some k =>
    have hold : ∀ {d v}, (r.displays.erase k).get? d = some v →
        d ≠ k ∧ r.displays.get? d = some v := by
      intro d v hv
      rw [Table.get?_erase_ite] at hv
      split at hv
      · cases hv
      · exact ⟨by assumption, hv⟩
    exact {
      id := by
        exact fun d v hv => h.id d v (hold hv).2
      bound := by
        intro y d
        simp only [Table.get?_erase_ite]
        by_cases hy : y = x
        · subst hy
          -- nothing names the screen any more: only the display that goes did
          rw [if_pos rfl]
          refine iff_of_false (fun he => by cases he) ?_
          rintro ⟨v, hv, hscreen⟩
          split at hv
          · cases hv
          · rename_i hd
            have hb := (h.bound y d).mpr ⟨v, hv, hscreen⟩
            rw [hk] at hb
            exact hd (Option.some.inj hb).symm
        · rw [if_neg hy]
          by_cases hd : d = k
          · rw [if_pos hd, hd]
            refine iff_of_false (fun hb => ?_) fun ⟨v, hv, _⟩ => by cases hv
            -- the display that goes names one screen only
            obtain ⟨v, hv, hscreen⟩ := (h.bound y k).mp hb
            obtain ⟨w, hw, hscreen'⟩ := (h.bound x k).mp hk
            rw [hv] at hw
            exact hy (by rw [← hscreen, ← hscreen', Option.some.inj hw])
          · rw [if_neg hd]
            exact h.bound y d
      state := by
        exact fun d v hv => h.state d v (hold hv).2
      default := by
        intro d hd
        simp only at hd ⊢
        split at hd
        · -- the default goes, and the first display that is left replaces it
          exact (Table.mem_keys_iff _ d).mp (List.mem_of_mem_head? hd)
        · rename_i hne
          rw [Table.get?_erase_ite, if_neg (fun he => hne (by rw [hd, he]))]
          exact h.default d hd
      defaulted := by
        intro d v hv
        simp only
        split
        · have hmem : d ∈ (r.displays.erase k).keys := (Table.mem_keys_iff _ d).mpr ⟨v, hv⟩
          intro hnone
          rw [List.head?_eq_none_iff.mp hnone] at hmem
          cases hmem
        · exact h.defaulted d v (hold hv).2 }

/-- A display is rewritten that keeps its number, its screen and its state. -/
theorem orderly_rewrite (h : Orderly r) {d : DisplayId} {v w : Display}
    (hv : r.displays.get? d = some v) (hid : w.id = v.id) (hscreen : w.screen = v.screen)
    (hstate : w.state = v.state) : Orderly { r with displays := r.displays.insert d w } := by
  have hold : ∀ {k u}, (r.displays.insert d w).get? k = some u →
      ∃ u', r.displays.get? k = some u' ∧ u.id = u'.id ∧ u.screen = u'.screen ∧
        u.state = u'.state := by
    intro k u hu
    rw [Table.get?_insert_ite] at hu
    split at hu
    · rename_i hk
      rw [← Option.some.inj hu]
      exact ⟨v, hk ▸ hv, hid, hscreen, hstate⟩
    · exact ⟨u, hu, rfl, rfl, rfl⟩
  have hlive : ∀ {k u}, r.displays.get? k = some u →
      ∃ u', (r.displays.insert d w).get? k = some u' ∧ u'.screen = u.screen := by
    intro k u hu
    rw [Table.get?_insert_ite]
    split
    · rename_i hk
      rw [hk, hv] at hu
      exact ⟨w, rfl, by rw [hscreen, Option.some.inj hu]⟩
    · exact ⟨u, hu, rfl⟩
  exact {
    id := by
      intro k u hu
      obtain ⟨u', hu', he, -, -⟩ := hold hu
      exact he.trans (h.id k u' hu')
    bound := by
      intro x k
      refine (h.bound x k).trans ⟨?_, ?_⟩
      · rintro ⟨u, hu, hx⟩
        obtain ⟨u', hu', he⟩ := hlive hu
        exact ⟨u', hu', he.trans hx⟩
      · rintro ⟨u, hu, hx⟩
        obtain ⟨u', hu', -, he, -⟩ := hold hu
        exact ⟨u', hu', he ▸ hx⟩
    state := by
      intro k u hu
      obtain ⟨u', hu', -, -, he⟩ := hold hu
      exact he.trans (h.state k u' hu')
    default := by
      intro k hk
      obtain ⟨u, hu⟩ := h.default k hk
      obtain ⟨u', hu', -⟩ := hlive hu
      exact ⟨u', hu'⟩
    defaulted := by
      intro k u hu
      obtain ⟨u', hu', -⟩ := hold hu
      exact h.defaulted k u' hu' }

theorem orderly_refresh (h : Orderly r) (s : ScreenReport) (change : ScreenChange) :
    Orderly (r.refresh s change).1 := by
  unfold refresh
  cases hv : r.displayOf? s.id with
  | none => exact h
  | some v =>
    obtain ⟨hget, hscreen⟩ := h.displayOf? hv
    exact orderly_rewrite h hget (by simp only [Display.refreshed, Display.ofScreen])
      (by simp only [Display.refreshed, Display.ofScreen, hscreen])
      (by simp only [Display.refreshed])

/-- A client's update of a display that leaves number, screen and state alone. -/
theorem orderly_updateDisplay (h : Orderly r) (x : ScreenId) {f : Display → Display}
    (hid : ∀ v, (f v).id = v.id) (hscreen : ∀ v, (f v).screen = v.screen)
    (hstate : ∀ v, (f v).state = v.state) (announce : Display → AgentEvent) :
    Orderly (r.updateDisplay x f announce).registry := by
  unfold updateDisplay
  cases hv : r.displayOf? x with
  | none => exact h
  | some v =>
    simp only
    rw [hid]
    exact orderly_rewrite h (h.displayOf? hv).1 (hid v) (hscreen v) (hstate v)

theorem orderly_setState (h : Orderly r) (state : DisplayState) :
    Orderly (r.setState state).registry := by
  unfold setState
  split
  · exact h
  · exact {
      id := by
        intro d v hv
        simp only [Table.get?_map, Option.map_eq_some_iff] at hv
        obtain ⟨u, hu, rfl⟩ := hv
        exact h.id d u hu
      bound := by
        intro x d
        refine (h.bound x d).trans ?_
        simp only [Table.get?_map, Option.map_eq_some_iff]
        constructor
        · rintro ⟨u, hu, hx⟩
          exact ⟨_, ⟨u, hu, rfl⟩, hx⟩
        · rintro ⟨_, ⟨u, hu, rfl⟩, hx⟩
          exact ⟨u, hu, hx⟩
      state := by
        intro d v hv
        simp only [Table.get?_map, Option.map_eq_some_iff] at hv
        obtain ⟨u, hu, rfl⟩ := hv
        rfl
      default := by
        intro d hd
        obtain ⟨u, hu⟩ := h.default d hd
        exact ⟨{ u with state }, by simp only [Table.get?_map, hu, Option.map_some]⟩
      defaulted := by
        intro d v hv
        simp only [Table.get?_map, Option.map_eq_some_iff] at hv
        obtain ⟨u, hu, rfl⟩ := hv
        exact h.defaulted d u hu }

/-! ## Numbers -/

/-- Displays have numbers below `low`, or from `high` on and drawn from `ids`. -/
structure Numbered (low high : Nat) (ids : IdSource) (r : Registry) : Prop where
  /-- The topology has drawn up to `high`. -/
  low_le : low ≤ high
  /-- The registry draws from there. -/
  high_le : high ≤ ids.count
  /-- The number of a display has been drawn. -/
  drawn : ∀ d v, r.displays.get? d = some v →
    d.val < low ∨ (high ≤ d.val ∧ d.val < ids.count)

variable {low high : Nat} {ids : IdSource}

/-- Displays that are there before a step are all that there are after it. -/
theorem Numbered.congr (hn : Numbered low high ids r) {r' : Registry}
    (hold : ∀ d v, r'.displays.get? d = some v → ∃ u, r.displays.get? d = some u) :
    Numbered low high ids r' := by
  refine ⟨hn.low_le, hn.high_le, fun d v hv => ?_⟩
  obtain ⟨u, hu⟩ := hold d v hv
  exact hn.drawn d u hu

theorem displays_remove (x : ScreenId) (d : DisplayId) {v : Display}
    (hv : (r.remove x).1.displays.get? d = some v) : r.displays.get? d = some v := by
  unfold remove at hv
  cases hk : r.bindings.get? x with
  | none =>
    rw [hk] at hv
    exact hv
  | some k =>
    rw [hk] at hv
    simp only [Table.get?_erase_ite] at hv
    split at hv
    · cases hv
    · exact hv

theorem displays_refresh (h : Orderly r) (s : ScreenReport) (change : ScreenChange)
    (d : DisplayId) {v : Display} (hv : (r.refresh s change).1.displays.get? d = some v) :
    ∃ u, r.displays.get? d = some u := by
  unfold refresh at hv
  cases hw : r.displayOf? s.id with
  | none =>
    rw [hw] at hv
    exact ⟨v, hv⟩
  | some w =>
    rw [hw] at hv
    simp only [Table.get?_insert_ite] at hv
    split at hv
    · rename_i hd
      exact ⟨w, hd ▸ (h.displayOf? hw).1⟩
    · exact ⟨v, hv⟩

/-- The next number of the source is free, while it has one. -/
theorem Numbered.free (hn : Numbered low high ids r) (hcount : ids.count < 2 ^ 64) :
    r.displays.get? ⟨ids.peek⟩ = none := by
  have hpeek : ids.peek = ids.count := IdSource.peek_of_lt hcount
  have hlow := hn.low_le
  have hhigh := hn.high_le
  cases hv : r.displays.get? ⟨ids.peek⟩ with
  | none => rfl
  | some v =>
    have : ids.peek < low ∨ (high ≤ ids.peek ∧ ids.peek < ids.count) := hn.drawn _ v hv
    omega

/-- So is the number that the topology drew for an event still to be followed. -/
theorem Numbered.free_low (hn : Numbered low high ids r) (hlow : low < high) :
    r.displays.get? ⟨low⟩ = none := by
  cases hv : r.displays.get? ⟨low⟩ with
  | none => rfl
  | some v =>
    have : low < low ∨ (high ≤ low ∧ low < ids.count) := hn.drawn _ v hv
    omega

theorem orderly_ensure (h : Orderly r) (hn : Numbered low high ids r) (s : ScreenReport)
    (hcount : (r.ensure ids s).2.1.count ≤ 2 ^ 64) :
    Orderly (r.ensure ids s).1 ∧ Numbered low high (r.ensure ids s).2.1 (r.ensure ids s).1 := by
  unfold ensure at hcount ⊢
  split
  · exact ⟨h, hn⟩
  · rename_i hfree
    rw [if_neg hfree] at hcount
    have hlt : ids.count < 2 ^ 64 := hcount
    have hunbound : r.bindings.get? s.id = none := by
      simpa only [Table.contains, Bool.not_eq_true, Option.isSome_eq_false_iff,
        Option.isNone_iff_eq_none] using hfree
    refine ⟨orderly_create h (hn.free hlt) hunbound, ?_⟩
    have hlow := hn.low_le
    have hhigh := hn.high_le
    refine ⟨hlow, Nat.le_succ_of_le hhigh, fun d v hv => ?_⟩
    simp only [create, Table.get?_insert_ite] at hv
    split at hv
    · -- the new display has the number just drawn, the others have what they had
      rename_i hd
      have hval : d.val = ids.count := by rw [hd]; exact IdSource.peek_of_lt hlt
      simp only [IdSource.count_advance]
      omega
    · have := hn.drawn d v hv
      simp only [IdSource.count_advance]
      omega

/-- A screen that becomes unique gets a display of the number that was drawn for it. -/
theorem orderly_renew (h : Orderly r) (hn : Numbered low high ids r) (hlow : low < high)
    (s : ScreenReport) :
    Orderly ((r.remove s.id).1.create ⟨low⟩ s).1 ∧
      Numbered (low + 1) high ids ((r.remove s.id).1.create ⟨low⟩ s).1 := by
  have hfresh : (r.remove s.id).1.displays.get? ⟨low⟩ = none := by
    cases hv : (r.remove s.id).1.displays.get? ⟨low⟩ with
    | none => rfl
    | some v => exact (displays_remove s.id _ hv).symm.trans (hn.free_low hlow)
  have hfree : (r.remove s.id).1.bindings.get? s.id = none := by
    unfold remove
    cases hk : r.bindings.get? s.id with
    | none => exact hk
    | some k => exact Table.get?_erase_self _ _
  refine ⟨orderly_create (orderly_remove h s.id) hfresh hfree, hlow, hn.high_le, fun d v hv => ?_⟩
  -- the number `low` is taken now, and no display is between `low` and `high`
  simp only [create, Table.get?_insert_ite] at hv
  split at hv
  · rename_i hd
    rw [hd]
    exact .inl (Nat.lt_succ_self low)
  · have := hn.drawn d v (displays_remove s.id d hv)
    omega

/-! ## Following the topology -/

/-- Following an event leaves the registry in order. -/
theorem orderly_follow (h : Orderly r) {e : TopologyEvent} (hn : Numbered low high ids r)
    (hcount : (r.follow ids e).2.1.count ≤ 2 ^ 64)
    (hunique : ∀ s d, e = .becameUnique s d → d = ⟨low⟩ ∧ low < high) :
    Orderly (r.follow ids e).1 ∧
      Numbered (low + e.drawn) high (r.follow ids e).2.1 (r.follow ids e).1 := by
  have hremove : ∀ x, Orderly (r.remove x).1 ∧ Numbered low high ids (r.remove x).1 :=
    fun x => ⟨orderly_remove h x, hn.congr fun d v hv => ⟨v, displays_remove x d hv⟩⟩
  cases e with
  | connected s => exact ⟨h, hn⟩
  | groupDissolved g => exact ⟨h, hn⟩
  | disconnected x => exact hremove x
  | changed s change =>
    exact ⟨orderly_refresh h s change, hn.congr fun d v hv => displays_refresh h s change d hv⟩
  | becameUnique s d =>
    obtain ⟨rfl, hlow⟩ := hunique s d rfl
    exact orderly_renew h hn hlow s
  | joinedGroup s g =>
    cases hg : g.combination with
    | mirror =>
      simp only [follow, hg]
      exact hremove s.id
    | alone =>
      simp only [follow, hg] at hcount ⊢
      exact orderly_ensure h hn s hcount
    | expand =>
      simp only [follow, hg] at hcount ⊢
      exact orderly_ensure h hn s hcount
  | leftGroup s g reason =>
    simp only [follow] at hcount ⊢
    split
    · rename_i hdetached
      rw [if_pos hdetached] at hcount
      exact orderly_ensure h hn s hcount
    · exact ⟨h, hn⟩

theorem contains_remove (x y : ScreenId) :
    (r.remove x).1.bindings.contains y = if y = x then false else r.bindings.contains y := by
  unfold remove Table.contains
  cases hk : r.bindings.get? x with
  | none =>
    by_cases hy : y = x
    · rw [if_pos hy, hy]
      exact congrArg Option.isSome hk
    · rw [if_neg hy]
  | some k =>
    simp only [Table.get?_erase_ite]
    split <;> rfl

theorem contains_create (d : DisplayId) (s : ScreenReport) (y : ScreenId) :
    (r.create d s).1.bindings.contains y = if y = s.id then true else r.bindings.contains y := by
  simp only [create, Table.contains, Table.get?_insert_ite]
  split <;> rfl

theorem contains_ensure (ids : IdSource) (s : ScreenReport) (y : ScreenId) :
    (r.ensure ids s).1.bindings.contains y =
      if y = s.id then true else r.bindings.contains y := by
  unfold ensure
  split
  · rename_i hbound
    -- a bound screen keeps its display, and that it is bound is no news
    split
    · rename_i hy
      rw [hy, hbound]
    · rfl
  · exact contains_create _ s y

/-- Which screens are bound after an event. -/
theorem contains_follow (ids : IdSource) (e : TopologyEvent) :
    (r.follow ids e).1.bindings.contains = e.rebind r.bindings.contains := by
  funext y
  unfold TopologyEvent.rebind
  cases e with
  | connected s => rfl
  | groupDissolved g => rfl
  | disconnected x => exact contains_remove x y
  | changed s change =>
    simp only [follow, refresh, TopologyEvent.binds?]
    cases r.displayOf? s.id <;> rfl
  | becameUnique s d =>
    simp only [follow, TopologyEvent.binds?]
    rw [contains_create, contains_remove]
    split <;> rfl
  | joinedGroup s g =>
    cases hg : g.combination with
    | mirror =>
      simp only [follow, TopologyEvent.binds?, hg]
      exact contains_remove s.id y
    | alone =>
      simp only [follow, TopologyEvent.binds?, hg]
      exact contains_ensure ids s y
    | expand =>
      simp only [follow, TopologyEvent.binds?, hg]
      exact contains_ensure ids s y
  | leftGroup s g reason =>
    simp only [follow, TopologyEvent.binds?]
    split
    · exact contains_ensure ids s y
    · rfl

end Registry

end DisplayServer
