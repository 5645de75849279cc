import DisplayServer.Proofs.Defaults
import DisplayServer.Proofs.RenderIndex

/-!
# What is removed when a panel is unplugged

A panel is unplugged by its number, and whatever the index of the render engine has under that
number is removed. The index knows nothing of kinds, and software screens are in it too: under a
number that a software screen has, the software screen goes. A panel that had the number before
is hidden then, and stays hidden once the software screen is gone, because only the index leads
to a panel that is to be removed. So unplugging works on panels, and on every panel, exactly
where no live software screen has the number and no panel lost it without another one coming
after it.
-/

namespace DisplayServer

namespace Topology

variable {t u : Topology} {x y : ScreenId} {r q : RenderId} {software : Bool}

/-! ## Numbers of software screens -/

/-- Software screens are found under their numbers, which all come from the source. -/
structure Wired (t : Topology) : Prop where
  found : ∀ x r, t.wire? x = some (r, true) → t.screenOf? r = some x
  numbered : ∀ x r, t.wire? x = some (r, true) → ∃ k, firstVirtualRenderId ≤ k ∧
    k < t.virtualRenderIds.count ∧ r = ⟨(IdSource.startingAt k).peek⟩
  started : firstVirtualRenderId ≤ t.virtualRenderIds.count
  bounded : t.virtualRenderIds.count ≤ firstVirtualRenderId + t.screenIds.count

theorem wired_empty : Wired .empty where
  found := by intro x r h; cases h
  numbered := by intro x r h; cases h
  started := Nat.le_refl _
  bounded := Nat.le_add_right _ _

/-- No software screen has the number that comes next. -/
theorem Wired.ne_peek (h : Wired t) (hcount : t.screenIds.count < 2 ^ 64)
    (hx : t.wire? x = some (r, true)) : r ≠ ⟨t.virtualRenderIds.peek⟩ := by
  obtain ⟨k, hfirst, hlt, rfl⟩ := h.numbered x r hx
  have hbounded := h.bounded
  intro heq
  have hpeek : k % 2 ^ 64 = t.virtualRenderIds.count % 2 ^ 64 := congrArg RenderId.val heq
  omega

/-- Software screens that were there already are still found, and none is new. -/
theorem Wired.of_old (h : Wired t)
    (hold : ∀ y q, u.wire? y = some (q, true) →
      t.wire? y = some (q, true) ∧ u.screenOf? q = t.screenOf? q)
    (hnumbers : u.virtualRenderIds = t.virtualRenderIds)
    (hle : t.screenIds.count ≤ u.screenIds.count) : Wired u where
  found y q hy := by
    obtain ⟨hy, hindex⟩ := hold y q hy
    exact hindex.trans (h.found y q hy)
  numbered y q hy := by
    rw [hnumbers]
    exact h.numbered y q (hold y q hy).1
  started := by
    rw [hnumbers]
    exact h.started
  bounded := by
    rw [hnumbers]
    exact Nat.le_trans h.bounded (Nat.add_le_add_left hle _)

theorem Wired.same (h : Wired t) (hsame : SameWires t u)
    (hle : t.screenIds.count ≤ u.screenIds.count) : Wired u :=
  h.of_old (fun y q hy => ⟨(hsame.wires y).symm.trans hy, hsame.screenOf? q⟩) hsame.numbers hle

theorem Wired.plugs (h : Wired t) (hnew : t.screenOf? r = none) (happears : Appears x r false t u)
    (hnumbers : u.virtualRenderIds = t.virtualRenderIds)
    (hle : t.screenIds.count ≤ u.screenIds.count) : Wired u := by
  refine h.of_old (fun y q hy => ?_) hnumbers hle
  rw [happears.wires] at hy
  split at hy
  · cases hy
  · refine ⟨hy, ?_⟩
    rw [happears.index, if_neg]
    -- the number of a software screen leads to it, the new number leads nowhere
    rintro rfl
    exact Option.some_ne_none y ((h.found y q hy).symm.trans hnew)

theorem Wired.goes (h : Wired t) (hfound : t.screenOf? r = some x) (hgoes : Goes x r t u)
    (hle : t.screenIds.count ≤ u.screenIds.count) : Wired u := by
  refine h.of_old (fun y q hy => ?_) hgoes.numbers hle
  rw [hgoes.wires] at hy
  split at hy
  · cases hy
  · rename_i hne
    refine ⟨hy, ?_⟩
    rw [hgoes.index, if_neg]
    -- the number that goes leads to the screen that goes
    rintro rfl
    exact hne (Option.some.inj ((h.found y q hy).symm.trans hfound))

theorem Wired.makes (h : Wired t) (hcount : t.screenIds.count < 2 ^ 64)
    (happears : Appears x ⟨t.virtualRenderIds.peek⟩ true t u)
    (hnumbers : u.virtualRenderIds = t.virtualRenderIds.advance)
    (hdrawn : t.screenIds.count < u.screenIds.count) : Wired u where
  found y q hy := by
    rw [happears.wires] at hy
    split at hy
    · rename_i hyx
      obtain rfl := congrArg Prod.fst (Option.some.inj hy)
      rw [happears.index, if_pos rfl, hyx]
    · rw [happears.index, if_neg (h.ne_peek hcount hy)]
      exact h.found y q hy
  numbered y q hy := by
    rw [hnumbers, IdSource.count_advance]
    rw [happears.wires] at hy
    split at hy
    · obtain rfl := congrArg Prod.fst (Option.some.inj hy)
      exact ⟨t.virtualRenderIds.count, h.started, Nat.lt_succ_self _, rfl⟩
    · obtain ⟨k, hfirst, hlt, hq⟩ := h.numbered y q hy
      exact ⟨k, hfirst, Nat.lt_succ_of_lt hlt, hq⟩
  started := by
    rw [hnumbers, IdSource.count_advance]
    exact Nat.le_succ_of_le h.started
  bounded := by
    rw [hnumbers, IdSource.count_advance]
    have := h.bounded
    omega

theorem wired_rewires {c : Command} (h : Wired t) (hr : Rewires t c u)
    (hle : t.screenIds.count ≤ u.screenIds.count) (hcount : u.screenIds.count ≤ 2 ^ 64) :
    Wired u := by
  cases hr with
  | keeps hsame hrefused => exact h.same hsame hle
  | plugs hnew happears hnumbers => exact h.plugs hnew happears hnumbers hle
  | makes hfault happears hnumbers hdrawn =>
    exact h.makes (Nat.lt_of_lt_of_le hdrawn hcount) happears hnumbers hdrawn
  | unplugs hfound hgoes => exact h.goes hfound hgoes hle
  | destroys hx hgoes => exact h.goes (h.found _ _ hx) hgoes hle

/-! ## Panels that nothing leads to -/

/-- A live panel has the number, and the number does not lead to it. -/
def Hidden (t : Topology) (r : RenderId) : Prop :=
  ∃ x, t.wire? x = some (r, false) ∧ t.screenOf? r ≠ some x

/-- A software screen is made under the number, which is taken. -/
def Command.Shadows (t : Topology) (r : RenderId) (c : Command) : Prop :=
  c.Collides t ∧ r = ⟨t.virtualRenderIds.peek⟩

theorem hidden_congr (hwires : ∀ y, u.wire? y = some (q, false) ↔ t.wire? y = some (q, false))
    (hindex : u.screenOf? q = t.screenOf? q) : Hidden u q ↔ Hidden t q := by
  unfold Hidden
  simp only [hwires, hindex]

/-- Under the number of a screen that appears, all panels that there were are hidden. -/
theorem hidden_appears (happears : Appears x r software t u) :
    Hidden u r ↔ ∃ y, t.wire? y = some (r, false) := by
  constructor
  · rintro ⟨y, hy, hled⟩
    rw [happears.index, if_pos rfl] at hled
    rw [happears.wires, if_neg fun hyx => hled (congrArg some hyx.symm)] at hy
    exact ⟨y, hy⟩
  · rintro ⟨y, hy⟩
    have hne : y ≠ x := by
      rintro rfl
      rw [happears.new] at hy
      cases hy
    refine ⟨y, by rw [happears.wires, if_neg hne, hy], ?_⟩
    rw [happears.index, if_pos rfl]
    exact fun heq => hne (Option.some.inj heq).symm

theorem hidden_appears_of_ne (happears : Appears x r software t u) (hne : q ≠ r) :
    Hidden u q ↔ Hidden t q := by
  refine hidden_congr (fun y => ?_) (by rw [happears.index, if_neg hne])
  rw [happears.wires]
  split
  · rename_i hyx
    rw [hyx, happears.new]
    refine iff_of_false (fun heq => hne ?_) (Option.some_ne_none _).symm
    exact (congrArg Prod.fst (Option.some.inj heq)).symm
  · rfl

/-- A screen that is found and goes was not hidden itself and uncovers nothing. -/
theorem hidden_goes (h : Linked t) (hfound : t.screenOf? r = some x) (hgoes : Goes x r t u)
    (q : RenderId) : Hidden u q ↔ Hidden t q := by
  obtain ⟨software, hx⟩ := h.wire?_of_screenOf? hfound
  by_cases hq : q = r
  · subst hq
    have hled : u.screenOf? q = none := by rw [hgoes.index, if_pos rfl]
    constructor
    · rintro ⟨y, hy, -⟩
      rw [hgoes.wires] at hy
      split at hy
      · cases hy
      · rename_i hne
        exact ⟨y, hy, fun heq => hne (Option.some.inj (heq.symm.trans hfound))⟩
    · rintro ⟨y, hy, hne⟩
      have hyx : y ≠ x := fun hyx => hne (hyx ▸ hfound)
      refine ⟨y, by rw [hgoes.wires, if_neg hyx, hy], ?_⟩
      rw [hled]
      exact (Option.some_ne_none y).symm
  · refine hidden_congr (fun y => ?_) (by rw [hgoes.index, if_neg hq])
    rw [hgoes.wires]
    split
    · rename_i hyx
      rw [hyx, hx]
      refine iff_of_false (Option.some_ne_none _).symm fun heq => hq ?_
      exact (congrArg Prod.fst (Option.some.inj heq)).symm
    · rfl

/-- **Panels are hidden by software screens that are made under their number, and by nothing
else, and no command uncovers them.** -/
theorem hidden_rewires {c : Command} (h : Linked t) (hw : Wired t) (hr : Rewires t c u)
    (hcount : u.screenIds.count ≤ 2 ^ 64) (q : RenderId) :
    Hidden u q ↔ Hidden t q ∨ c.Shadows t q := by
  cases hr with
  | keeps hsame hrefused =>
    rw [or_iff_left fun hs : c.Shadows t q => not_collides_of_refused hrefused hs.1]
    exact hidden_congr (fun y => by rw [hsame.wires]) (hsame.screenOf? q)
  | @plugs r panel x _ hnew happears hnumbers =>
    rw [or_iff_left fun hs : (Command.connect r panel).Shadows t q => hs.1]
    by_cases hq : q = r
    · subst hq
      rw [hidden_appears happears]
      unfold Hidden
      simp [hnew]
    · exact hidden_appears_of_ne happears hq
  | @makes request x _ hfault happears hnumbers hdrawn =>
    have hcount' := Nat.lt_of_lt_of_le hdrawn hcount
    by_cases hq : q = ⟨t.virtualRenderIds.peek⟩
    · subst hq
      rw [hidden_appears happears]
      constructor
      · rintro ⟨y, hy⟩
        by_cases hled : t.screenOf? ⟨t.virtualRenderIds.peek⟩ = some y
        · exact .inr ⟨⟨hfault, by rw [hled]; rfl⟩, rfl⟩
        · exact .inl ⟨y, hy, hled⟩
      · rintro (⟨y, hy, -⟩ | ⟨⟨-, htaken⟩, -⟩)
        · exact ⟨y, hy⟩
        · obtain ⟨y, hled⟩ := Option.isSome_iff_exists.mp htaken
          obtain ⟨software, hy⟩ := h.wire?_of_screenOf? hled
          cases software with
          | false => exact ⟨y, hy⟩
          | true => exact absurd rfl (hw.ne_peek hcount' hy)
    · rw [or_iff_left fun hs : (Command.create request).Shadows t q => hq hs.2]
      exact hidden_appears_of_ne happears hq
  | @unplugs r x _ hfound hgoes =>
    rw [or_iff_left fun hs : (Command.disconnect r).Shadows t q => hs.1]
    exact hidden_goes h hfound hgoes q
  | @destroys x r _ hx hgoes =>
    rw [or_iff_left fun hs : (Command.destroy x).Shadows t q => hs.1]
    exact hidden_goes h (hw.found _ _ hx) hgoes q

/-! ## Runs -/

/-- At some moment of the run a software screen was made under the number while it was taken. -/
def Shadowed (run : List Command) (r : RenderId) : Prop :=
  ∃ beginning c, beginning ++ [c] <+: run ∧ c.Shadows (after beginning) r

theorem shadowed_concat (run : List Command) (c : Command) (r : RenderId) :
    Shadowed (run ++ [c]) r ↔ Shadowed run r ∨ c.Shadows (after run) r := by
  constructor
  · rintro ⟨beginning, c', hprefix, hs⟩
    rcases List.prefix_concat_iff.mp hprefix with heq | hprefix
    · obtain ⟨rfl, hc⟩ := List.append_inj' heq rfl
      obtain rfl := List.singleton_inj.mp hc
      exact .inr hs
    · exact .inl ⟨beginning, c', hprefix, hs⟩
  · rintro (⟨beginning, c', hprefix, hs⟩ | hs)
    · exact ⟨beginning, c', hprefix.trans (List.prefix_append run [c]), hs⟩
    · exact ⟨run, c, List.prefix_refl _, hs⟩

/-- The panels that a run leaves hidden are those that were hidden at some moment of it. -/
theorem wired_after (run : List Command) (hcount : (after run).screenIds.count ≤ 2 ^ 64) :
    Wired (after run) ∧ ∀ r, Hidden (after run) r ↔ Shadowed run r := by
  induction run using List.reverseRecOn with
  | nil =>
    refine ⟨wired_empty, fun r => iff_of_false ?_ ?_⟩
    · rintro ⟨x, hx, -⟩
      cases hx
    · rintro ⟨beginning, c, hprefix, -⟩
      exact List.append_ne_nil_of_right_ne_nil _ (List.cons_ne_nil c [])
        (List.prefix_nil.mp hprefix)
  | append_singleton run c ih =>
    have hle := screenIds_le_of_beginning (List.prefix_append run [c])
    obtain ⟨hwired, hhidden⟩ := ih (Nat.le_trans hle hcount)
    have hsound := sound_after run (Nat.le_trans hle hcount)
    rw [after_concat] at hle hcount ⊢
    have hr := rewires_perform hsound c hcount
    refine ⟨wired_rewires hwired hr hle hcount, fun r => ?_⟩
    rw [hidden_rewires hsound.toLinked hwired hr hcount r, hhidden, shadowed_concat]

/-! ## Unplugging -/

/-- Unplugging the number removes the panel `x`, which has that number, and no other screen. -/
structure Unplugs (t : Topology) (r : RenderId) (x : ScreenId) : Prop where
  panel : ∃ s, t.screen? x = some s ∧ s.isVirtual = false ∧ s.renderId = r
  answer : (t.disconnect r).result = .ok x
  gone : (t.disconnect r).topology.screen? x = none
  others : ∀ y, y ≠ x → ((t.disconnect r).topology.screen? y).isSome = (t.screen? y).isSome

/-- Unplugging the number is refused or removes one panel of that number, and it is not refused
while there is one. -/
structure HardwareOnly (t : Topology) (r : RenderId) : Prop where
  outcome : (∃ e, t.disconnect r = .refuse t e) ∨ ∃ x, Unplugs t r x
  granted : ∀ x s, t.screen? x = some s → s.isVirtual = false → s.renderId = r →
    (t.disconnect r).result.isOk

/-- What the number leads to is removed. -/
theorem disconnect_removes (h : Sound t) (hx : t.screenOf? r = some x) :
    (t.disconnect r).result = .ok x ∧ (t.disconnect r).topology.screen? x = none ∧
      ∀ y, y ≠ x → ((t.disconnect r).topology.screen? y).isSome = (t.screen? y).isSome := by
  obtain ⟨software, hwire⟩ := h.wire?_of_screenOf? hx
  have hd : t.disconnect r = .done ((Draft.begin t).erase x) x := by
    unfold disconnect
    rw [hx]
  have hgoes := goes_erase h hwire
  rw [hd]
  refine ⟨rfl, ?_, fun y hy => ?_⟩
  · rw [← Option.not_isSome_iff_eq_none, ← isSome_wire?]
    show ¬ (((Draft.begin t).erase x).topology.wire? x).isSome
    rw [hgoes.wires, if_pos rfl]
    exact Bool.false_ne_true
  · rw [← isSome_wire?, ← isSome_wire?]
    show (((Draft.begin t).erase x).topology.wire? y).isSome = _
    rw [hgoes.wires, if_neg hy]

theorem hardwareOnly_iff (h : Sound t) (hw : Wired t) :
    HardwareOnly t r ↔
      (∀ x s, t.screen? x = some s → s.renderId = r → s.isVirtual = false) ∧
        (Hidden t r → (t.screenOf? r).isSome) := by
  constructor
  · intro hard
    refine ⟨fun x s hs hr => ?_, ?_⟩
    · cases hv : s.isVirtual with
      | false => rfl
      | true =>
        -- a software screen is found under its number, so it would be what goes
        have hfound := hw.found x r (wire?_eq_some_iff.mpr ⟨s, hs, hr, hv⟩)
        have hok := (disconnect_removes h hfound).1
        rcases hard.outcome with ⟨e, hd⟩ | ⟨y, hy⟩
        · rw [hd] at hok
          cases hok
        · obtain rfl : y = x := Except.ok.inj (hy.answer.symm.trans hok)
          obtain ⟨s', hs', hpanel, -⟩ := hy.panel
          rw [Option.some.inj (hs.symm.trans hs')] at hv
          exact absurd (hpanel.symm.trans hv) (by decide)
    · rintro ⟨x, hx, -⟩
      obtain ⟨s, hs, hr, hv⟩ := wire?_eq_some_iff.mp hx
      have hok := hard.granted x s hs hv hr
      cases hled : t.screenOf? r with
      | some y => rfl
      | none =>
        rw [disconnect, hled] at hok
        cases hok
  · rintro ⟨hpanels, huncovered⟩
    cases hled : t.screenOf? r with
    | none =>
      have hd : t.disconnect r = .reject t (.notConnected r) := by
        unfold disconnect
        rw [hled]
      refine ⟨.inl ⟨_, hd⟩, fun x s hs hv hr => ?_⟩
      -- a panel that the number does not lead to is hidden
      have hhidden : Hidden t r :=
        ⟨x, wire?_eq_some_iff.mpr ⟨s, hs, hr, hv⟩, by rw [hled]; exact (Option.some_ne_none x).symm⟩
      have hsome := huncovered hhidden
      rw [hled] at hsome
      cases hsome
    | some x =>
      obtain ⟨hok, hgone, hothers⟩ := disconnect_removes h hled
      obtain ⟨s, hs, hr⟩ := h.indexed r x hled
      refine ⟨.inr ⟨x, ⟨s, hs, hpanels x s hs hr, hr⟩, hok, hgone, hothers⟩, fun _ _ _ _ _ => ?_⟩
      rw [hok]
      rfl

/-- **Unplugging works on panels, and on every panel, exactly if no live software screen has the
number, and the number leads somewhere if it was ever taken by a software screen from a panel.**
A live software screen that has the number is what is removed. -/
theorem disconnect_hardwareOnly_iff (run : List Command)
    (hcount : (after run).screenIds.count ≤ 2 ^ 64) (r : RenderId) :
    (HardwareOnly (after run) r ↔
      (∀ x s, (after run).screen? x = some s → s.renderId = r → s.isVirtual = false) ∧
        (Shadowed run r → ((after run).screenOf? r).isSome)) ∧
      ∀ x s, (after run).screen? x = some s → s.renderId = r → s.isVirtual = true →
        ((after run).disconnect r).result = .ok x ∧
          ((after run).disconnect r).topology.screen? x = none := by
  have hsound := sound_after run hcount
  obtain ⟨hwired, hhidden⟩ := wired_after run hcount
  constructor
  · rw [hardwareOnly_iff hsound hwired, hhidden]
  · intro x s hs hr hv
    obtain ⟨hok, hgone, -⟩ := disconnect_removes hsound
      (hwired.found x r (wire?_eq_some_iff.mpr ⟨s, hs, hr, hv⟩))
    exact ⟨hok, hgone⟩

/-- Beside the panel whose number a software screen has, another panel is plugged in. -/
def dockedRun : List Command :=
  crowdedRun ++ [.connect ⟨7⟩ ⟨"desk", [⟨2560, 1440, 60⟩], 0, 1, []⟩]

/-- Unplugging the other panel works. -/
theorem disconnect_hardwareOnly_iff_dockedRun :
    (after dockedRun).screenIds.count ≤ 2 ^ 64 ∧ HardwareOnly (after dockedRun) ⟨7⟩ ∧
      ((after dockedRun).disconnect ⟨1000⟩).result = .ok ⟨2⟩ := by
  have hcount : (after dockedRun).screenIds.count ≤ 2 ^ 64 := by decide
  have hpanels : ∀ s ∈ (after dockedRun).screens, s.renderId = ⟨7⟩ → s.isVirtual = false := by
    decide
  refine ⟨hcount, (disconnect_hardwareOnly_iff dockedRun hcount ⟨7⟩).1.mpr ⟨?_, fun _ => rfl⟩, ?_⟩
  · intro x s hs
    exact hpanels s (mem_screens_iff.mpr ⟨x, hs⟩)
  · exact ((disconnect_hardwareOnly_iff dockedRun hcount ⟨1000⟩).2 ⟨2⟩ _ rfl rfl rfl).1

/-- Unplugging a panel removes the software screen that has its number, and leaves the panel. -/
theorem disconnect_hardwareOnly_fails_crowdedRun :
    (∃ s, (after crowdedRun).screen? ⟨0⟩ = some s ∧ s.isVirtual = false ∧ s.renderId = ⟨1000⟩) ∧
    (∃ s, (after crowdedRun).screen? ⟨2⟩ = some s ∧ s.isVirtual = true) ∧
    ((after crowdedRun).disconnect ⟨1000⟩).result = .ok ⟨2⟩ ∧
    (((after crowdedRun).disconnect ⟨1000⟩).topology.screen? ⟨0⟩).isSome ∧
    ¬ HardwareOnly (after crowdedRun) ⟨1000⟩ := by
  have hsoftware : ∃ s, (after crowdedRun).screen? ⟨2⟩ = some s ∧ s.isVirtual = true :=
    ⟨_, rfl, rfl⟩
  have hanswer : ((after crowdedRun).disconnect ⟨1000⟩).result = .ok ⟨2⟩ := by decide
  refine ⟨⟨_, rfl, rfl, rfl⟩, hsoftware, hanswer, by decide, fun hard => ?_⟩
  rcases hard.outcome with ⟨e, hd⟩ | ⟨x, hx⟩
  · rw [hd] at hanswer
    cases hanswer
  · obtain rfl : x = ⟨2⟩ := Except.ok.inj (hx.answer.symm.trans hanswer)
    obtain ⟨s, hs, hv⟩ := hsoftware
    obtain ⟨s', hs', hpanel, -⟩ := hx.panel
    rw [Option.some.inj (hs.symm.trans hs')] at hv
    exact absurd (hpanel.symm.trans hv) (by decide)

end Topology

end DisplayServer
