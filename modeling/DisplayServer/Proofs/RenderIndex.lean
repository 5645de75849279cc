import DisplayServer.Proofs.Wiring

/-!
# When the index of the render engine is exact

The index should lead from each number of the render engine to the one live screen that has it.
That it leads to a live screen of that number is part of soundness; what can fail is that every
live screen is found under its number (`Indexed`). Panels bring numbers from outside, and a
number that is taken is refused. Software screens get theirs from a source, and nobody looks
whether the number is taken: where a panel has it, the panel is no longer found.

So the index is exact throughout a run exactly if no software screen of the run is made under a
number that is taken.
-/

namespace DisplayServer

namespace Topology

/-- The index leads from each number to the live screen that has it, and from no other. -/
def IndexExact (t : Topology) : Prop :=
  ∀ r x, t.screenOf? r = some x ↔ ∃ s, t.screen? x = some s ∧ s.renderId = r

/-- Every live screen is found under its number. -/
def Indexed (t : Topology) : Prop :=
  ∀ x s, t.screen? x = some s → t.screenOf? s.renderId = some x

variable {t u : Topology}

/-- Where the index is exact, no two live screens have one number. -/
theorem IndexExact.eq_of_renderId (h : IndexExact t) {x y : ScreenId} {s s' : Screen}
    (hx : t.screen? x = some s) (hy : t.screen? y = some s') (hr : s.renderId = s'.renderId) :
    x = y := by
  have hx := (h s.renderId x).mpr ⟨s, hx, rfl⟩
  have hy := (h s.renderId y).mpr ⟨s', hy, hr.symm⟩
  exact Option.some.inj (hx.symm.trans hy)

theorem Linked.indexExact_iff (h : Linked t) : IndexExact t ↔ Indexed t := by
  constructor
  · intro hexact x s hs
    exact (hexact s.renderId x).mpr ⟨s, hs, rfl⟩
  · intro hall r x
    constructor
    · exact h.indexed r x
    · rintro ⟨s, hs, rfl⟩
      exact hall x s hs

theorem indexed_iff :
    Indexed t ↔ ∀ x r software, t.wire? x = some (r, software) → t.screenOf? r = some x := by
  constructor
  · intro hall x r software hx
    obtain ⟨s, hs, rfl, -⟩ := wire?_eq_some_iff.mp hx
    exact hall x s hs
  · intro hall x s hs
    exact hall x s.renderId s.isVirtual (wire?_eq_some_iff.mpr ⟨s, hs, rfl, rfl⟩)

/-! ## Each kind of rewiring -/

theorem indexed_empty : Indexed .empty := by
  intro x s hs
  cases hs

theorem indexed_same (h : SameWires t u) (hall : Indexed t) : Indexed u := by
  refine indexed_iff.mpr fun x r software hx => ?_
  rw [h.screenOf?]
  exact indexed_iff.mp hall x r software ((h.wires x).symm.trans hx)

/-- A screen may appear under a number that nobody has, and under the number of another it hides
that one. -/
theorem indexed_appears_iff (h : Linked t) (hall : Indexed t) {x : ScreenId} {r : RenderId}
    {software : Bool} (happears : Appears x r software t u) :
    Indexed u ↔ t.screenOf? r = none := by
  rw [indexed_iff]
  constructor
  · intro hall'
    cases htaken : t.screenOf? r with
    | none => rfl
    | some y =>
      obtain ⟨kind, hy⟩ := h.wire?_of_screenOf? htaken
      have hne : y ≠ x := by
        rintro rfl
        rw [happears.new] at hy
        cases hy
      have hled := hall' y r kind (by rw [happears.wires, if_neg hne, hy])
      rw [happears.index, if_pos rfl] at hled
      exact absurd (Option.some.inj hled).symm hne
  · intro hnew y q kind hy
    rw [happears.wires] at hy
    split at hy
    · rename_i hyx
      obtain rfl := congrArg Prod.fst (Option.some.inj hy)
      rw [happears.index, if_pos rfl, hyx]
    · have hled := indexed_iff.mp hall y q kind hy
      rw [happears.index, if_neg]
      · exact hled
      · -- the number of a live screen leads to it, the new number leads nowhere
        rintro rfl
        exact Option.some_ne_none y (hled.symm.trans hnew)

theorem indexed_goes (hall : Indexed t) {x : ScreenId} {r : RenderId}
    (hfound : t.screenOf? r = some x) (hgoes : Goes x r t u) : Indexed u := by
  refine indexed_iff.mpr fun y q software hy => ?_
  rw [hgoes.wires] at hy
  split at hy
  · cases hy
  · rename_i hne
    have hled := indexed_iff.mp hall y q software hy
    rw [hgoes.index, if_neg]
    · exact hled
    · -- the number that goes leads to the screen that goes, so it is not that of another
      rintro rfl
      exact hne (Option.some.inj (hled.symm.trans hfound))

/-! ## Operations and runs -/

/-- A software screen is made, and the number that it gets leads to another screen. -/
def Command.Collides (t : Topology) : Command → Prop
  | create request => requestFault? request = none ∧
      (t.screenOf? ⟨t.virtualRenderIds.peek⟩).isSome
  | _ => False

theorem not_collides_of_refused {c : Command}
    (h : ∀ request, c = .create request → requestFault? request ≠ none) : ¬ c.Collides t := by
  cases c with
  | create request => exact fun hc => h request rfl hc.1
  | _ => exact id

/-- An operation keeps every live screen under its number unless it collides. -/
theorem indexed_perform_iff (h : Sound t) (hall : Indexed t) (c : Command)
    (hcount : (t.perform c).screenIds.count ≤ 2 ^ 64) :
    Indexed (t.perform c) ↔ ¬ c.Collides t := by
  cases rewires_perform h c hcount with
  | keeps hsame hrefused =>
    exact iff_of_true (indexed_same hsame hall) (not_collides_of_refused hrefused)
  | plugs hnew happears hnumbers =>
    exact iff_of_true ((indexed_appears_iff h.toLinked hall happears).mpr hnew) id
  | makes hfault happears hnumbers hdrawn =>
    rw [indexed_appears_iff h.toLinked hall happears, ← Option.not_isSome_iff_eq_none]
    exact not_congr (and_iff_right hfault).symm
  | unplugs hfound hgoes => exact iff_of_true (indexed_goes hall hfound hgoes) id
  | destroys hx hgoes =>
    exact iff_of_true (indexed_goes hall (indexed_iff.mp hall _ _ _ hx) hgoes) id

/-- **The index is exact throughout a run exactly if no software screen is made under a number
that is taken.** -/
theorem indexExact_after_iff (run : List Command) (hcount : (after run).screenIds.count ≤ 2 ^ 64) :
    (∀ beginning, beginning <+: run → IndexExact (after beginning)) ↔
      ∀ beginning c, beginning ++ [c] <+: run → ¬ c.Collides (after beginning) := by
  refine throughout_iff (Q := fun t c => ¬ c.Collides t) ?_ ?_ hcount
  · exact sound_empty.indexExact_iff.mpr indexed_empty
  · intro beginning c h hle hexact
    have hsound : Sound ((after beginning).perform c) := sound_changes (changes_outcome h c hle) h
    rw [hsound.indexExact_iff]
    exact indexed_perform_iff h (h.indexExact_iff.mp hexact) c hle

/-- A panel is refused the number of a software screen, and gets it once that is gone. -/
def replugRun : List Command :=
  [.create ⟨"a", 640, 480, 1, none⟩,
    .connect ⟨1000⟩ ⟨"dock", [⟨1920, 1080, 60⟩], 0, 1, []⟩,
    .destroy ⟨0⟩,
    .connect ⟨1000⟩ ⟨"dock", [⟨1920, 1080, 60⟩], 0, 1, []⟩,
    .create ⟨"b", 640, 480, 1, none⟩,
    .disconnect ⟨1000⟩]

theorem indexExact_after_replugRun :
    (after replugRun).screenIds.count ≤ 2 ^ 64 ∧
      ((∀ beginning, beginning <+: replugRun → IndexExact (after beginning)) ↔
        ∀ beginning c, beginning ++ [c] <+: replugRun → ¬ c.Collides (after beginning)) :=
  ⟨by decide, indexExact_after_iff replugRun (by decide)⟩

/-- A panel has the number at which the source for software screens starts. -/
def crowdedRun : List Command :=
  [.connect ⟨1000⟩ ⟨"dock", [⟨1920, 1080, 60⟩], 0, 1, []⟩, .create ⟨"a", 640, 480, 1, none⟩]

/-- Two live screens have one number, and the index leads to the later one only. -/
theorem indexExact_fails_crowdedRun :
    (∃ s s', (after crowdedRun).screen? ⟨0⟩ = some s ∧ (after crowdedRun).screen? ⟨2⟩ = some s' ∧
      s.renderId = s'.renderId) ∧
    (after crowdedRun).screenOf? ⟨1000⟩ = some ⟨2⟩ ∧ ¬ IndexExact (after crowdedRun) := by
  have hshared : ∃ s s', (after crowdedRun).screen? ⟨0⟩ = some s ∧
      (after crowdedRun).screen? ⟨2⟩ = some s' ∧ s.renderId = s'.renderId :=
    ⟨_, _, rfl, rfl, rfl⟩
  refine ⟨hshared, rfl, fun hexact => ?_⟩
  obtain ⟨s, s', hs, hs', hr⟩ := hshared
  exact absurd (hexact.eq_of_renderId hs hs' hr) (by decide)

end Topology

end DisplayServer
