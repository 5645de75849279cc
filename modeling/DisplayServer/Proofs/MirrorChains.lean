import DisplayServer.Proofs.Sources
import Mathlib.Data.Fintype.EquivFin

/-!
# When chains of mirrors end

Going from a mirrored screen to its source, and on from there, one should come to a screen that
shows something of its own. Mirroring refuses a screen as its own source, but not a source that
shows one of the listed screens through others: then the chain comes back to where it began, and
no screen on it shows anything.

All operations but mirroring only take steps of these chains away. Mirroring turns the steps of
the listed screens to the one source, so a chain comes back after it exactly if the source
reached a listed screen before (`Redirected.acyclic_iff`). As there are only finitely many
screens, chains that never come back end, and they end at live screens.
-/

namespace DisplayServer

open Relation

/-! ## Redirecting steps -/

section Redirecting

variable {α : Type} {A : α → Prop} {m : α} {old new : α → α → Prop}

/-- The points of `A` step to `m` now, and the others step where they did. -/
def Redirected (A : α → Prop) (m : α) (old new : α → α → Prop) : Prop :=
  ∀ x y, new x y ↔ (A x ∧ y = m) ∨ (¬ A x ∧ old x y)

/-- Steps that agree away from `A` lead to `A` from the same points. -/
theorem reaches_of_agree {r s : α → α → Prop} (h : ∀ x y, ¬ A x → r x y → s x y) {x a : α}
    (hxa : ReflTransGen r x a) (ha : A a) : ∃ b, A b ∧ ReflTransGen s x b := by
  induction hxa using ReflTransGen.head_induction_on with
  | refl => exact ⟨a, ha, .refl⟩
  | @head x y hxy _ ih =>
    by_cases hx : A x
    · exact ⟨x, hx, .refl⟩
    · obtain ⟨b, hb, hyb⟩ := ih
      exact ⟨b, hb, .head (h x y hx hxy) hyb⟩

/-- Where the new steps lead, the old ones lead, or the way goes through `A` and then `m`. -/
theorem Redirected.transGen_cases (h : Redirected A m old new) {x y : α}
    (hxy : TransGen new x y) :
    TransGen old x y ∨ ∃ a, A a ∧ ReflTransGen new x a ∧ ReflTransGen new m y := by
  induction hxy with
  | single hxy =>
    rcases (h _ _).mp hxy with ⟨hx, rfl⟩ | ⟨-, hold⟩
    · exact .inr ⟨x, hx, .refl, .refl⟩
    · exact .inl (.single hold)
  | @tail y z hxy hyz ih =>
    rcases (h y z).mp hyz with ⟨hy, rfl⟩ | ⟨-, hold⟩
    · exact .inr ⟨y, hy, hxy.to_reflTransGen, .refl⟩
    · rcases ih with ih | ⟨a, ha, hxa, hmy⟩
      · exact .inl (ih.tail hold)
      · exact .inr ⟨a, ha, hxa, hmy.tail hyz⟩

/-- Where nothing came back before, something comes back now exactly if `m` led into `A`. -/
theorem Redirected.acyclic_iff (h : Redirected A m old new) (hold : ∀ x, ¬ TransGen old x x) :
    (∀ x, ¬ TransGen new x x) ↔ ∀ a, A a → ¬ ReflTransGen old m a := by
  constructor
  · intro hnew a ha hma
    -- the new way from `m` goes into `A` too, and from there back to `m`
    obtain ⟨b, hb, hmb⟩ := reaches_of_agree
      (fun x y hx hxy => (h x y).mpr (.inr ⟨hx, hxy⟩)) hma ha
    exact hnew m (.tail' hmb ((h b m).mpr (.inl ⟨hb, rfl⟩)))
  · intro hnot x hxx
    rcases h.transGen_cases hxx with hxx | ⟨a, ha, hxa, hmx⟩
    · exact hold x hxx
    · -- the way back goes through `A`, so `m` leads into `A`, and did so by old steps
      obtain ⟨b, hb, hmb⟩ := reaches_of_agree
        (fun x y hx hxy => ((h x y).mp hxy).elim (fun hA => absurd hA.1 hx) And.right)
        (hmx.trans hxa) ha
      exact hnot b hb hmb

end Redirecting

namespace Topology

variable {t u : Topology}

/-- The first screen shows the picture of the second. -/
def Copies (t : Topology) (x y : ScreenId) : Prop := t.source? x = some y

/-- The screen is a child of a mirror. -/
def Mirrored (t : Topology) (x : ScreenId) : Prop :=
  ∃ g, t.parent? x = some g ∧ t.combination? g = some .mirror

/-- Going from source to source one never comes back, and comes to an end. -/
structure ChainsEnd (t : Topology) : Prop where
  /-- No chain of sources comes back to a screen that it has passed. -/
  acyclic : ∀ x, ¬ TransGen t.Copies x x
  /-- The chain of every live screen ends at a live screen that is not mirrored. -/
  ends : ∀ x s, t.screen? x = some s →
    ∃ y s', ReflTransGen t.Copies x y ∧ t.screen? y = some s' ∧ ¬ t.Mirrored y

theorem Copies.mirrored {x y : ScreenId} (h : t.Copies x y) : t.Mirrored x := by
  obtain ⟨g, grp, hp, hg, hm⟩ := mirror_of_source? h
  refine ⟨g, hp, ?_⟩
  rw [combination?, hg, Option.map_some, (isMirrorOf_iff.mp hm).1]

theorem Formed.copies_of_mirrored (h : Formed t) {x : ScreenId} (hx : t.Mirrored x) :
    ∃ y, t.Copies x y := by
  obtain ⟨g, hp, hmirror⟩ := hx
  obtain ⟨grp, hg, hcombination⟩ := Option.map_eq_some_iff.mp hmirror
  obtain ⟨y, hy⟩ := h.main g grp hg
  refine ⟨y, (source?_of_parent? hp).trans ((shown?_of_group? hg).trans ?_)⟩
  rw [ScreenGroup.source?, if_pos hcombination, hy]

/-! ## Chains that never come back end -/

/-- Numbers that have been drawn are finitely many. -/
theorem finite_drawn (n : Nat) : Finite {x : ScreenId // x.val < n} :=
  Finite.of_injective (fun x => (⟨x.val.val, x.property⟩ : Fin n)) fun x y hxy => by
    obtain ⟨⟨x⟩, hx⟩ := x
    obtain ⟨⟨y⟩, hy⟩ := y
    simpa using hxy

/-- Steps from source to source cannot go on for ever without coming back. -/
theorem wellFounded_copies (n : Nat) (h : ∀ x, ¬ TransGen t.Copies x x) :
    WellFounded fun y x : {x : ScreenId // x.val < n} => t.Copies x.val y.val := by
  have := finite_drawn n
  have htrans : IsTrans {x : ScreenId // x.val < n} fun y x => TransGen t.Copies x.val y.val :=
    ⟨fun _ _ _ hyx hzy => hzy.trans hyx⟩
  have hirrefl : Std.Irrefl fun y x : {x : ScreenId // x.val < n} =>
      TransGen t.Copies x.val y.val :=
    ⟨fun x => h x.val⟩
  exact Subrelation.wf (fun hxy => TransGen.single hxy)
    (Finite.wellFounded_of_trans_of_irrefl fun y x : {x : ScreenId // x.val < n} =>
      TransGen t.Copies x.val y.val)

theorem chainsEnd_of_acyclic (h : Sound t) (hformed : Formed t) (hlive : SourcesLive t)
    (hacyclic : ∀ x, ¬ TransGen t.Copies x x) : ChainsEnd t where
  acyclic := hacyclic
  ends := by
    have hends : ∀ x : {x : ScreenId // x.val < t.screenIds.count}, ∀ s,
        t.screen? x.val = some s →
        ∃ y s', ReflTransGen t.Copies x.val y ∧ t.screen? y = some s' ∧ ¬ t.Mirrored y := by
      intro x
      induction x using (wellFounded_copies t.screenIds.count hacyclic).induction with
      | _ x ih =>
        intro s hs
        by_cases hx : t.Mirrored x.val
        · obtain ⟨y, hxy⟩ := hformed.copies_of_mirrored hx
          -- the source is live, and its chain ends
          obtain ⟨s', hs'⟩ := hlive x.val y hxy
          obtain ⟨z, s'', hyz, hz⟩ := ih ⟨y, h.screen_lt y s' hs'⟩ hxy s' hs'
          exact ⟨z, s'', .head hxy hyz, hz⟩
        · exact ⟨x.val, s, .refl, hs, hx⟩
    exact fun x s hs => hends ⟨x, h.screen_lt x s hs⟩ s hs

/-- A source is on a chain that ends at a live screen, so it is live itself. -/
theorem ChainsEnd.sourcesLive (h : ChainsEnd t) : SourcesLive t := by
  intro x y hxy
  obtain ⟨s, hs⟩ := live_of_source? hxy
  obtain ⟨z, s', hxz, hz, hnot⟩ := h.ends x s hs
  rcases hxz.cases_head with rfl | ⟨y', hxy', hyz⟩
  · exact absurd (Copies.mirrored hxy) hnot
  · obtain rfl := Option.some.inj (hxy.symm.trans hxy')
    rcases hyz.cases_head with rfl | ⟨w, hyw, -⟩
    · exact ⟨s', hz⟩
    · exact live_of_source? hyw

/-! ## Operations and runs -/

/-- A mirroring is granted whose source shows one of the listed screens, itself or through
others. -/
def Command.Entangles (t : Topology) : Command → Prop
  | mirror main ids => (t.mirror main ids).result.isOk ∧ ∃ y ∈ ids, ReflTransGen t.Copies main y
  | _ => False

theorem acyclic_mirror_iff (h : Sound t) (hacyclic : ∀ x, ¬ TransGen t.Copies x x)
    (main : ScreenId) (ids : List ScreenId)
    (hcount : (t.mirror main ids).topology.screenIds.count ≤ 2 ^ 64) :
    (∀ x, ¬ TransGen (t.mirror main ids).topology.Copies x x) ↔
      ¬ (Command.mirror main ids).Entangles t := by
  obtain ⟨e, hd⟩ | ⟨hok, -⟩ := mirror_granted t main ids
  · rw [hd]
    refine iff_of_true hacyclic ?_
    rintro ⟨hok, -⟩
    rw [hd] at hok
    cases hok
  · have hredirected :
        Redirected (· ∈ ids) main t.Copies (t.mirror main ids).topology.Copies := by
      intro x y
      rw [Copies, source?_mirror h hcount hok]
      by_cases hx : x ∈ ids
      · simp [hx, eq_comm]
      · simp [hx, Copies]
    rw [hredirected.acyclic_iff hacyclic]
    constructor
    · rintro hnot ⟨-, y, hy, hreach⟩
      exact hnot y hy hreach
    · exact fun hnot y hy hreach => hnot ⟨hok, y, hy, hreach⟩

theorem acyclic_perform_iff (h : Sound t) (hformed : Formed t)
    (hacyclic : ∀ x, ¬ TransGen t.Copies x x) (c : Command)
    (hcount : (t.perform c).screenIds.count ≤ 2 ^ 64) :
    (∀ x, ¬ TransGen (t.perform c).Copies x x) ↔ ¬ c.Entangles t := by
  have hfewer : (∀ main ids, c ≠ .mirror main ids) →
      ∀ x, ¬ TransGen (t.perform c).Copies x x :=
    fun hc x hxx => hacyclic x
      (TransGen.mono (fun _ _ hy => source?_outcome h hformed hcount hc hy) _ _ hxx)
  cases c with
  | mirror main ids => exact acyclic_mirror_iff h hacyclic main ids hcount
  | _ => exact iff_of_true (hfewer fun _ _ => Command.noConfusion) id

/-- **Throughout a run chains of sources end exactly if no mirroring is granted whose source
shows one of the listed screens, itself or through others.** -/
theorem chainsEnd_after_iff (run : List Command) (hcount : (after run).screenIds.count ≤ 2 ^ 64) :
    (∀ beginning, beginning <+: run → ChainsEnd (after beginning)) ↔
      ∀ beginning c, beginning ++ [c] <+: run → ¬ c.Entangles (after beginning) := by
  refine throughout_iff (Q := fun t c => ¬ c.Entangles t) ?_ ?_ hcount
  · refine chainsEnd_of_acyclic sound_empty (formed_after [] (by decide)) ?_ ?_
    · intro x y hxy
      cases hxy
    · intro x hxx
      obtain ⟨y, hxy, -⟩ := TransGen.head'_iff.mp hxx
      cases hxy
  · intro beginning c h hle hends
    have hformed := formed_after beginning
      (Nat.le_trans (screenIds_le_run (after beginning) [c]) hle)
    have hchanges := changes_outcome h c hle
    rw [← acyclic_perform_iff h hformed hends.acyclic c hle]
    constructor
    · exact ChainsEnd.acyclic
    · exact chainsEnd_of_acyclic (sound_changes hchanges h) (formed_changes hchanges h hformed)
        (sourcesLive_perform h hformed hends.sourcesLive c hle)

/-- A screen that is mirrored comes to mirror another one, so that a chain of two steps arises;
then the screen at its beginning is turned to the screen at its end. -/
def relayedRun : List Command :=
  [.connect ⟨0⟩ ⟨"builtin", [⟨1080, 2340, 60⟩], 0, 2, []⟩,
    .create ⟨"a", 640, 480, 1, none⟩,
    .create ⟨"b", 640, 480, 1, none⟩,
    .mirror ⟨2⟩ [⟨3⟩],
    .mirror ⟨0⟩ [⟨2⟩],
    .mirror ⟨0⟩ [⟨3⟩]]

theorem chainsEnd_after_relayedRun :
    (after relayedRun).screenIds.count ≤ 2 ^ 64 ∧
      ((∀ beginning, beginning <+: relayedRun → ChainsEnd (after beginning)) ↔
        ∀ beginning c, beginning ++ [c] <+: relayedRun → ¬ c.Entangles (after beginning)) :=
  ⟨by decide, chainsEnd_after_iff relayedRun (by decide)⟩

/-- Two screens, each of which is asked to show the other. -/
def crossedRun : List Command :=
  [.create ⟨"a", 640, 480, 1, none⟩,
    .create ⟨"b", 640, 480, 1, none⟩,
    .mirror ⟨0⟩ [⟨1⟩],
    .mirror ⟨1⟩ [⟨0⟩]]

/-- Either screen is the source of the other one, and so of itself. -/
theorem chainsEnd_fails_crossedRun :
    (after crossedRun).source? ⟨0⟩ = some ⟨1⟩ ∧ (after crossedRun).source? ⟨1⟩ = some ⟨0⟩ ∧
      ¬ ChainsEnd (after crossedRun) := by
  have hfirst : (after crossedRun).source? ⟨0⟩ = some ⟨1⟩ := by decide
  have hsecond : (after crossedRun).source? ⟨1⟩ = some ⟨0⟩ := by decide
  exact ⟨hfirst, hsecond, fun h => h.acyclic ⟨0⟩ (.tail (.single hfirst) hsecond)⟩

end Topology

end DisplayServer
