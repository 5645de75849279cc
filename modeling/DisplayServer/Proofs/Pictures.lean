import DisplayServer.Proofs.DisplaysCurrent

/-!
# Which operations change the picture of a screen

The picture that a screen shows is given by its rotation and its active mode, and by the size
that these two present. Rotating a screen or switching its mode changes the picture and reports
the screen as it is then. Making a screen unique changes the picture as well where it locks the
rotation; but what agents are told of that is that the screen left its group, which quotes it as
it was before it was turned (`makeUniqueSteps_told`). No other operation changes a picture
(`Changes.setLike`).
-/

namespace DisplayServer

/-- What of a screen changes with its rotation and its mode. -/
structure Picture where
  rotation : Rotation
  activeMode : Nat
  width : Nat
  height : Nat
  deriving DecidableEq

def ScreenReport.picture (q : ScreenReport) : Picture :=
  { rotation := q.rotation
    activeMode := q.activeMode
    width := q.width
    height := q.height }

/-- The screens that an event reports as changed, by themselves or with their group. -/
def AgentEvent.reports : AgentEvent → List ScreenReport
  | screenChanged screen _ => [screen]
  | groupChanged _ screens _ => screens
  | _ => []

/-- The reports in what agents are told of a change. -/
def TopologyEvent.told (e : TopologyEvent) : List ScreenReport :=
  e.announcement?.elim [] AgentEvent.reports

/-- The event says how a screen is set that was there before. -/
def TopologyEvent.resets : TopologyEvent → Bool
  | changed _ _ | becameUnique _ _ => true
  | _ => false

namespace Screen

variable {s s' s'' : Screen}

theorem SetLike.trans (h : SetLike s s') (h' : SetLike s' s'') : SetLike s s'' := by
  obtain ⟨power, surface, parent, rfl⟩ := h
  obtain ⟨power', surface', parent', rfl⟩ := h'
  exact ⟨power', surface', parent', rfl⟩

theorem SetLike.picture (h : SetLike s s') : s'.report.picture = s.report.picture := by
  obtain ⟨power, surface, parent, rfl⟩ := h
  rfl

end Screen

namespace Topology

/-- The picture that a live screen shows. -/
def picture? (t : Topology) (x : ScreenId) : Option Picture :=
  (t.screen? x).map fun s => s.report.picture

variable {t u : Topology} {es : List TopologyEvent} {x : ScreenId} {s s' : Screen}

/-! ## Operations that leave pictures alone -/

theorem tuned_changes (hc : Changes t es u) (ht : Tuned t) : Tuned u := by
  induction hc with
  | refl => exact ht
  | tail _ hc ih => exact tuned_change hc ih

/-- Changes that do not say how screens are set leave them set as they were. -/
theorem Changes.setLike (hc : Changes t es u) (h : Sound t) (ht : Tuned t)
    (hcount : u.screenIds.count ≤ 2 ^ 64) (hes : ∀ e ∈ es, e.resets = false)
    (hs : t.screen? x = some s) (hs' : u.screen? x = some s') : s.SetLike s' := by
  induction hc generalizing s' with
  | refl =>
    rw [Option.some.inj (hs.symm.trans hs')]
    exact .refl s'
  | tail hcs hc ih =>
    rename_i mid last es fs
    obtain ⟨hes, hfs⟩ := List.forall_mem_append.mp hes
    obtain ⟨s₁, hs₁, hlike⟩ | ⟨hid, -, htold⟩ := hc.settings (tuned_changes hcs ht) hs'
    · exact (ih (Nat.le_trans hc.screenIds_le hcount) hes hs₁).trans hlike
    · cases htold with
      | connected hnew hdrawn =>
        -- the number of a screen that appears was not the number of one before
        have hnext : mid.nextScreenId.val = mid.screenIds.count := IdSource.peek_of_lt (by omega)
        have hlt := h.screen_lt x s hs
        have hle := hcs.screenIds_le
        rw [← hid, hnew] at hlt
        omega
      | becameUnique d => cases hfs _ (List.mem_singleton_self _)
      | changed change => cases hfs _ (List.mem_singleton_self _)

/-- The command may say how a screen is set. -/
def Command.resets : Command → Bool
  | makeUnique _ _ | rotate _ _ | setMode _ _ => true
  | _ => false

theorem Command.resets_of_reports {c : Command} {e : TopologyEvent} (h : c.Reports e)
    (he : e.resets = true) : c.resets = true := by
  cases c with
  | makeUnique | rotate | setMode => rfl
  | _ =>
    cases e with
    | changed => exact h.elim
    | becameUnique => exact h.elim
    | _ => cases he

theorem picture?_outcome (h : Sound t) (ht : Tuned t) {c : Command} (hc : c.resets = false)
    (hcount : (c.outcome t).topology.screenIds.count ≤ 2 ^ 64) {p p' : Picture}
    (hp : t.picture? x = some p) (hp' : (c.outcome t).topology.picture? x = some p') : p' = p := by
  obtain ⟨s, hs, rfl⟩ := Option.map_eq_some_iff.mp hp
  obtain ⟨s', hs', rfl⟩ := Option.map_eq_some_iff.mp hp'
  refine ((changes_outcome h c hcount).setLike h ht hcount ?_ hs hs').picture
  intro e he
  cases hresets : e.resets with
  | false => rfl
  | true =>
    rw [Command.resets_of_reports (reports_of_mem he) hresets] at hc
    cases hc

end Topology

/-! ## Making screens unique -/

namespace Draft

open DisplayServer.Topology

variable {d : Draft}

/-- Leaving a group changes no picture, and a screen that leaves is quoted with its picture. -/
theorem told_leave (h : Sound d.topology) (x : ScreenId) (reason : LeaveReason) :
    (∀ y, (d.leave x reason).topology.picture? y = d.topology.picture? y) ∧
      ∃ es, (d.leave x reason).events = d.events ++ es ∧
        ∀ e ∈ es, ∀ q ∈ e.told, q.id = x ∧ d.topology.picture? x = some q.picture := by
  refine ⟨?_, ?_⟩
  · intro y
    rw [picture?, screen?_leave h, picture?]
    split
    · rename_i hy
      rw [hy, Option.map_map]
      rfl
    · rfl
  · obtain ⟨-, hd⟩ | ⟨s, g, rfl, hs, -, -, hd⟩ := leave_cases h x reason
    · rw [hd]
      exact ⟨[], (List.append_nil _).symm, fun e he => nomatch he⟩
    · have hquoted : ∀ q ∈ [(s.within none).report],
          q.id = s.id ∧ d.topology.picture? s.id = some q.picture := by
        refine List.forall_mem_singleton.mpr ⟨rfl, ?_⟩
        rw [picture?, hs]
        rfl
      obtain ⟨-, hd⟩ | ⟨-, hd⟩ := hd
      · rw [hd]
        exact ⟨_, rfl, List.forall_mem_singleton.mpr hquoted⟩
      · rw [hd]
        refine ⟨_, rfl, List.forall_mem_cons.mpr ⟨hquoted, List.forall_mem_singleton.mpr ?_⟩⟩
        exact fun q hq => nomatch hq

/-- What becomes of pictures, and what is told of them, while screens are made unique. -/
structure ToldBefore (turn : UniqueRotation) (xs : List ScreenId) (d d' : Draft) : Prop where
  /-- Only a locked rotation changes pictures, and only those of the listed screens. -/
  kept : ∀ y, y ∉ xs ∨ turn.locked = false → d'.topology.picture? y = d.topology.picture? y
  /-- What is told quotes listed screens with the pictures that they had. -/
  told : ∃ es, d'.events = d.events ++ es ∧
    ∀ e ∈ es, ∀ q ∈ e.told, q.id ∈ xs ∧ d.topology.picture? q.id = some q.picture

theorem makeUniqueStep_told (h : Sound d.topology) (turn : UniqueRotation) {x : ScreenId}
    {s : Screen} (hs : d.topology.screen? x = some s) :
    ToldBefore turn [x] d (makeUniqueStep turn x d).2 := by
  obtain ⟨-, es, hes, htold⟩ := told_leave h x .madeUnique
  constructor
  · intro y hy
    rw [picture?, screen?_makeUniqueStep h turn hs, picture?]
    split
    · rename_i hyx
      have hlocked : turn.locked = false :=
        hy.resolve_left fun hnot => hnot (List.mem_singleton.mpr hyx)
      rw [hyx, hs, UniqueRotation.apply, hlocked]
      rfl
    · rfl
  · rw [makeUniqueStep_of_live h turn hs]
    refine ⟨es ++ [.becameUnique (turn.apply (s.within none)).report
      ⟨(d.leave x .madeUnique).topology.displayIds.peek⟩], ?_, ?_⟩
    · show (d.leave x .madeUnique).events ++ _ = _
      rw [hes, List.append_assoc]
    · refine List.forall_mem_append.mpr ⟨?_, List.forall_mem_singleton.mpr fun q hq => nomatch hq⟩
      intro e he q hq
      obtain ⟨hqx, hpicture⟩ := htold e he q hq
      rw [hqx]
      exact ⟨List.mem_singleton_self x, hpicture⟩

theorem makeUniqueSteps_cons {turn : UniqueRotation} {x : ScreenId} {rest : List ScreenId}
    {display : DisplayId} (hok : (makeUniqueStep turn x d).1 = .ok display) :
    (makeUniqueSteps turn (x :: rest) d).2 =
      (makeUniqueSteps turn rest (makeUniqueStep turn x d).2).2 := by
  rw [makeUniqueSteps]
  generalize makeUniqueStep turn x d = step at hok
  obtain ⟨result, d'⟩ := step
  obtain rfl : result = .ok display := hok
  simp only
  split
  · rename_i heq
    rw [heq]
  · rename_i heq
    rw [heq]

theorem makeUniqueSteps_told (turn : UniqueRotation) {xs : List ScreenId} (hxs : xs.Nodup)
    {d : Draft} (h : Sound d.topology) (hlive : ∀ x ∈ xs, ∃ s, d.topology.screen? x = some s) :
    ToldBefore turn xs d (makeUniqueSteps turn xs d).2 := by
  induction xs generalizing d with
  | nil => exact ⟨fun _ _ => rfl, [], (List.append_nil _).symm, fun e he => nomatch he⟩
  | cons x rest ih =>
    obtain ⟨hx, hrest⟩ := List.nodup_cons.mp hxs
    obtain ⟨s, hs⟩ := hlive x List.mem_cons_self
    obtain ⟨-, display, hok, -, -, hstay⟩ := makeUniqueStep_events h turn hs
    have hlive' : ∀ y ∈ rest, ∃ s, (makeUniqueStep turn x d).2.topology.screen? y = some s := by
      intro y hy
      rw [← Option.isSome_iff_exists, hstay, Option.isSome_iff_exists]
      exact hlive y (List.mem_cons_of_mem x hy)
    obtain ⟨hkept, es, hes, htold⟩ := makeUniqueStep_told h turn hs
    obtain ⟨hkept', fs, hfs, htold'⟩ :=
      ih hrest ((extends_makeUniqueStep h turn x).sound h) hlive'
    rw [makeUniqueSteps_cons hok]
    constructor
    · intro y hy
      rw [hkept' y (hy.imp_left fun hnot hm => hnot (List.mem_cons_of_mem x hm)),
        hkept y (hy.imp_left fun hnot hm => hnot (List.mem_singleton.mp hm ▸ List.mem_cons_self))]
    · refine ⟨es ++ fs, by rw [hfs, hes, List.append_assoc], ?_⟩
      refine List.forall_mem_append.mpr ⟨?_, ?_⟩
      · intro e he q hq
        obtain ⟨hqx, hpicture⟩ := htold e he q hq
        exact ⟨List.mem_singleton.mp hqx ▸ List.mem_cons_self, hpicture⟩
      · -- the screens of the rest have kept their pictures so far
        intro e he q hq
        obtain ⟨hqrest, hpicture⟩ := htold' e he q hq
        rw [hkept q.id (.inl fun hm => hx (List.mem_singleton.mp hm ▸ hqrest))] at hpicture
        exact ⟨List.mem_cons_of_mem x hqrest, hpicture⟩

end Draft

/-! ## One operation -/

namespace Topology

/-- The command turns screens while it makes them unique. -/
def Command.locks : Command → Bool
  | makeUnique _ turn => turn.locked
  | _ => false

/-- What agents are told of the events reports the screen with the picture. -/
def Tell (es : List TopologyEvent) (x : ScreenId) (p : Picture) : Prop :=
  ∃ e ∈ es, ∃ q ∈ e.told, q.id = x ∧ q.picture = p

variable {t : Topology} {x : ScreenId} {p p' : Picture}

/-- A screen that is changed by itself is reported as it then is. -/
theorem tell_changed (hp : t.picture? x = some p) {w : Screen} {change : ScreenChange}
    (hp' : (t.putScreen w).picture? x = some p') (hne : p' ≠ p) :
    Tell [.changed w.report change] x p' := by
  rw [picture?, screen?_putScreen] at hp'
  split at hp'
  · rename_i hx
    exact ⟨_, List.mem_singleton_self _, w.report, List.mem_singleton_self _, hx.symm,
      Option.some.inj hp'⟩
  · exact absurd (Option.some.inj (hp'.symm.trans hp)) hne

/-- **An operation that changes a picture tells so, unless it locks the rotation of a screen that
it makes unique.** -/
theorem tell_outcome_iff (h : Sound t) (ht : Tuned t) (c : Command)
    (hcount : (c.outcome t).topology.screenIds.count ≤ 2 ^ 64) (hp : t.picture? x = some p)
    (hp' : (c.outcome t).topology.picture? x = some p') (hne : p' ≠ p) :
    Tell (c.outcome t).events x p' ↔ c.locks = false := by
  have hrefused : t.picture? x ≠ some p' := fun hp' => hne (Option.some.inj (hp'.symm.trans hp))
  cases c with
  | rotate y rotation =>
    refine iff_of_true ?_ rfl
    simp only [Command.outcome] at hp' ⊢
    obtain ⟨e, heq⟩ | heq | ⟨w, -, -, heq⟩ := rotate_cases t y rotation
    · rw [heq] at hp'
      exact absurd hp' hrefused
    · rw [heq] at hp'
      exact absurd hp' hrefused
    · rw [heq] at hp' ⊢
      exact tell_changed hp hp' hne
  | setMode y index =>
    refine iff_of_true ?_ rfl
    simp only [Command.outcome] at hp' ⊢
    obtain ⟨e, heq⟩ | heq | ⟨w, -, -, -, heq⟩ := setMode_cases t y index
    · rw [heq] at hp'
      exact absurd hp' hrefused
    · rw [heq] at hp'
      exact absurd hp' hrefused
    · rw [heq] at hp' ⊢
      exact tell_changed hp hp' hne
  | makeUnique ids turn =>
    simp only [Command.outcome, Outcome.void] at hp' ⊢
    obtain ⟨e, heq⟩ | ⟨hlive, heq⟩ := makeUnique_cases t ids turn
    · rw [heq] at hp'
      exact absurd hp' hrefused
    · rw [heq] at hp' ⊢
      obtain ⟨hkept, es, hes, htold⟩ :=
        Draft.makeUniqueSteps_told turn (nodup_distinct ids) (d := .begin t) h hlive
      have hes : (makeUniqueSteps turn (distinct ids) (.begin t)).2.events = es := hes
      have hlocked : turn.locked = true := by
        cases hlocked : turn.locked with
        | true => rfl
        | false => exact absurd ((hkept x (.inr hlocked)).symm.trans hp') hrefused
      refine iff_of_false ?_ (by simp [Command.locks, hlocked])
      -- what was told of the screen is the picture that it had
      rintro ⟨e, he, q, hq, rfl, rfl⟩
      exact hrefused (htold e (hes ▸ he) q hq).2
  | _ => exact absurd (picture?_outcome h ht (by rfl) hcount hp hp') hne

end Topology

end DisplayServer
