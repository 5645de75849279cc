import DisplayServer.Proofs.Lookup
import DisplayServer.Proofs.Positive
import DisplayServer.Proofs.Writes
import DisplayServer.Registry

/-!
# Steps of the registry tell what they write

Whoever writes down what a step of the registry tells, starting from the display records before
the step, has the records after it (`Published`). Events are told in the order of the writing,
and each carries what was written.

One write is silent: a record that is read again from its screen is told only if an observer
sees a difference, and measures are compared as numbers. Nothing is lost by that, because the
pixel ratios of screens are positive, where comparison decides equality, and the density of a
display is computed from its ratio (`eq_of_looksLike`).
-/

namespace DisplayServer

/-- The kinds of events that tell of display records. -/
def displayKinds : List AgentKind := [.display, .displayState, .availableArea]

/-- What a listener makes of an event: its map from displays to their records. -/
def AgentEvent.writeDown (t : Table DisplayId Display) : AgentEvent → Table DisplayId Display
  | displayCreated display => t.insert display.id display
  | displayDestroyed display => t.erase display
  | displayChanged display _ => t.insert display.id display
  | displayStateChanged state displays =>
    displays.foldl (fun t id => t.modify id fun d => { d with state }) t
  | availableAreaChanged display area => t.modify display fun d => { d with availableArea := area }
  | displayPower _ _ _ => t
  | screenConnected _ => t
  | screenDisconnected _ => t
  | screenChanged _ _ => t
  | groupChanged _ _ _ => t
  | foldStatusChanged _ => t
  | foldDisplayModeChanged _ => t

/-- What a listener has after several events. -/
def writeDownAll (t : Table DisplayId Display) (es : List AgentEvent) : Table DisplayId Display :=
  es.foldl AgentEvent.writeDown t

theorem writeDownAll_append (t : Table DisplayId Display) (es fs : List AgentEvent) :
    writeDownAll t (es ++ fs) = writeDownAll (writeDownAll t es) fs :=
  List.foldl_append

/-- Other events write nothing. -/
theorem writeDown_of_kind {e : AgentEvent} (h : e.kind ∉ displayKinds)
    (t : Table DisplayId Display) : e.writeDown t = t := by
  cases e <;> first | rfl | exact absurd (by simp [AgentEvent.kind, displayKinds]) h

theorem writeDownAll_of_kinds {es : List AgentEvent} (h : ∀ e ∈ es, e.kind ∉ displayKinds)
    (t : Table DisplayId Display) : writeDownAll t es = t := by
  induction es with
  | nil => rfl
  | cons e rest ih =>
    obtain ⟨he, hrest⟩ := List.forall_mem_cons.mp h
    show writeDownAll (e.writeDown t) rest = t
    rw [writeDown_of_kind he]
    exact ih hrest

/-- So what is written depends on the events of displays alone. -/
theorem writeDownAll_filter (es : List AgentEvent) (t : Table DisplayId Display) :
    writeDownAll t (es.filter (·.kind ∈ displayKinds)) = writeDownAll t es := by
  induction es generalizing t with
  | nil => rfl
  | cons e rest ih =>
    by_cases he : e.kind ∈ displayKinds
    · rw [List.filter_cons_of_pos (by simpa using he)]
      exact ih _
    · rw [List.filter_cons_of_neg (by simpa using he)]
      show _ = writeDownAll (e.writeDown t) rest
      rw [writeDown_of_kind he]
      exact ih t

/-- An update that changes nothing when it is made twice may be made key by key. -/
theorem foldl_modify_keys (t : Table DisplayId Display) {f : Display → Display}
    (hf : ∀ d, f (f d) = f d) :
    t.keys.foldl (fun t k => t.modify k f) t = t.map f := by
  have hkeys : ∀ (ks : List DisplayId) (u : Table DisplayId Display) (x : DisplayId),
      (ks.foldl (fun t k => t.modify k f) u).get? x =
        if x ∈ ks then (u.get? x).map f else u.get? x := by
    intro ks
    induction ks with
    | nil =>
      intro u x
      rw [if_neg List.not_mem_nil]
      rfl
    | cons k rest ih =>
      intro u x
      rw [List.foldl_cons, ih, Table.get?_modify_ite]
      -- a key may come again, and then the update is made twice
      by_cases hx : x = k
      · subst hx
        rw [if_pos rfl, if_pos List.mem_cons_self, Option.map_map]
        split
        · cases u.get? x with
          | none => rfl
          | some d => exact congrArg some (hf d)
        · rfl
      · have hmem : x ∈ k :: rest ↔ x ∈ rest := by
          rw [List.mem_cons]
          exact ⟨fun hm => hm.resolve_left hx, .inr⟩
        simp only [if_neg hx, hmem]
  refine Table.ext_get? fun x => ?_
  rw [hkeys, Table.get?_map]
  split
  · rfl
  · rename_i hx
    cases hd : t.get? x with
    | none => rfl
    | some d => exact absurd ((t.mem_keys_iff x).mpr ⟨d, hd⟩) hx

namespace Registry

/-! ## Records -/

/-- A record whose ratio is positive and whose density goes with it. -/
structure Measured (d : Display) : Prop where
  /-- The ratio was checked when the screen was made. -/
  ratio : 0 < d.pixelRatio
  /-- The density is computed from the ratio. -/
  dpi : d.dpi = d.pixelRatio * baselineDensity

/-- Records of which an observer sees no difference are equal. -/
theorem eq_of_looksLike {a b : Display} (ha : Measured a) (hb : Measured b)
    (h : a.looksLike b = true) : a = b := by
  obtain ⟨hratio, hdpi⟩ := ha
  obtain ⟨-, hdpi'⟩ := hb
  simp only [Display.looksLike, Bool.and_eq_true] at h
  obtain ⟨⟨⟨⟨⟨⟨⟨⟨⟨⟨⟨⟨⟨⟨hid, hscreen⟩, hname⟩, hwidth⟩, hheight⟩, hpw⟩, hph⟩, hrate⟩, hpr⟩, -⟩,
    hrotation⟩, horientation⟩, hstate⟩, halive⟩, harea⟩ := h
  -- the comparison of densities is dropped: they follow from the ratios
  have hpr := Measure.eq_of_beq_of_pos hratio hpr
  have hd : a.dpi = b.dpi := by
    rw [hdpi, hdpi', hpr]
  cases a
  cases b
  simp_all only [beq_iff_eq]

/-- The registry keeps records under their own numbers, and each is measured. -/
structure Kept (r : Registry) : Prop where
  /-- A record stands under its own number. -/
  id : ∀ k d, r.displays.get? k = some d → d.id = k
  /-- A record is measured. -/
  measured : ∀ k d, r.displays.get? k = some d → Measured d

theorem kept_empty (capability : FoldCapability) : Kept (empty capability) where
  id := by intro k d h; simp [empty] at h
  measured := by intro k d h; simp [empty] at h

/-- Everything about displays that a step wrote is in the events it tells, in order. -/
structure Published (r : Registry) (es : List AgentEvent) (r' : Registry) : Prop where
  /-- The registry is in order after the step. -/
  kept : Kept r'
  /-- The events give the records after the step. -/
  same : writeDownAll r.displays es = r'.displays

variable {r r' : Registry}

theorem kept_insert (h : Kept r) {d : Display} {k : DisplayId} (hk : d.id = k) (hd : Measured d)
    (hr : r'.displays = r.displays.insert k d) : Kept r' := by
  constructor
  · intro x v hv
    rw [hr, Table.get?_insert_ite] at hv
    split at hv
    · rename_i hx
      rw [← Option.some.inj hv, hk, hx]
    · exact h.id x v hv
  · intro x v hv
    rw [hr, Table.get?_insert_ite] at hv
    split at hv
    · rw [← Option.some.inj hv]
      exact hd
    · exact h.measured x v hv

theorem kept_congr (h : Kept r) (hr : r'.displays = r.displays) : Kept r' := by
  constructor
  · rw [hr]; exact h.id
  · rw [hr]; exact h.measured

/-- A step that writes no record and tells of none. -/
theorem published_quiet (h : Kept r) {es : List AgentEvent} (hr : r'.displays = r.displays)
    (hes : ∀ e ∈ es, e.kind ∉ displayKinds) : Published r es r' :=
  ⟨kept_congr h hr, (writeDownAll_of_kinds hes _).trans hr.symm⟩

theorem Published.refl (h : Kept r) : Published r [] r :=
  ⟨h, rfl⟩

theorem Published.trans {r'' : Registry} {es fs : List AgentEvent} (h : Published r es r')
    (h' : Published r' fs r'') : Published r (es ++ fs) r'' := by
  refine ⟨h'.kept, ?_⟩
  rw [writeDownAll_append, h.same]
  exact h'.same

/-- The display of a screen, with its number. -/
theorem displayOf?_kept (h : Kept r) {s : ScreenId} {d : Display} (hd : r.displayOf? s = some d) :
    r.displays.get? d.id = some d := by
  obtain ⟨k, -, hk⟩ := Option.bind_eq_some_iff.mp hd
  rw [h.id k d hk]
  exact hk

/-! ## Following the topology -/

theorem measured_ofScreen (k : DisplayId) {s : ScreenReport} (hs : 0 < s.pixelRatio) :
    Measured (Display.ofScreen k s) where
  ratio := hs
  dpi := by simp only [Display.ofScreen]

theorem published_create (h : Kept r) (k : DisplayId) {s : ScreenReport}
    (hs : 0 < s.pixelRatio) : Published r (r.create k s).2 (r.create k s).1 := by
  obtain ⟨hratio, hdpi⟩ := measured_ofScreen k hs
  have hd : Measured { Display.ofScreen k s with state := r.state } := ⟨hratio, hdpi⟩
  have hwritten : (r.create k s).1.displays =
      r.displays.insert k { Display.ofScreen k s with state := r.state } := by
    simp only [create]
  refine ⟨kept_insert h (by simp only [Display.ofScreen]) hd hwritten, ?_⟩
  simp only [create, writeDownAll, List.foldl_cons, List.foldl_nil, AgentEvent.writeDown,
    Display.ofScreen]

theorem published_remove (h : Kept r) (s : ScreenId) :
    Published r (r.remove s).2 (r.remove s).1 := by
  unfold remove
  cases r.bindings.get? s with
  | none => exact Published.refl h
  | some k =>
    refine ⟨⟨?_, ?_⟩, rfl⟩
    · intro x d hd
      simp only [Table.get?_erase_ite] at hd
      split at hd
      · cases hd
      · exact h.id x d hd
    · intro x d hd
      simp only [Table.get?_erase_ite] at hd
      split at hd
      · cases hd
      · exact h.measured x d hd

theorem published_ensure (h : Kept r) (ids : IdSource) {s : ScreenReport}
    (hs : 0 < s.pixelRatio) : Published r (r.ensure ids s).2.2 (r.ensure ids s).1 := by
  unfold ensure
  split
  · exact Published.refl h
  · exact published_create h _ hs

/-- A record that is read again is told if an observer sees a difference, and is the same
otherwise. -/
theorem published_refresh (h : Kept r) {s : ScreenReport} (hs : 0 < s.pixelRatio)
    (change : ScreenChange) : Published r (r.refresh s change).2 (r.refresh s change).1 := by
  unfold refresh
  cases hd : r.displayOf? s.id with
  | none => exact Published.refl h
  | some d =>
    have hget := displayOf?_kept h hd
    have hfresh : Measured (d.refreshed s) := ⟨hs, rfl⟩
    refine ⟨kept_insert h (d := d.refreshed s) (by rfl) hfresh (by rfl), ?_⟩
    by_cases hchange : d.changesWith s = true
    · simp only [if_pos hchange]
      rfl
    · -- nothing is told, so the record read again has to be the one that was there
      simp only [if_neg hchange]
      have hlike : (d.refreshed s).looksLike d = true := by
        simpa [Display.changesWith] using hchange
      rw [eq_of_looksLike hfresh (h.measured d.id d hget) hlike]
      exact (Table.insert_eq_self hget).symm

theorem published_follow (h : Kept r) (ids : IdSource) {e : TopologyEvent}
    (he : ∀ s, e.screen? = some s → 0 < s.pixelRatio) :
    Published r (r.follow ids e).2.2 (r.follow ids e).1 := by
  have hquiet : Published r [] r := .refl h
  cases e with
  | connected s => exact hquiet
  | groupDissolved g => exact hquiet
  | disconnected s => exact published_remove h s
  | changed s change => exact published_refresh h (he s rfl) change
  -- the old display is told to be gone before the new one is told of
  | becameUnique s k =>
    exact (published_remove h s.id).trans
      (published_create (published_remove h s.id).kept k (he s rfl))
  | joinedGroup s g =>
    cases hg : g.combination with
    | mirror =>
      simp only [follow, hg]
      exact published_remove h s.id
    | alone =>
      simp only [follow, hg]
      exact published_ensure h ids (he s rfl)
    | expand =>
      simp only [follow, hg]
      exact published_ensure h ids (he s rfl)
  | leftGroup s g reason =>
    simp only [follow]
    split
    · exact published_ensure h ids (he s rfl)
    · exact hquiet

/-! ## Updates by clients -/

theorem published_setAvailableArea (h : Kept r) (s : ScreenId) (area : Rect) :
    Published r (r.setAvailableArea s area).events (r.setAvailableArea s area).registry := by
  unfold setAvailableArea updateDisplay
  cases hd : r.displayOf? s with
  | none => exact Published.refl h
  | some d =>
    have hget := displayOf?_kept h hd
    obtain ⟨hratio, hdpi⟩ := h.measured d.id d hget
    refine ⟨kept_insert h (d := { d with availableArea := area }) (by rfl) ⟨hratio, hdpi⟩
      (by rfl), ?_⟩
    -- the listener updates the record that it has, which is the same one
    refine Table.ext_get? fun x => ?_
    show (r.displays.modify d.id fun d => { d with availableArea := area }).get? x =
      (r.displays.insert d.id { d with availableArea := area }).get? x
    rw [Table.get?_modify_ite, Table.get?_insert_ite]
    split
    · rename_i hx
      rw [hx, hget]
      rfl
    · rfl

theorem published_overrideRotation (h : Kept r) (s : ScreenId) (rotation : Rotation)
    (width height : Nat) :
    Published r (r.overrideRotation s rotation width height).events
      (r.overrideRotation s rotation width height).registry := by
  unfold overrideRotation updateDisplay
  cases hd : r.displayOf? s with
  | none => exact Published.refl h
  | some d =>
    obtain ⟨hratio, hdpi⟩ := h.measured d.id d (displayOf?_kept h hd)
    have hturned : ∀ w h v v' : Nat, Measured
        { d with rotation, width := w, height := h, physicalWidth := v, physicalHeight := v' } :=
      fun _ _ _ _ => ⟨hratio, hdpi⟩
    exact ⟨kept_insert h (by rfl) (hturned width height _ _) (by rfl), rfl⟩

theorem published_setState (h : Kept r) (state : DisplayState) :
    Published r (r.setState state).events (r.setState state).registry := by
  unfold setState
  split
  · exact Published.refl h
  · refine ⟨⟨?_, ?_⟩, ?_⟩
    · intro k d hd
      simp only [Table.get?_map, Option.map_eq_some_iff] at hd
      obtain ⟨old, hold, rfl⟩ := hd
      exact h.id k old hold
    · intro k d hd
      simp only [Table.get?_map, Option.map_eq_some_iff] at hd
      obtain ⟨old, hold, rfl⟩ := hd
      obtain ⟨hratio, hdpi⟩ := h.measured k old hold
      exact ⟨hratio, hdpi⟩
    · -- the event lists all displays, and the listener sets them one by one
      exact foldl_modify_keys r.displays fun d => rfl

/-- Folding tells of the posture only. -/
theorem published_fold (h : Kept r) {step : Posture → Posture × List AgentEvent}
    (hstep : ∀ p, ∀ e ∈ (step p).2, e.kind ∉ displayKinds) :
    Published r (r.fold step).events (r.fold step).registry := by
  unfold fold
  split
  · exact published_quiet h rfl (hstep r.posture)
  · exact Published.refl h

theorem kinds_reveal (p : Posture) (status : FoldStatus) :
    ∀ e ∈ (p.reveal status).2, e.kind ∉ displayKinds := by
  intro e he
  unfold Posture.reveal at he
  split at he
  · cases he
  · rw [List.mem_singleton.mp he]
    simp [AgentEvent.kind, displayKinds]

theorem kinds_sense (reading : FoldStatus) (p : Posture) :
    ∀ e ∈ (p.sense reading).2, e.kind ∉ displayKinds := by
  unfold Posture.sense
  simp only
  split
  · exact fun e he => (List.not_mem_nil he).elim
  · exact kinds_reveal _ reading

theorem kinds_force (mode : FoldDisplayMode) (implied : FoldStatus) (p : Posture) :
    ∀ e ∈ (p.force mode implied).2, e.kind ∉ displayKinds := by
  have hmode : ∀ e ∈ (if p.mode = mode then [] else [AgentEvent.foldDisplayModeChanged mode]),
      e.kind ∉ displayKinds := by
    intro e he
    split at he
    · cases he
    · rw [List.mem_singleton.mp he]
      simp [AgentEvent.kind, displayKinds]
  unfold Posture.force
  simp only
  split
  · exact hmode
  · intro e he
    rcases List.mem_append.mp he with he | he
    · exact hmode e he
    · exact kinds_reveal _ implied e he

theorem published_forceFoldMode (h : Kept r) (mode : FoldDisplayMode) :
    Published r (r.forceFoldMode mode).events (r.forceFoldMode mode).registry := by
  unfold forceFoldMode
  split
  · cases mode.impliedStatus with
    | none => exact Published.refl h
    | some implied => exact published_fold h (kinds_force mode implied)
  · exact Published.refl h

end Registry

end DisplayServer
