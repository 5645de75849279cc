import DisplayServer.Proofs.SessionRuns

/-!
# When both ends of a dialog's link agree

A dialog names its parent, and the parent lists its dialogs. Opening and removing windows write
both ends. So does binding, but only those of the new link: a dialog that another window lists
stays listed there, although it names its new parent, and removing it takes it out of the new
parent's list only.

So the links agree throughout a run exactly if no dialog of the run is bound to one window while
another lists it.
-/

namespace DisplayServer

namespace Windows

/-- The parent of a window that is there. -/
def parent? (w : Windows) (id : SessionId) : Option SessionId := (w.session? id).bind (·.parent)

/-- What is listed is there, and names the window that lists it. -/
def Linked (w : Windows) : Prop := ∀ p d, d ∈ w.dialogsOf p → w.parent? d = some p

/-- The links between windows and dialogs agree. -/
structure LinksAgree (w : Windows) : Prop where
  /-- What is listed is there, and names the window that lists it. -/
  bound : ∀ p d, d ∈ w.dialogsOf p → ∃ s, w.session? d = some s ∧ s.parent = some p
  /-- No window lists a dialog twice. -/
  once : ∀ p, (w.dialogsOf p).Nodup
  /-- No two windows list one dialog. -/
  one_parent : ∀ p q d, d ∈ w.dialogsOf p → d ∈ w.dialogsOf q → p = q
  /-- Nobody lists a window once it is removed. -/
  removed : ∀ d p, d ∉ (w.remove d).windows.dialogsOf p

variable {w w' : Windows}

/-! ## Look-ups after a write -/

theorem parent?_eq_some_iff {d p : SessionId} :
    w.parent? d = some p ↔ ∃ s, w.session? d = some s ∧ s.parent = some p :=
  Option.bind_eq_some_iff

theorem dialogsOf_eq (w : Windows) (p : SessionId) :
    w.dialogsOf p = ((w.session? p).map (·.dialogs)).getD [] := by
  unfold dialogsOf
  cases w.session? p <;> rfl

theorem dialogsOf_of_same (h : SamePlaces w w') (p : SessionId) :
    w'.dialogsOf p = w.dialogsOf p := by
  have hp := congrArg (fun o => (o.map fun place => place.2.2).getD []) (h p)
  simpa [dialogsOf_eq, Option.map_map, Function.comp_def, Session.place] using hp

theorem parent?_of_same (h : SamePlaces w w') (d : SessionId) : w'.parent? d = w.parent? d := by
  have hd := congrArg (fun o => o.bind fun place => place.2.1) (h d)
  simpa [parent?, Option.bind_map, Function.comp_def, Session.place] using hd

theorem dialogsOf_opened {s : Session} (hs : s.dialogs = []) (w : Windows) (p : SessionId) :
    (w.opened s).dialogsOf p = if p = s.id then [] else w.dialogsOf p := by
  rw [dialogsOf_eq, session?_opened]
  split
  · exact hs
  · exact (dialogsOf_eq w p).symm

theorem parent?_opened (w : Windows) (s : Session) (d : SessionId) :
    (w.opened s).parent? d = if d = s.id then s.parent else w.parent? d := by
  rw [parent?, session?_opened]
  split <;> rfl

theorem dialogsOf_link {parent : SessionId} (hparent : (w.session? parent).isSome)
    (dialog p : SessionId) :
    (w.link parent dialog).dialogsOf p =
      if p = parent ∧ dialog ∉ w.dialogsOf p then w.dialogsOf p ++ [dialog] else w.dialogsOf p := by
  rw [dialogsOf_eq, session?_link, dialogsOf_eq]
  cases hp : w.session? p with
  | none =>
    have hne : p ≠ parent := by
      rintro rfl
      rw [hp] at hparent
      cases hparent
    simp [hne]
  | some s => rfl

theorem parent?_link {dialog : SessionId} (hdialog : (w.session? dialog).isSome)
    (parent d : SessionId) :
    (w.link parent dialog).parent? d = if d = dialog then some parent else w.parent? d := by
  rw [parent?, session?_link, parent?]
  cases hd : w.session? d with
  | none =>
    have hne : d ≠ dialog := by
      rintro rfl
      rw [hd] at hdialog
      cases hdialog
    simp [hne]
  | some s => rfl

theorem dialogsOf_without (w : Windows) (s : Session) (id p : SessionId) :
    (w.without s id).dialogsOf p =
      if p = id then [] else
        if s.parent = some p then (w.dialogsOf p).filter (· ≠ id) else w.dialogsOf p := by
  rw [dialogsOf_eq, session?_without, dialogsOf_eq]
  split
  · rfl
  · cases w.session? p with
    | none => simp
    | some other => split <;> rfl

theorem parent?_without (w : Windows) (s : Session) (id d : SessionId) :
    (w.without s id).parent? d = if d = id then none else w.parent? d := by
  rw [parent?, session?_without]
  split
  · rfl
  · rw [parent?, Option.bind_map]
    rfl

theorem isSome_opened {p : SessionId} (hp : (w.session? p).isSome) (s : Session) :
    ((w.opened s).session? p).isSome := by
  rw [session?_opened]
  split
  · rfl
  · exact hp

/-! ## No window lists a dialog twice -/

theorem nodup_dialogsOf_link (h : ∀ p, (w.dialogsOf p).Nodup) {parent : SessionId}
    (hparent : (w.session? parent).isSome) (dialog p : SessionId) :
    ((w.link parent dialog).dialogsOf p).Nodup := by
  rw [dialogsOf_link hparent]
  split
  · rename_i hnew
    have hapart : ∀ a ∈ w.dialogsOf p, ∀ b ∈ [dialog], a ≠ b := by
      intro a ha b hb heq
      rw [List.mem_singleton.mp hb] at heq
      exact hnew.2 (heq ▸ ha)
    exact List.nodup_append.mpr ⟨h p, by simp, hapart⟩
  · exact h p

theorem nodup_dialogsOf_opened (h : ∀ p, (w.dialogsOf p).Nodup) {s : Session}
    (hs : s.dialogs = []) (p : SessionId) : ((w.opened s).dialogsOf p).Nodup := by
  rw [dialogsOf_opened hs]
  split
  · exact List.nodup_nil
  · exact h p

theorem nodup_dialogsOf_perform (h : ∀ p, (w.dialogsOf p).Nodup) (c : Command) (p : SessionId) :
    ((w.perform c).dialogsOf p).Nodup := by
  have hc := becomes_perform w c
  generalize w.perform c = w' at hc
  cases hc with
  | stay _ _ hsame _ =>
    rw [dialogsOf_of_same hsame]
    exact h p
  | opened name type parent => exact nodup_dialogsOf_opened h rfl p
  | bound name q hq =>
    exact nodup_dialogsOf_link (nodup_dialogsOf_opened h rfl) (isSome_opened hq _) _ p
  | linked parent dialog _ hparent => exact nodup_dialogsOf_link h hparent dialog p
  | removed id s _ =>
    rw [dialogsOf_without]
    split
    · exact List.nodup_nil
    · split
      · exact (h p).filter _
      · exact h p

theorem nodup_dialogsOf_after (first : Int) (run : List Command) (p : SessionId) :
    ((after first run).dialogsOf p).Nodup := by
  induction run using List.reverseRecOn generalizing p with
  | nil => exact List.nodup_nil
  | append_singleton before c ih =>
    rw [after_concat]
    exact nodup_dialogsOf_perform ih c p

/-! ## What is listed names the window that lists it -/

theorem linked_of_same (h : Linked w) (hsame : SamePlaces w w') : Linked w' := by
  intro p d hd
  rw [dialogsOf_of_same hsame] at hd
  rw [parent?_of_same hsame]
  exact h p d hd

theorem linked_opened (h : Linked w) (hn : Numbered w) {s : Session} (hs : s.dialogs = [])
    (hid : s.id = w.nextSessionId) : Linked (w.opened s) := by
  intro p d hd
  rw [dialogsOf_opened hs] at hd
  split at hd
  · cases hd
  · have hparent := h p d hd
    obtain ⟨t, ht, -⟩ := parent?_eq_some_iff.mp hparent
    have hold : d ≠ s.id := by
      rintro rfl
      have hlt := hn.below _ t ht
      rw [hid] at hlt
      omega
    rw [parent?_opened, if_neg hold]
    exact hparent

theorem linked_without (h : Linked w) {id : SessionId} {s : Session} (hs : w.session? id = some s) :
    Linked (w.without s id) := by
  intro p d hd
  rw [dialogsOf_without] at hd
  split at hd
  · cases hd
  · -- its own parent has taken it out of the list, and nobody else listed it
    have hlisted : d ∈ w.dialogsOf p ∧ (s.parent = some p → d ≠ id) := by
      split at hd
      · obtain ⟨hmem, hne⟩ := List.mem_filter.mp hd
        exact ⟨hmem, fun _ => by simpa using hne⟩
      · rename_i hother
        exact ⟨hd, fun hp => absurd hp hother⟩
    have hparent := h p d hlisted.1
    have hne : d ≠ id := by
      rintro rfl
      obtain ⟨t, ht, htp⟩ := parent?_eq_some_iff.mp hparent
      rw [hs] at ht
      obtain rfl := Option.some.inj ht
      exact hlisted.2 htp rfl
    rw [parent?_without, if_neg hne]
    exact hparent

/-- Binding keeps the links if nobody but the new parent lists the dialog. -/
theorem linked_link_iff (h : Linked w) {parent dialog : SessionId}
    (hdialog : (w.session? dialog).isSome) (hparent : (w.session? parent).isSome) :
    Linked (w.link parent dialog) ↔ ∀ q, dialog ∈ w.dialogsOf q → q = parent := by
  constructor
  · intro hlinked q hq
    have hstill : dialog ∈ (w.link parent dialog).dialogsOf q := by
      rw [dialogsOf_link hparent]
      split
      · exact List.mem_append_left _ hq
      · exact hq
    have hnames := hlinked q dialog hstill
    rw [parent?_link hdialog, if_pos rfl] at hnames
    exact (Option.some.inj hnames).symm
  · intro hall p d hd
    have hold : d ∈ w.dialogsOf p → (w.link parent dialog).parent? d = some p := by
      intro hmem
      rw [parent?_link hdialog]
      split
      · rename_i heq
        rw [hall p (heq ▸ hmem)]
      · exact h p d hmem
    rw [dialogsOf_link hparent] at hd
    split at hd
    · rename_i hnew
      rcases List.mem_append.mp hd with hmem | hmem
      · exact hold hmem
      · rw [List.mem_singleton.mp hmem, parent?_link hdialog, if_pos rfl, hnew.1]
    · exact hold hd

/-- A dialog is bound to a window while another window lists it. -/
def Command.Poaches (w : Windows) : Command → Prop
  | bind parent dialog => (w.session? parent).isSome ∧
      ∃ q, q ≠ parent ∧ dialog ∈ w.dialogsOf q
  | _ => False

theorem linked_bind_iff (h : Linked w) (parent dialog : SessionId) :
    Linked (w.perform (.bind parent dialog)) ↔ ¬ (Command.bind parent dialog).Poaches w := by
  rw [perform_bind]
  split
  · rename_i hlive
    rw [linked_link_iff h hlive.1 hlive.2]
    constructor
    · rintro hall ⟨-, q, hne, hq⟩
      exact hne (hall q hq)
    · intro hnot q hq
      by_contra hne
      exact hnot ⟨hlive.2, q, hne, hq⟩
  · rename_i hrefused
    refine iff_of_true h ?_
    -- what is listed is there, so only the parent can be missing
    rintro ⟨hparent, q, -, hq⟩
    obtain ⟨s, hs, -⟩ := parent?_eq_some_iff.mp (h q dialog hq)
    exact hrefused ⟨by rw [hs]; rfl, hparent⟩

/-- A request keeps the links unless it binds a dialog that another window lists. -/
theorem linked_perform_iff (h : Linked w) (hn : Numbered w) (c : Command) :
    Linked (w.perform c) ↔ ¬ c.Poaches w := by
  by_cases hbind : ∃ parent dialog, c = .bind parent dialog
  · obtain ⟨parent, dialog, rfl⟩ := hbind
    exact linked_bind_iff h parent dialog
  · have hfair : ¬ c.Poaches w := by
      cases c with
      | bind parent dialog => exact absurd ⟨parent, dialog, rfl⟩ hbind
      | _ => exact id
    refine iff_of_true ?_ hfair
    have hc := becomes_perform w c
    generalize w.perform c = w' at hc
    cases hc with
    | stay _ _ hsame _ => exact linked_of_same h hsame
    | opened name type parent => exact linked_opened h hn rfl rfl
    | bound name p hp =>
      -- nobody lists the new dialog yet
      refine (linked_link_iff (linked_opened h hn rfl rfl) ?_ (isSome_opened hp _)).mpr ?_
      · exact (congrArg Option.isSome ((session?_opened w _ _).trans (if_pos rfl))).trans rfl
      · intro q hq
        rw [dialogsOf_opened rfl] at hq
        split at hq
        · cases hq
        · obtain ⟨s, hs, -⟩ := parent?_eq_some_iff.mp (h q _ hq)
          exact absurd (hn.below _ s hs) (Int.lt_irrefl _)
    | linked parent dialog _ _ => exact absurd ⟨parent, dialog, rfl⟩ hbind
    | removed id s hs => exact linked_without h hs

/-! ## Runs -/

theorem session?_perform_remove (w : Windows) (d : SessionId) :
    (w.perform (.remove d)).session? d = none := by
  rw [perform_remove]
  cases hd : w.session? d with
  | none => exact hd
  | some s => exact (session?_without w d s d).trans (if_pos rfl)

theorem linksAgree_iff (hn : Numbered w) (honce : ∀ p, (w.dialogsOf p).Nodup) :
    LinksAgree w ↔ Linked w := by
  constructor
  · intro h p d hd
    exact parent?_eq_some_iff.mpr (h.bound p d hd)
  · intro h
    refine ⟨fun p d hd => parent?_eq_some_iff.mp (h p d hd), honce, ?_, ?_⟩
    · intro p q d hp hq
      exact Option.some.inj ((h p d hp).symm.trans (h q d hq))
    · intro d p hd
      have hlinked : Linked (w.perform (.remove d)) := (linked_perform_iff h hn (.remove d)).mpr id
      obtain ⟨s, hs, -⟩ := parent?_eq_some_iff.mp (hlinked p d hd)
      rw [session?_perform_remove] at hs
      cases hs

/-- **The links agree throughout a run exactly if no dialog is bound to one window while another
lists it.** -/
theorem linksAgree_after_iff (first : Int) (run : List Command) :
    (∀ beginning, beginning <+: run → LinksAgree (after first beginning)) ↔
      ∀ beginning c, beginning ++ [c] <+: run → ¬ c.Poaches (after first beginning) := by
  have hiff : ∀ beginning, LinksAgree (after first beginning) ↔ Linked (after first beginning) :=
    fun beginning => linksAgree_iff (numbered_after first beginning)
      (nodup_dialogsOf_after first beginning)
  refine forall_beginning_iff (P := fun beginning => LinksAgree (after first beginning)) ?_ ?_
  · rw [hiff]
    intro p d hd
    cases hd
  · intro beginning c _ hagree
    rw [hiff, after_concat]
    exact linked_perform_iff ((hiff beginning).mp hagree) (numbered_after first beginning) c

/-- A dialog is bound to a second window, and removed. -/
def reboundRun : List Command :=
  [.create "mail" .appMain none, .create "notes" .appMain none,
    .create "save" .dialog (some ⟨1⟩), .bind ⟨2⟩ ⟨3⟩, .remove ⟨3⟩]

/-- The first window lists the dialog that is gone. -/
theorem linksAgree_fails_reboundRun :
    (after 1 reboundRun).dialogsOf ⟨1⟩ = [⟨3⟩] ∧ (after 1 reboundRun).session? ⟨3⟩ = none ∧
      ¬ LinksAgree (after 1 reboundRun) := by
  have hlisted : (after 1 reboundRun).dialogsOf ⟨1⟩ = [⟨3⟩] := by decide
  have hgone : (after 1 reboundRun).session? ⟨3⟩ = none := by decide
  refine ⟨hlisted, hgone, ?_⟩
  intro hagree
  obtain ⟨s, hs, -⟩ := hagree.bound ⟨1⟩ ⟨3⟩ (by rw [hlisted]; exact List.mem_singleton_self _)
  rw [hgone] at hs
  cases hs

end Windows

end DisplayServer
