import DisplayServer.Proofs.Lifecycle

/-!
# Three copies of one rectangle

The rectangle of a window is held by its stage, by its surface and by the session itself. A
session that takes a rectangle is shown, hence staged (`Wired`), so the stage was asked first and
what it accepts is exactly what is granted (`accepts_eq_grants`). The surface gets the same as
long as it is the session's, and the session has one surface from a connection to the next
(`surface_of_next`).

So since the latest connection all three copies have one history, and they agree in its last
entry.
-/

namespace DisplayServer

namespace WindowOutput

variable {outputs : List WindowOutput}

theorem stageRect?_of_rect? (h : ∀ o ∈ outputs, o.rect? = none) :
    outputs.filterMap stageRect? = [] := by
  refine List.filterMap_eq_nil_iff.mpr ?_
  intro o ho
  have hrect := h o ho
  cases o with
  | stageRect => cases hrect
  | stageActive | bounds | entered => rfl

theorem boundsOf?_of_rect? (h : ∀ o ∈ outputs, o.rect? = none) (surface : Nat) :
    outputs.filterMap (boundsOf? surface) = [] := by
  refine List.filterMap_eq_nil_iff.mpr ?_
  intro o ho
  have hrect := h o ho
  cases o with
  | bounds => cases hrect
  | stageRect | stageActive | entered => rfl

end WindowOutput

namespace Session

variable {s : Session}

/-! ## Where rectangles go -/

theorem rect?_announce (s : Session) (path : List SessionState) :
    ∀ o ∈ s.announce path, o.rect? = none := by
  intro o ho
  unfold announce at ho
  split at ho
  · obtain ⟨next, -, rfl⟩ := List.mem_map.mp ho
    rfl
  · cases ho

theorem rect?_turned (s : Session) (asked : List Bool) (path : List SessionState) :
    ∀ o ∈ asked.map (WindowOutput.stageActive s.id) ++ s.announce path, o.rect? = none :=
  List.forall_mem_append.mpr ⟨List.forall_mem_map.mpr fun _ _ => rfl, rect?_announce s path⟩

/-- A rectangle goes out only while the session is shown. -/
theorem shown_of_rect? (s : Session) (act : Act) :
    ∀ o ∈ (s.perform act).outputs, o.rect? ≠ none → s.state.isShown = true := by
  cases act with
  | set a => exact fun _ ho => nomatch ho
  | take answer c =>
    have hdoes := does_take s answer c
    simp only [perform]
    generalize s.take answer c = step at hdoes
    intro o ho hrect
    cases hdoes with
    | refused _ e asked hasked => exact (hasked o ho).2.1
    | turned _ asked hturns => exact absurd (rect?_turned s asked _ o ho) hrect
    | connected surface hstate hsurface => exact absurd (rect?_announce s _ o ho) hrect
    | disconnected hstate => exact absurd (rect?_announce s _ o ho) hrect
    | updated rect reason hshown hanswer => exact hshown

/-! ## The stage -/

/-- The stage accepts what is granted, no more and no less. -/
theorem accepts_eq_grants (h : Wired s) (act : Act) : s.accepts act = s.grants act := by
  cases act with
  | set a => rfl
  | take answer c =>
    have hdoes := does_take s answer c
    simp only [accepts, grants, granted]
    generalize s.take answer c = step at hdoes
    cases hdoes with
    | refused _ e asked hasked =>
      cases asked with
      | nil => exact ite_self _
      | cons o rest =>
        rw [(hasked o List.mem_cons_self).2.2]
        rfl
    | turned _ asked hturns =>
      rw [WindowOutput.stageRect?_of_rect? (rect?_turned s asked _), hturns.rects_eq]
      exact (ite_self _).trans (ite_self _).symm
    | connected surface hstate hsurface =>
      rw [WindowOutput.stageRect?_of_rect? (rect?_announce s _)]
      exact ite_self _
    | disconnected hstate =>
      rw [WindowOutput.stageRect?_of_rect? (rect?_announce s _)]
      exact ite_self _
    | updated rect reason hshown hanswer =>
      -- a shown session is staged
      have hstaged : s.staged = true := by
        refine h.staged.mpr ?_
        intro hstate
        rw [hstate] at hshown
        cases hshown
      rw [hanswer hstaged, hstaged]
      cases s.surface <;> rfl

theorem collect_accepts (h : Wired s) (rest : List Act) :
    collect next accepts s rest = collect next grants s rest := by
  induction rest generalizing s with
  | nil => rfl
  | cons act rest ih => rw [collect, collect, accepts_eq_grants h, ih (wired_perform h act)]

/-! ## The surface -/

/-- Without another connection a session has no other surface than before. -/
theorem surface_of_next {n : Nat} {act : Act} (hconnects : s.connects act = [])
    (h : (s.next act).surface = some n) : s.surface = some n := by
  cases act with
  | set a => cases a <;> exact h
  | take answer c =>
    have hdoes := does_take s answer c
    simp only [connects, granted, next, perform] at hconnects h
    generalize s.take answer c = step at hdoes hconnects h
    cases hdoes with
    | refused | turned | updated => exact h
    | connected surface hstate hsurface => cases hconnects
    | disconnected hstate => cases h

/-- The surface gets what is granted. -/
theorem bounds_eq_grants {n : Nat} (h : s.surface = some n) (act : Act) :
    s.bounds n act = (s.grants act).map Prod.fst := by
  cases act with
  | set a => rfl
  | take answer c =>
    have hdoes := does_take s answer c
    simp only [bounds, perform, grants, granted]
    generalize s.take answer c = step at hdoes
    cases hdoes with
    | refused _ e asked hasked =>
      exact boundsOf?_of_asks (fun o ho => (hasked o ho).1) n
    | turned _ asked hturns =>
      rw [WindowOutput.boundsOf?_of_rect? (rect?_turned s asked _), hturns.rects_eq]
      rfl
    | connected surface hstate hsurface =>
      exact WindowOutput.boundsOf?_of_rect? (rect?_announce s _) n
    | disconnected hstate => exact WindowOutput.boundsOf?_of_rect? (rect?_announce s _) n
    | updated rect reason hshown hanswer =>
      have hstage : WindowOutput.boundsOf? n (.stageRect s.id rect reason) = none := rfl
      have hbounds : WindowOutput.boundsOf? n (.bounds n rect) = some rect := if_pos rfl
      rw [h]
      cases s.staged with
      | true => exact (List.filterMap_cons_none hstage).trans (List.filterMap_cons_some hbounds)
      | false => exact List.filterMap_cons_some hbounds

theorem collect_bounds {n : Nat} {rest : List Act} (hconnects : collect next connects s rest = [])
    (h : (s.after rest).surface = some n) :
    collect next (bounds n) s rest = (collect next grants s rest).map Prod.fst := by
  induction rest using List.reverseRecOn with
  | nil => rfl
  | append_singleton rest act ih =>
    rw [collect_concat, List.append_eq_nil_iff] at hconnects
    rw [after_concat] at h
    have hbefore := surface_of_next hconnects.2 h
    rw [collect_concat, collect_concat, ih hconnects.1 hbefore, List.map_append]
    exact congrArg _ (bounds_eq_grants hbefore act)

/-! ## A run -/

/-- A connection is the latest one of a run: it is granted after what is done before it, and none
is granted in the rest. -/
structure Latest (first : Session) (before : List Act) (connection : Act) (rest : List Act) :
    Prop where
  granted : (first.after before).connects connection ≠ []
  last : collect next connects ((first.after before).next connection) rest = []

/-- Stage, surface and session hold the same rectangle, if one was granted since the latest
connection of the run. -/
structure CopiesAgree (first : Session) (run : List Act) : Prop where
  /-- The stage of that connection accepted last what the session keeps. -/
  stage : ∀ before connection rest, before ++ connection :: rest = run →
    Latest first before connection rest →
    collect next grants ((first.after before).next connection) rest ≠ [] →
    (collect next accepts ((first.after before).next connection) rest).getLast? =
      some ((first.after run).rect, (first.after run).reason)
  /-- The session's surface got that rectangle last, of all that it ever got. -/
  surface : ∀ before connection rest, before ++ connection :: rest = run →
    Latest first before connection rest →
    collect next grants ((first.after before).next connection) rest ≠ [] →
    ∀ n, (first.after run).surface = some n →
      (collect next (bounds n) first run).getLast? = some (first.after run).rect
  /-- A stage or a surface gets a rectangle only while the session is shown. -/
  shown : ∀ act, ∀ o ∈ ((first.after run).perform act).outputs, o.rect? ≠ none →
    (first.after run).state.isShown = true

theorem after_connection (first : Session) (before : List Act) (connection : Act)
    (rest : List Act) :
    first.after (before ++ connection :: rest) =
      ((first.after before).next connection).after rest :=
  after_append first before (connection :: rest)

/-- **Whatever is done to a new session, its stage and its surface have the rectangle that it
keeps.** -/
theorem copiesAgree_after (id : SessionId) (name : String) (type : WindowType)
    (parent : Option SessionId) (modal : Bool) (run : List Act) :
    CopiesAgree { create id name type parent with modal } run := by
  have hwired := wired_after (wired_create id name type parent modal)
  generalize { create id name type parent with modal } = first at hwired
  exact {
    stage := by
      rintro before connection rest rfl hlatest hgranted
      rw [collect_accepts (wired_perform (hwired before) connection), getLast?_grants hgranted,
        after_connection]
    surface := by
      rintro before connection rest rfl hlatest hgranted n hsurface
      rw [after_connection] at hsurface ⊢
      have hsince := collect_bounds hlatest.last hsurface
      have hlast : (collect next (bounds n) ((first.after before).next connection) rest).getLast? =
          some (((first.after before).next connection).after rest).rect := by
        rw [hsince, List.getLast?_map, getLast?_grants hgranted]
        rfl
      have hsplit : collect next (bounds n) first (before ++ connection :: rest) =
          (collect next (bounds n) first before ++ (first.after before).bounds n connection) ++
            collect next (bounds n) ((first.after before).next connection) rest := by
        rw [collect_append, collect, List.append_assoc]
        rfl
      rw [hsplit, List.getLast?_append, hlast]
      rfl
    shown := shown_of_rect? _ }

/-- A window that was connected anew after its client had gone, and whose new stage refuses one
rectangle and accepts another. -/
def reconnectedRun : List Act :=
  [.take (.ok ()) (.connect true (some 7)),
   .take (.ok ()) .foreground,
   .take (.ok ()) (.update ⟨0, 0, 800, 600⟩ .resize),
   .take (.ok ()) .disconnect,
   .take (.ok ()) (.connect true (some 8)),
   .take (.ok ()) .foreground,
   .take (.error (.collaboratorFailed "gone")) (.update ⟨10, 10, 800, 600⟩ .dragMove),
   .take (.ok ()) (.update ⟨20, 20, 800, 600⟩ .dragEnd)]

/-- The first surface has what it got before, and the second one what the new stage accepted. -/
example :
    let first := create ⟨1⟩ "editor" .appMain none
    collect next connects first reconnectedRun = [some 7, some 8] ∧
      collect next (bounds 7) first reconnectedRun = [⟨0, 0, 800, 600⟩] ∧
      collect next (bounds 8) first reconnectedRun = [⟨20, 20, 800, 600⟩] ∧
      collect next accepts first reconnectedRun =
        [(⟨0, 0, 800, 600⟩, .resize), (⟨20, 20, 800, 600⟩, .dragEnd)] := by
  decide

end Session

end DisplayServer
