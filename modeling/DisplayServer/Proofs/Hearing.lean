import DisplayServer.Agent.Hub

/-!
# What a subscriber hears

An agent that is subscribed to a kind of events, and whom nobody unsubscribes, hears every event
of that kind exactly once. That holds whatever other agents there are and whatever they ask of
the hub while an event is delivered: a delivery goes to the list as it stood, and the list names
nobody twice.
-/

namespace DisplayServer

/-- The events that an agent was told of, in order. -/
def heard {ι : Type} [DecidableEq ι] (a : ι) (calls : List (Call ι)) : List AgentEvent :=
  (calls.filter fun c => c.agent = a).map Call.event

namespace Hub

variable {ι : Type} [DecidableEq ι] {a : ι} {kinds : List AgentKind} {h : Hub ι}

theorem heard_append (calls more : List (Call ι)) :
    heard a (calls ++ more) = heard a calls ++ heard a more := by
  simp [heard]

/-- Of a delivery to a list that names nobody twice an agent hears the event once, or is not on
the list. -/
theorem heard_delivery {agents : List ι} (hnodup : agents.Nodup) (e : AgentEvent) :
    heard a (agents.map fun b => ⟨b, e⟩) = if a ∈ agents then [e] else [] := by
  induction agents with
  | nil => rfl
  | cons b rest ih =>
    obtain ⟨hb, hrest⟩ := List.nodup_cons.mp hnodup
    have hcons : heard a ((b :: rest).map fun b => (⟨b, e⟩ : Call ι)) =
        (if b = a then [e] else []) ++ heard a (rest.map fun b => ⟨b, e⟩) := by
      simp only [heard, List.map_cons, List.filter_cons, decide_eq_true_eq]
      split <;> rfl
    rw [hcons, ih hrest]
    by_cases hab : b = a
    · -- the listener is the head, and not in the rest
      subst hab
      rw [if_pos rfl, if_neg hb, if_pos List.mem_cons_self, List.append_nil]
    · rw [if_neg hab, List.nil_append]
      have hmem : a ∈ b :: rest ↔ a ∈ rest := by
        rw [List.mem_cons]
        exact ⟨fun hm => hm.resolve_left (Ne.symm hab), .inr⟩
      simp only [hmem]

/-- The agent is subscribed to the kinds, and no list of subscribers names anybody twice. -/
structure Subscribed (a : ι) (kinds : List AgentKind) (h : Hub ι) : Prop where
  /-- The agent is on the list of each kind. -/
  listed : ∀ k ∈ kinds, a ∈ h.subscribers k
  /-- Nobody is on a list twice. -/
  once : ∀ k, (h.subscribers k).Nodup

theorem subscribed_register (hs : Subscribed a kinds h) (b : ι) (kind : AgentKind) :
    Subscribed a kinds (h.register b kind) := by
  constructor
  · intro k hk
    by_cases he : k = kind
    · rw [he, subscribers_register]
      split
      · exact hs.listed kind (he ▸ hk)
      · exact List.mem_append_left _ (hs.listed kind (he ▸ hk))
    · rw [subscribers_register_of_ne h b he]
      exact hs.listed k hk
  · intro k
    by_cases he : k = kind
    · rw [he, subscribers_register]
      split
      · exact hs.once kind
      · rename_i hb
        refine List.nodup_append.mpr ⟨hs.once kind, by simp, ?_⟩
        -- the newcomer was not on the list
        intro x hx y hy hxy
        rw [List.mem_singleton.mp hy] at hxy
        exact hb (hxy ▸ hx)
    · rw [subscribers_register_of_ne h b he]
      exact hs.once k

/-- An agent that subscribes to further kinds. -/
theorem subscribed_registerAll (hs : Subscribed a kinds h) (more : List AgentKind) :
    Subscribed a (kinds ++ more) (h.registerAll a more) := by
  induction more generalizing h kinds with
  | nil =>
    rw [List.append_nil]
    exact hs
  | cons k rest ih =>
    have hstep : Subscribed a (kinds ++ [k]) (h.register a k) := by
      obtain ⟨hlisted, honce⟩ := subscribed_register hs a k
      refine ⟨?_, honce⟩
      intro k' hk'
      rcases List.mem_append.mp hk' with hk' | hk'
      · exact hlisted k' hk'
      · rw [List.mem_singleton.mp hk', subscribers_register]
        split
        · assumption
        · exact List.mem_append_right _ (List.mem_singleton_self a)
    have := ih hstep
    rwa [List.append_assoc, List.singleton_append] at this

theorem subscribed_unregister (hs : Subscribed a kinds h) {b : ι} {kind : AgentKind}
    (hne : b = a → kind ∉ kinds) : Subscribed a kinds (h.unregister b kind) := by
  constructor
  · intro k hk
    by_cases he : k = kind
    · subst he
      rw [subscribers_unregister]
      refine List.mem_filter.mpr ⟨hs.listed k hk, ?_⟩
      simp only [ne_eq, decide_eq_true_eq]
      intro hab
      exact hne hab.symm hk
    · rw [subscribers_unregister_of_ne h b he]
      exact hs.listed k hk
  · intro k
    by_cases he : k = kind
    · subst he
      rw [subscribers_unregister]
      exact (hs.once k).filter _
    · rw [subscribers_unregister_of_ne h b he]
      exact hs.once k

/-- No agent ever asks to unsubscribe `a` from one of the kinds. -/
def Loyal (respond : ι → AgentEvent → Response ι) (a : ι) (kinds : List AgentKind) : Prop :=
  ∀ b e k, k ∈ kinds → HubRequest.unregister a k ∉ (respond b e).requests

theorem subscribed_grants {requests : List (HubRequest ι)} (hs : Subscribed a kinds h)
    (hloyal : ∀ k ∈ kinds, HubRequest.unregister a k ∉ requests) :
    Subscribed a kinds (requests.foldl grant h) := by
  induction requests generalizing h with
  | nil => exact hs
  | cons q rest ih =>
    have hrest : ∀ k ∈ kinds, HubRequest.unregister a k ∉ rest := fun k hk hm =>
      hloyal k hk (List.mem_cons_of_mem q hm)
    refine ih ?_ hrest
    cases q with
    | register b kind => exact subscribed_register hs b kind
    | unregister b kind =>
      refine subscribed_unregister hs fun hb hk => ?_
      subst hb
      exact hloyal kind hk List.mem_cons_self

variable {respond : ι → AgentEvent → Response ι}

theorem subscribed_tell (hloyal : Loyal respond a kinds) (e : AgentEvent) (agents : List ι)
    (hs : Subscribed a kinds h) : Subscribed a kinds (tell respond e agents h).1 := by
  induction agents generalizing h with
  | nil => exact hs
  | cons b rest ih => exact ih (subscribed_grants hs fun k hk => hloyal b e k hk)

theorem subscribed_notify (hloyal : Loyal respond a kinds) (hs : Subscribed a kinds h)
    (e : AgentEvent) : Subscribed a kinds (notify respond h e).1 :=
  subscribed_tell hloyal e _ hs

/-- What a subscriber hears of one event: the event, unless it is of another kind. -/
theorem heard_notify (hs : Subscribed a kinds h) (e : AgentEvent) :
    heard a (notify respond h e).2 = [e] ∨
      (e.kind ∉ kinds ∧ heard a (notify respond h e).2 = []) := by
  have hcalls : heard a (notify respond h e).2 =
      if a ∈ h.subscribers e.kind then [e] else [] := by
    unfold notify
    rw [calls_tell]
    exact heard_delivery (hs.once e.kind) e
  rw [hcalls]
  split
  · exact .inl rfl
  · rename_i hnot
    exact .inr ⟨fun hk => hnot (hs.listed e.kind hk), rfl⟩

/-- Of the kinds it is subscribed to, it hears the event exactly. -/
theorem filter_heard_notify (hs : Subscribed a kinds h) (e : AgentEvent) :
    (heard a (notify respond h e).2).filter (·.kind ∈ kinds) =
      [e].filter (·.kind ∈ kinds) := by
  have hcases : heard a (notify respond h e).2 = [e] ∨
      (e.kind ∉ kinds ∧ heard a (notify respond h e).2 = []) := heard_notify hs e
  rcases hcases with hheard | ⟨hkind, hheard⟩
  · rw [hheard]
  · rw [hheard, List.filter_cons_of_neg (by simpa using hkind)]

/-- An agent that has just subscribed is subscribed. -/
theorem subscribed_of_empty (a : ι) (kinds : List AgentKind) :
    Subscribed a kinds (empty.registerAll a kinds) := by
  have hempty : Subscribed a [] (empty : Hub ι) :=
    ⟨fun k hk => (List.not_mem_nil hk).elim, fun _ => List.nodup_nil⟩
  exact subscribed_registerAll hempty kinds

end Hub

end DisplayServer
