import DisplayServer.Agent.Hub
import DisplayServer.Proofs.Runs

/-!
# Whom the hub tells, by the history of registrations

All that becomes of a hub is the requests that it grants one after the other, those made from
outside and those that agents make while they are told of an event (`Hub.after_eq`). So its lists
can be read off the history of requests: an agent is listed from the request that registered it
anew (`Hub.Since`), and the list is in the order of these requests (`Hub.Tells`).

A delivery goes to the list as it stands when the delivery begins, and what agents do meanwhile
enters the history before the next one.
-/

namespace DisplayServer

/-- The kind of events that a request is about. -/
def HubRequest.kind {ι : Type} : HubRequest ι → AgentKind
  | .register _ kind | .unregister _ kind => kind

namespace Hub

variable {ι : Type}

/-! ## Standing registrations -/

/-- The agent was registered and not unregistered afterwards. -/
def Registered (history : List (HubRequest ι)) (a : ι) (k : AgentKind) : Prop :=
  ∃ before later, history = before ++ .register a k :: later ∧ .unregister a k ∉ later

/-- The agent is registered since the request in that place: it was not registered before, and
has not been unregistered afterwards. -/
def Since (history : List (HubRequest ι)) (a : ι) (k : AgentKind) (n : Nat) : Prop :=
  ∃ before later, history = before ++ .register a k :: later ∧ before.length = n ∧
    ¬ Registered before a k ∧ .unregister a k ∉ later

variable {history : List (HubRequest ι)} {q : HubRequest ι} {a : ι} {k : AgentKind} {n : Nat}

theorem registered_concat : Registered (history ++ [q]) a k ↔
    q = .register a k ∨ (Registered history a k ∧ q ≠ .unregister a k) := by
  constructor
  · rintro ⟨before, later, heq, hlater⟩
    rcases eq_append_cons_concat heq with ⟨-, -, hq⟩ | ⟨rest, rfl, hhistory⟩
    · exact .inl hq.symm
    · rw [List.mem_append, not_or] at hlater
      refine .inr ⟨⟨before, rest, hhistory, hlater.1⟩, ?_⟩
      rintro rfl
      exact hlater.2 (List.mem_singleton_self _)
  · rintro (rfl | ⟨⟨before, later, rfl, hlater⟩, hq⟩)
    · exact ⟨history, [], rfl, List.not_mem_nil⟩
    · refine ⟨before, later ++ [q], by simp, ?_⟩
      rw [List.mem_append, List.mem_singleton, not_or]
      exact ⟨hlater, Ne.symm hq⟩

/-- A request ends the registration of the agent that it unregisters, and begins one if it
registers an agent that is not registered. -/
theorem since_concat : Since (history ++ [q]) a k n ↔
    (Since history a k n ∧ q ≠ .unregister a k) ∨
      (q = .register a k ∧ n = history.length ∧ ¬ Registered history a k) := by
  constructor
  · rintro ⟨before, later, heq, hn, hbefore, hlater⟩
    rcases eq_append_cons_concat heq with ⟨-, rfl, hq⟩ | ⟨rest, rfl, hhistory⟩
    · exact .inr ⟨hq.symm, hn.symm, hbefore⟩
    · rw [List.mem_append, List.mem_singleton, not_or] at hlater
      exact .inl ⟨⟨before, rest, hhistory, hn, hbefore, hlater.1⟩, Ne.symm hlater.2⟩
  · rintro (⟨⟨before, later, rfl, hn, hbefore, hlater⟩, hq⟩ | ⟨rfl, rfl, hnew⟩)
    · refine ⟨before, later ++ [q], by simp, hn, hbefore, ?_⟩
      rw [List.mem_append, List.mem_singleton, not_or]
      exact ⟨hlater, Ne.symm hq⟩
    · exact ⟨history, [], rfl, rfl, hnew, List.not_mem_nil⟩

theorem since_register {b : ι} {j : AgentKind} : Since (history ++ [.register b j]) a k n ↔
    Since history a k n ∨ (b = a ∧ j = k ∧ n = history.length ∧ ¬ Registered history a k) := by
  simp [since_concat, and_assoc]

theorem since_unregister {b : ι} {j : AgentKind} :
    Since (history ++ [.unregister b j]) a k n ↔ Since history a k n ∧ ¬ (b = a ∧ j = k) := by
  simp [since_concat]

theorem not_registered_nil : ¬ Registered [] a k := by
  rintro ⟨before, later, heq, -⟩
  simp at heq

theorem registered_iff : Registered history a k ↔ ∃ n, Since history a k n := by
  induction history using List.reverseRecOn with
  | nil =>
    refine iff_of_false not_registered_nil ?_
    rintro ⟨n, before, later, heq, -⟩
    simp at heq
  | append_singleton history q ih =>
    constructor
    · intro h
      rcases registered_concat.mp h with hq | ⟨hbefore, hq⟩
      · by_cases hbefore : Registered history a k
        · obtain ⟨n, hn⟩ := ih.mp hbefore
          exact ⟨n, since_concat.mpr (.inl ⟨hn, hq ▸ nofun⟩)⟩
        · exact ⟨history.length, since_concat.mpr (.inr ⟨hq, rfl, hbefore⟩)⟩
      · obtain ⟨n, hn⟩ := ih.mp hbefore
        exact ⟨n, since_concat.mpr (.inl ⟨hn, hq⟩)⟩
    · rintro ⟨n, hn⟩
      rcases since_concat.mp hn with ⟨hbefore, hq⟩ | ⟨hq, -, -⟩
      · exact registered_concat.mpr (.inr ⟨ih.mpr ⟨n, hbefore⟩, hq⟩)
      · exact registered_concat.mpr (.inl hq)

theorem lt_of_since (h : Since history a k n) : n < history.length := by
  obtain ⟨before, later, rfl, rfl, -, -⟩ := h
  simp

/-! ## Lists that tell the history -/

/-- A list of the registered agents, in the order in which they came to be registered. -/
structure Tells (history : List (HubRequest ι)) (k : AgentKind) (agents : List ι) : Prop where
  /-- The agents listed are those that are registered since some request. -/
  member : ∀ a, a ∈ agents ↔ ∃ n, Since history a k n
  /-- Earlier on the list is who is registered for longer. -/
  ordered : agents.Pairwise fun a b =>
    ∀ m n, Since history a k m → Since history b k n → m < n

variable {agents : List ι}

/-- Nobody was registered before himself. -/
theorem Tells.nodup (h : Tells history k agents) : agents.Nodup := by
  refine h.ordered.imp_of_mem ?_
  rintro a b ha - hab rfl
  obtain ⟨n, hn⟩ := (h.member a).mp ha
  exact absurd (hab n n hn hn) (Nat.lt_irrefl n)

/-- A list goes on telling the history after a request that ends no registration and begins
none. -/
theorem Tells.stay (h : Tells history k agents)
    (hsame : ∀ a n, Since (history ++ [q]) a k n ↔ Since history a k n) :
    Tells (history ++ [q]) k agents where
  member a := by
    simp only [hsame]
    exact h.member a
  ordered := by
    simp only [hsame]
    exact h.ordered

theorem Tells.register (h : Tells history k agents) {b : ι} (hb : b ∉ agents) :
    Tells (history ++ [.register b k]) k (agents ++ [b]) := by
  have hnew : ¬ Registered history b k := by
    rw [registered_iff, ← h.member]
    exact hb
  have hlast : ∀ n, Since (history ++ [.register b k]) b k n ↔ n = history.length := by
    intro n
    rw [since_register]
    constructor
    · rintro (hn | ⟨-, -, hn, -⟩)
      · exact absurd (registered_iff.mpr ⟨n, hn⟩) hnew
      · exact hn
    · exact fun hn => .inr ⟨rfl, rfl, hn, hnew⟩
  -- the others are registered since when they were
  have hold : ∀ a, a ≠ b → ∀ n,
      Since (history ++ [.register b k]) a k n ↔ Since history a k n := by
    intro a hab n
    rw [since_register]
    exact or_iff_left fun hn => hab hn.1.symm
  constructor
  · intro a
    rw [List.mem_append, List.mem_singleton]
    by_cases hab : a = b
    · rw [hab]
      exact iff_of_true (.inr rfl) ⟨history.length, (hlast _).mpr rfl⟩
    · simp only [hold a hab, ← h.member, hab, or_false]
  · refine List.pairwise_append.mpr ⟨?_, List.pairwise_singleton _ _, ?_⟩
    · refine h.ordered.imp_of_mem ?_
      intro a c ha hc hac m n hm hn
      exact hac m n ((hold a (ne_of_mem_of_not_mem ha hb) m).mp hm)
        ((hold c (ne_of_mem_of_not_mem hc hb) n).mp hn)
    · intro a ha c hc m n hm hn
      rw [List.mem_singleton.mp hc, hlast] at hn
      rw [hn]
      exact lt_of_since ((hold a (ne_of_mem_of_not_mem ha hb) m).mp hm)

variable [DecidableEq ι]

theorem Tells.unregister (h : Tells history k agents) (b : ι) :
    Tells (history ++ [.unregister b k]) k (agents.filter (· ≠ b)) where
  member a := by
    simp only [since_unregister, and_true, exists_and_right, ← h.member, List.mem_filter,
      decide_eq_true_eq, ne_comm (a := a), ne_eq]
  ordered := by
    refine (h.ordered.filter _).imp ?_
    intro a c hac m n hm hn
    exact hac m n (since_unregister.mp hm).1 (since_unregister.mp hn).1

/-- A request about another kind leaves a list alone. -/
theorem subscribers_grant_of_ne (h : Hub ι) (hq : q.kind ≠ k) :
    (h.grant q).subscribers k = h.subscribers k := by
  cases q with
  | register b j => exact subscribers_register_of_ne h b (Ne.symm hq)
  | unregister b j => exact subscribers_unregister_of_ne h b (Ne.symm hq)

/-- An agent stays listed until it is unregistered. -/
theorem mem_grant {h : Hub ι} (ha : a ∈ h.subscribers k) (hq : q ≠ .unregister a k) :
    a ∈ (h.grant q).subscribers k := by
  by_cases hk : q.kind = k
  · cases q with
    | register b j =>
      obtain rfl : j = k := hk
      rw [grant, subscribers_register]
      split
      · exact ha
      · exact List.mem_append_left _ ha
    | unregister b j =>
      obtain rfl : j = k := hk
      rw [grant, subscribers_unregister]
      refine List.mem_filter.mpr ⟨ha, decide_eq_true ?_⟩
      rintro rfl
      exact hq rfl
  · rw [subscribers_grant_of_ne h hk]
    exact ha

theorem mem_grants {requests : List (HubRequest ι)} {h : Hub ι} (ha : a ∈ h.subscribers k)
    (hstays : .unregister a k ∉ requests) : a ∈ (requests.foldl grant h).subscribers k := by
  induction requests generalizing h with
  | nil => exact ha
  | cons q rest ih =>
    rw [List.mem_cons, not_or] at hstays
    exact ih (mem_grant ha (Ne.symm hstays.1)) hstays.2

omit [DecidableEq ι] in
/-- What agents ask for while they take calls, in the order in which it is granted. -/
def answers (respond : ι → AgentEvent → Response ι) (calls : List (Call ι)) :
    List (HubRequest ι) :=
  calls.flatMap fun c => (respond c.agent c.event).requests

omit [DecidableEq ι] in
theorem answers_append (respond : ι → AgentEvent → Response ι) (calls more : List (Call ι)) :
    answers respond (calls ++ more) = answers respond calls ++ answers respond more :=
  List.flatMap_append

/-- A delivery does to a hub what the agents ask for. -/
theorem hub_tell (respond : ι → AgentEvent → Response ι) (event : AgentEvent) (agents : List ι)
    (h : Hub ι) : (tell respond event agents h).1 =
      (answers respond (tell respond event agents h).2).foldl grant h := by
  induction agents generalizing h with
  | nil => rfl
  | cons a rest ih =>
    simp only [answers, tell, List.flatMap_cons, List.foldl_append]
    exact ih _

/-! ## Runs of a hub -/

/-- What is done to a hub: a request is made, or an event is delivered to agents that respond
as given. -/
inductive Act (ι : Type)
  | ask (request : HubRequest ι)
  | notify (respond : ι → AgentEvent → Response ι) (event : AgentEvent)

def perform (h : Hub ι) : Act ι → Hub ι
  | .ask q => h.grant q
  | .notify respond event => (h.notify respond event).1

/-- The requests that an act makes of the hub, in the order in which they are granted. -/
def requests (h : Hub ι) : Act ι → List (HubRequest ι)
  | .ask q => [q]
  | .notify respond event => answers respond (h.notify respond event).2

def after (run : List (Act ι)) : Hub ι := run.foldl perform empty

/-- All requests of a run, oldest first. -/
def asked (run : List (Act ι)) : List (HubRequest ι) := collect perform requests empty run

/-- An agent that registers again keeps its place, and one that comes back is told last, also if
it left while it was being told. -/
example :
    let leaves : Nat → AgentEvent → Response Nat := fun a e =>
      ⟨true, if a = 1 then [.unregister 1 e.kind] else []⟩
    let event := AgentEvent.foldStatusChanged .folded
    let first := [.ask (.register 1 .foldStatus), .ask (.register 2 .foldStatus),
      .ask (.register 1 .foldStatus)]
    ((after first).notify leaves event).2.map Call.agent = [1, 2] ∧
      (after (first ++ [.notify leaves event, .ask (.register 1 .foldStatus)])).subscribers
        .foldStatus = [2, 1] := by
  decide

end Hub

end DisplayServer
