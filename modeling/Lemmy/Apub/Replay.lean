import Lemmy.Apub.InboxSteps

namespace Lemmy.CommunityInbox

open Node

def Dispatched (n : Node Delivery) (i : Nat) : Prop :=
  n.Visited (fun d => d.pc.pastInsert = true) i

variable (cfg : Settings) (x : Url) (s₀ : State)

structure ReplayInv (n : Node Delivery) : Prop where
  threads : ∀ d ∈ n.threads, d.activity.id = some x ∧ d.pc.IdIs x
  indices : ∀ e ∈ n.trace, e.1 < n.threads.length
  once : ∀ i j, Dispatched n i → Dispatched n j → i = j
  recorded : n.state.db.activity.Has x ↔ s₀.db.activity.Has x ∨ ∃ i, Dispatched n i
  unseen : s₀.db.activity.Has x → ∀ i, ¬ Dispatched n i
  quiet : (∀ i, ¬ Dispatched n i) → n.state.sent = s₀.sent ∧ n.state.received = s₀.received ∧
    n.trace.filter (·.2.pc.writesFollower) = []
  winner : ∀ i d, n.threads[i]? = some d → Dispatched n i →
    n.state.sent.length + d.pc.sendsLeft ≤ s₀.sent.length + 1 ∧
    n.state.received.length + d.pc.receivesLeft ≤ s₀.received.length + 1 ∧
    (n.trace.filter (·.2.pc.writesFollower)).length + d.pc.writesLeft ≤ 1

variable {cfg x s₀}

theorem dispatched_stepThread {n : Node Delivery} {i : Nat} {d : Delivery}
    (hi : n.threads[i]? = some d) (f : Fault) (j : Nat) :
    Dispatched (n.stepThread (Delivery.step cfg) i f) j ↔
      Dispatched n j ∨ (j = i ∧ (next cfg d.activity d.path d.pc f n.state).1.pastInsert) :=
  visited_stepThread _ hi f _ j

theorem dispatched_of_get {n : Node Delivery} {i : Nat} {d : Delivery} (hi : n.threads[i]? = some d)
    (hp : d.pc.pastInsert) : Dispatched n i :=
  .inr ⟨d, hi, hp⟩

theorem ReplayInv.stepThread {n : Node Delivery} (h : ReplayInv x s₀ n) (i : Nat) (f : Fault) :
    ReplayInv x s₀ (n.stepThread (Delivery.step cfg) i f) := by
  cases hi : n.threads[i]? with
  | none => rwa [stepThread_of_none _ hi]
  | some d =>
    have hD := @dispatched_stepThread cfg _ _ _ hi f
    have hlt : i < n.threads.length := (List.getElem?_eq_some_iff.mp hi).1
    obtain ⟨hdx, hdid⟩ := h.threads d (List.getElem?_mem hi)
    have hm := @next_moves cfg d.activity d.path d.pc f n.state
    rw [stepThread_of_get _ hi] at hD ⊢
    simp only [Delivery.step] at hD ⊢
    generalize next cfg d.activity d.path d.pc f n.state = r at hm hD ⊢
    obtain ⟨pc', s'⟩ := r
    dsimp only at hm hD ⊢
    have hthreads : ∀ e ∈ n.threads.set i { d with pc := pc' }, e.activity.id = some x ∧ e.pc.IdIs x :=
      fun e he => (List.mem_or_eq_of_mem_set he).elim (h.threads e) (fun he => he ▸ ⟨hdx, hm.idIs hdx hdid⟩)
    have hindices := trace_indices_step h.indices hlt d { d with pc := pc' }
    have hget := fun j e (he : (n.threads.set i { d with pc := pc' })[j]? = some e) =>
      getElem?_set_eq_some hlt he
    cases hp : d.pc.pastInsert with
    | true =>
      have hDi : Dispatched n i := dispatched_of_get hi hp
      have hD' : ∀ j, Dispatched ⟨s', _, _⟩ j ↔ Dispatched n j := fun j =>
        (hD j).trans ⟨fun h' => h'.elim id (fun ⟨hj, _⟩ => hj ▸ hDi), .inl⟩
      obtain ⟨hact, -⟩ : s'.db.activity = n.state.db.activity ∧ _ := by
        rcases hm.activity_cases with h' | ⟨_, _, _, hpc, -⟩
        · exact h'
        · simp [hpc, Pc.pastInsert] at hp
      obtain ⟨hs1, hs2, hs3⟩ := hm.left_le hp
      obtain ⟨hw1, hw2, hw3⟩ := h.winner i d hi hDi
      refine ⟨hthreads, hindices, fun j k hj hk => h.once j k ((hD' j).1 hj) ((hD' k).1 hk), ?_, ?_, ?_, ?_⟩
      · simp only [hD', hact]; exact h.recorded
      · exact fun hx j hj => h.unseen hx j ((hD' j).1 hj)
      · exact fun hq => absurd ((hD' i).2 hDi) (hq i)
      · intro j e he hj
        obtain rfl := h.once j i ((hD' j).1 hj) hDi
        rcases hget j e he with ⟨-, rfl⟩ | ⟨hne, -⟩
        · have hw : ((n.trace ++ [(j, d)]).filter (·.2.pc.writesFollower)).length =
              (n.trace.filter (·.2.pc.writesFollower)).length + (if d.pc.writesFollower then 1 else 0) := by
            cases hwf : d.pc.writesFollower <;> simp [List.filter_append, hwf]
          dsimp only
          refine ⟨by omega, by omega, by rw [hw]; omega⟩
        · exact absurd rfl hne
    | false =>
      obtain ⟨hf1, hf2, hf3⟩ := hm.effects_eq hp
      obtain ⟨hl1, hl2, hl3, hwf⟩ := Pc.left_eq_zero hp
      have htrace : (n.trace ++ [(i, d)]).filter (·.2.pc.writesFollower) =
          n.trace.filter (·.2.pc.writesFollower) := by
        simp [List.filter_append, hwf]
      rcases hm.activity_cases with ⟨hact, hpc'⟩ | ⟨actor, id, c, hpc, rfl, hnew, hrows⟩
      · have hp' : pc'.pastInsert = false := by
          cases h' : pc'.pastInsert
          · rfl
          · simpa [hp] using hpc' h'
        have hD' : ∀ j, Dispatched ⟨s', _, _⟩ j ↔ Dispatched n j := fun j =>
          (hD j).trans (by simp [hp'])
        obtain ⟨hl1', hl2', hl3', -⟩ := Pc.left_eq_zero hp'
        refine ⟨hthreads, hindices, fun j k hj hk => h.once j k ((hD' j).1 hj) ((hD' k).1 hk),
          ?_, ?_, ?_, ?_⟩
        · simp only [hD', hact]; exact h.recorded
        · exact fun hx j hj => h.unseen hx j ((hD' j).1 hj)
        · intro hq
          obtain ⟨q1, q2, q3⟩ := h.quiet fun j hj => hq j ((hD' j).2 hj)
          exact ⟨hf2.trans q1, hf3.trans q2, htrace.trans q3⟩
        · intro j e he hj
          rw [hf2, hf3, htrace]
          rcases hget j e he with ⟨rfl, rfl⟩ | ⟨-, he'⟩
          · have := h.winner j d hi ((hD' j).1 hj)
            dsimp only
            refine ⟨by omega, by omega, by omega⟩
          · exact h.winner j e he' ((hD' j).1 hj)
      · have hid : id = x := by simpa [hpc, Pc.IdIs] using hdid
        subst hid
        have hnone : ¬ s₀.db.activity.Has id ∧ ∀ j, ¬ Dispatched n j := by
          simpa using (not_congr h.recorded).mp hnew
        have hD' : ∀ j, Dispatched ⟨s', _, _⟩ j ↔ j = i := fun j =>
          (hD j).trans (by simp [hnone.2 j, Pc.pastInsert])
        obtain ⟨q1, q2, q3⟩ := h.quiet hnone.2
        refine ⟨hthreads, hindices, fun j k hj hk => ((hD' j).1 hj).trans ((hD' k).1 hk).symm,
          ?_, fun hx => absurd hx hnone.1, fun hq => absurd ((hD' i).2 rfl) (hq i), ?_⟩
        · simp only [Table.has_iff, hrows, List.mem_append, List.mem_singleton]
          exact ⟨fun _ => .inr ⟨i, (hD' i).2 rfl⟩, fun _ => ⟨_, .inr rfl, rfl⟩⟩
        · intro j e he hj
          obtain rfl := (hD' j).1 hj
          rcases hget j e he with ⟨-, rfl⟩ | ⟨hne, -⟩
          · rw [hf2, hf3, htrace, q1, q2, q3]
            simp [Pc.sendsLeft, Pc.receivesLeft, Pc.writesLeft]
          · exact absurd rfl hne

theorem ReplayInv.start {ds : List Delivery}
    (hds : ∀ d ∈ ds, d.activity.id = some x ∧ d.pc = .verifySignature) :
    ReplayInv x s₀ (Node.start s₀ ds) := by
  have hnot : ∀ i, ¬ Dispatched (Node.start s₀ ds) i := by
    rintro i (⟨_, h, -⟩ | ⟨d, hd, hp⟩)
    · cases h
    · simp [(hds d (List.getElem?_mem hd)).2, Pc.pastInsert] at hp
  exact {
    threads := fun d hd => ⟨(hds d hd).1, by simp [(hds d hd).2, Pc.IdIs]⟩
    indices := fun _ h => by cases h
    once := fun i _ hi _ => absurd hi (hnot i)
    recorded := ⟨.inl, fun h => h.elim id fun ⟨i, hi⟩ => absurd hi (hnot i)⟩
    unseen := fun _ i => hnot i
    quiet := fun _ => ⟨rfl, rfl, rfl⟩
    winner := fun i _ _ hi => absurd hi (hnot i) }

theorem ReplayInv.get_of_dispatched {n : Node Delivery} (h : ReplayInv x s₀ n) {i : Nat}
    (hi : Dispatched n i) : ∃ d, n.threads[i]? = some d := by
  rcases hi with ⟨p, hp, -⟩ | ⟨d, hd, -⟩
  · exact ⟨_, (List.getElem?_eq_some_iff.mpr ⟨h.indices _ hp, rfl⟩)⟩
  · exact ⟨d, hd⟩

def ReplayOutcome (s₀ : State) (x : Url) (n : Node Delivery) : Prop :=
  (∀ e₁ ∈ n.trace, ∀ e₂ ∈ n.trace, e₁.2.pc.pastInsert → e₂.2.pc.pastInsert → e₁.1 = e₂.1) ∧
  (s₀.db.activity.Has x → ∀ e ∈ n.trace, e.2.pc.pastInsert = false) ∧
  n.state.sent.length ≤ s₀.sent.length + 1 ∧
  n.state.received.length ≤ s₀.received.length + 1 ∧
  (n.trace.filter (·.2.pc.writesFollower)).length ≤ 1 ∧
  (n.state.db.activity.rows.map (·.apId)).count x ≤ 1

theorem ReplayInv.outcome {n : Node Delivery} (h : ReplayInv x s₀ n) : ReplayOutcome s₀ x n := by
  have hdisp : ∀ e ∈ n.trace, e.2.pc.pastInsert → Dispatched n e.1 :=
    fun e he hp => .inl ⟨e.2, he, hp⟩
  have hcounts : n.state.sent.length ≤ s₀.sent.length + 1 ∧
      n.state.received.length ≤ s₀.received.length + 1 ∧
      (n.trace.filter (·.2.pc.writesFollower)).length ≤ 1 := by
    by_cases hq : ∀ i, ¬ Dispatched n i
    · obtain ⟨q1, q2, q3⟩ := h.quiet hq
      simp [q1, q2, q3]
    · obtain ⟨i, hi⟩ := not_forall_not.mp hq
      obtain ⟨d, hd⟩ := h.get_of_dispatched hi
      obtain ⟨w1, w2, w3⟩ := h.winner i d hd hi
      omega
  exact ⟨fun e₁ h₁ e₂ h₂ p₁ p₂ => h.once _ _ (hdisp e₁ h₁ p₁) (hdisp e₂ h₂ p₂),
    fun hx e he => by simpa using mt (hdisp e he) (h.unseen hx e.1), hcounts.1, hcounts.2.1,
    hcounts.2.2, n.state.db.activity.count_key_le_one x⟩

/-- Any number of deliveries carrying one activity id, to the same or different community
inboxes, interleaved in any order with any collaborator failures: at most one of them gets
past `insert_activity` into `community_receive_message`, so the run applies at most one
follower write, calls at most one content handler and sends at most one Accept or announce,
and at most one dedup record holds the id. A delivery that has not got there has no follower,
content, Accept or announce effect. -/
theorem replay_reaches_dispatch_at_most_once (cfg : Settings) (x : Url) (s : State)
    (ds : List Delivery) (hds : ∀ d ∈ ds, d.activity.id = some x ∧ d.pc = .verifySignature)
    (sched : List (Nat × Fault)) :
    ReplayOutcome s x (Node.run (Delivery.step cfg) (Node.start s ds) sched) ∧
    ∀ d f t, d.pc.pastInsert = false →
      (Delivery.step cfg d f t).2.db.communityFollower = t.db.communityFollower ∧
      (Delivery.step cfg d f t).2.sent = t.sent ∧ (Delivery.step cfg d f t).2.received = t.received :=
  ⟨(Node.run_inv _ (ReplayInv x s) (fun _ i f h => h.stepThread i f) (ReplayInv.start hds) sched).outcome,
    fun d f t hp => (next_moves d.pc f t).effects_eq hp⟩

def followTwice : List Delivery :=
  [⟨aliceFollowsTech, "tech", .verifySignature⟩, ⟨aliceFollowsTech, "tech", .verifySignature⟩]

def followTwiceSchedule : List (Nat × Fault) :=
  (List.replicate 9 [(0, .ok), (1, .ok)]).flatten

theorem replay_of_follow_twice :
    (∀ d ∈ followTwice, d.activity.id = some ⟨"b.example", "/activities/follow/1"⟩ ∧
      d.pc = .verifySignature) ∧
    (Node.run (Delivery.step scenarioSettings) (Node.start scenarioState followTwice)
      followTwiceSchedule).state.sent = [.acceptFollow tech.id aliceFollowsTech] ∧
    ReplayOutcome scenarioState ⟨"b.example", "/activities/follow/1"⟩
      (Node.run (Delivery.step scenarioSettings) (Node.start scenarioState followTwice)
        followTwiceSchedule) :=
  ⟨by decide, by decide, (replay_reaches_dispatch_at_most_once scenarioSettings
    ⟨"b.example", "/activities/follow/1"⟩ scenarioState followTwice (by decide) _).1⟩

section Retry

variable {cfg : Settings} {a : Activity} {path : String}

/-- Before `insert_activity` succeeded: the state is `s`, or `s` after the actor resolver, and
the values held are those the code computed from `a`. -/
def BeforeInsert (cfg : Settings) (a : Activity) (s : State) : Pc → State → Prop
  | .verifySignature, t => t = s
  | .checkSignature, t => Resolves cfg a s t
  | .checkKnown actor, t => Resolves cfg a s t ∧ actor = a.actor
  | .readCommunity actor id, t | .insert actor id _, t =>
    Resolves cfg a s t ∧ actor = a.actor ∧ getActivityId a actor = .ok id
  | .done _, t => t = s ∨ Resolves cfg a s t
  | _, _ => False

def RecordedSince (a : Activity) (s t : State) : Prop :=
  ∃ id, getActivityId a a.actor = .ok id ∧ ¬ s.db.activity.Has id ∧ t.db.activity.Has id ∧
    t.db.Knows a.actor

theorem BeforeInsert.eq {s t : State} {pc : Pc} (h : BeforeInsert cfg a s pc t) :
    t = s ∨ Resolves cfg a s t := by
  cases pc <;> first | exact .inl h | exact .inr h | exact .inr h.1 | exact h | exact h.elim

theorem Moves.knows {s t : State} {pc pc' : Pc} {f : Fault} {x : Url}
    (hm : Moves cfg a path pc f s pc' t) (hk : s.db.Knows x) : t.db.Knows x := by
  cases hm with
  | resolved hr => exact (resolveActor_persisted hr).knows hk
  | _ => exact hk

theorem Moves.retry_inv {s t t' : State} {pc pc' : Pc} {f : Fault}
    (hm : Moves cfg a path pc f t pc' t') (h : BeforeInsert cfg a s pc t ∨ RecordedSince a s t) :
    BeforeInsert cfg a s pc' t' ∨ RecordedSince a s t' := by
  rcases h with h | ⟨id, hid, hn, hk, ha⟩
  · cases hm with
    | fail => exact .inl h.eq
    | resolved hr =>
      subst h
      exact .inl ⟨_, hr, rfl⟩
    | verified => exact .inl ⟨h, rfl⟩
    | known => exact .inl (.inr h.1)
    | fresh hid =>
      obtain ⟨hv, rfl⟩ := h
      exact .inl ⟨hv, rfl, hid⟩
    | addressed => exact .inl h
    | inserted hn hrows =>
      obtain ⟨hv, rfl, hid⟩ := h
      exact .inr ⟨_, hid, hv.activity ▸ hn, by simp only [Table.Has, hrows, List.map_append]; simp,
        hv.knows⟩
    | stays => exact .inl h
    | _ => exact h.elim
  · exact .inr ⟨id, hid, hn, hm.has_mono hk, hm.knows ha⟩

theorem Resolves.deliver_eq {s v : State} (h : Resolves cfg a s v) :
    deliver cfg a path (fun _ => .ok) v = deliver cfg a path (fun _ => .ok) s := by
  simp only [deliver, runFrom, h.next_eq, h.self.next_eq]

/-- After any delivery of `a` from `s`, failed or not: either it stopped before
`insert_activity`, having changed nothing or only stored the sender through the actor resolver,
and a failure-free redelivery then ends as a failure-free delivery from `s` would; or it wrote
the dedup record of `a`'s id, which `s` did not hold, and a failure-free redelivery is then
acknowledged with `Ok` and changes nothing, whatever effects the first delivery did not
reach. -/
theorem retry_after_failure (cfg : Settings) (a : Activity) (path : String) (env : Pc → Fault)
    (s : State) :
    (((deliver cfg a path env s).2 = s ∨ Resolves cfg a s (deliver cfg a path env s).2) ∧
      deliver cfg a path (fun _ => .ok) (deliver cfg a path env s).2 =
        deliver cfg a path (fun _ => .ok) s) ∨
    ∃ id, getActivityId a a.actor = .ok id ∧ ¬ s.db.activity.Has id ∧
      (deliver cfg a path env s).2.db.activity.Has id ∧
      deliver cfg a path (fun _ => .ok) (deliver cfg a path env s).2 =
        (.done (.ok ()), (deliver cfg a path env s).2) := by
  rcases runFrom_inv (fun pc t => BeforeInsert cfg a s pc t ∨ RecordedSince a s t) env
      (fun _ _ _ _ hm h => hm.retry_inv h) 9 .verifySignature s (.inl rfl) with
    h | ⟨id, hid, hn, hk, ha⟩
  · refine .inl ⟨h.eq, ?_⟩
    rcases h.eq with h | h
    · rw [show (deliver cfg a path env s).2 = s from h]
    · exact h.deliver_eq
  · exact .inr ⟨id, hid, hn, hk, deliver_of_recorded hid hk ha⟩

theorem retry_after_person_read_failure_drops_follow :
    let env : Pc → Fault := fun pc => match pc with
      | .readPerson .. => .pool
      | _ => .ok
    let s₁ := (deliver scenarioSettings aliceFollowsTech "tech" env scenarioState).2
    (deliver scenarioSettings aliceFollowsTech "tech" env scenarioState).1 =
      .done (.error .blocking) ∧
    (deliver scenarioSettings aliceFollowsTech "tech" (fun _ => .ok) s₁).2.db.communityFollower.rows = [] ∧
    (deliver scenarioSettings aliceFollowsTech "tech" (fun _ => .ok) s₁).2.sent = [] ∧
    (deliver scenarioSettings aliceFollowsTech "tech" (fun _ => .ok) scenarioState).2.db.communityFollower.rows =
      [⟨tech.id, alice.id, some false⟩] ∧
    (deliver scenarioSettings aliceFollowsTech "tech" (fun _ => .ok) scenarioState).2.sent =
      [.acceptFollow tech.id aliceFollowsTech] := by
  decide

end Retry

end Lemmy.CommunityInbox
