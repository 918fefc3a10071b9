import Lemmy.Apub.InboxSteps

namespace Lemmy.CommunityInbox

/-- `inbox_verify_http_signature` passed: the resolver call succeeded, leaving `v`, and the
signature verified. -/
structure Verified (cfg : Settings) (a : Activity) (env : Pc → Fault) (s v : State) : Prop where
  resolverOk : env .verifySignature = .ok
  resolves : Resolves cfg a s v
  signature : env .checkSignature = .ok

/-- The checks of `community_inbox` before `insert_activity`, as they come out on the state `v`
the actor resolver left. -/
structure Admitted (cfg : Settings) (a : Activity) (path : String) (env : Pc → Fault) (s v : State)
    (id : Url) (c : Community) extends Verified cfg a env s v : Prop where
  activityId : getActivityId a a.actor = .ok id
  fresh : ¬ v.db.activity.Has id
  community : Community.readFromName path v.db = .ok (c, v.db)
  addressed : c.actorId ∈ getActivityToAndCc a
  notLocal : assertActivityNotLocal cfg a = .ok ()

/-- Admitted, and the checks of `community_receive_message` before its dispatch: the sender is
a person, not banned from the site, and the community ban lookup ran and reported no ban (a
lookup that fails counts as no ban). -/
structure Trusted (cfg : Settings) (a : Activity) (path : String) (env : Pc → Fault) (s v : State)
    (id : Url) (c : Community) (p : Person) extends Admitted cfg a path env s v id c : Prop where
  person : Person.readFromApubId a.actor v.db = .ok (p, v.db)
  notSiteBanned : p.banned = false
  lookupRan : env (.checkBan a.actor p c) ≠ .pool
  notCommunityBanned : env (.checkBan a.actor p c) = .ok → ¬ v.db.communityPersonBan.Has (c.id, p.id)

def Recorded (s : State) (id : Url) (u : State) : Prop :=
  ∃ t : Table ActivityRow.apId, t.rows = s.db.activity.rows ++ [⟨id, false, true⟩] ∧
    u = { s with db := { s.db with activity := t } }

namespace Recorded

variable {s u : State} {id : Url}

theorem rows (h : Recorded s id u) : u.db.activity.rows = s.db.activity.rows ++ [⟨id, false, true⟩] := by
  obtain ⟨t, ht, rfl⟩ := h
  exact ht

theorem sent (h : Recorded s id u) : u.sent = s.sent := by
  obtain ⟨t, -, rfl⟩ := h
  rfl

theorem received (h : Recorded s id u) : u.received = s.received := by
  obtain ⟨t, -, rfl⟩ := h
  rfl

theorem follower (h : Recorded s id u) : u.db.communityFollower = s.db.communityFollower := by
  obtain ⟨t, -, rfl⟩ := h
  rfl

theorem ban (h : Recorded s id u) : u.db.communityPersonBan = s.db.communityPersonBan := by
  obtain ⟨t, -, rfl⟩ := h
  rfl

theorem actors (h : Recorded s id u) : u.db.person = s.db.person ∧ u.db.community = s.db.community := by
  obtain ⟨t, -, rfl⟩ := h
  exact ⟨rfl, rfl⟩

theorem readFromApubId (h : Recorded s id u) {x : Url} {p : Person}
    (hp : Person.readFromApubId x u.db = .ok (p, u.db)) :
    Person.readFromApubId x s.db = .ok (p, s.db) := by
  obtain ⟨t, -, rfl⟩ := h
  simpa only [Person.readFromApubId, Db.found_eq_ok, and_true] using hp

end Recorded

section Outcome

variable (cfg : Settings) (a : Activity) (path : String) (env : Pc → Fault) (s : State)

inductive Outcome : State → Prop
  | unchanged : Outcome s
  | resolved {v} : env .verifySignature = .ok → Resolves cfg a s v → Outcome v
  | recorded {v id c u} : Admitted cfg a path env s v id c → Recorded v id u → Outcome u
  | followed {v id c p u} : Trusted cfg a path env s v id c p → dispatch a a.actor p c = .follow p c →
      env (.follow p c) ≠ .pool → Recorded v id u →
      Outcome { u with db := { u.db with
        communityFollower := followed (env (.follow p c)) ⟨c.id, p.id, some false⟩ u.db.communityFollower } }
  | accepted {v id c p u} : Trusted cfg a path env s v id c p → dispatch a a.actor p c = .follow p c →
      env (.follow p c) ≠ .pool → env (.acceptFollow c) = .ok → Recorded v id u →
      Outcome { u with
        db := { u.db with
          communityFollower := followed (env (.follow p c)) ⟨c.id, p.id, some false⟩ u.db.communityFollower },
        sent := u.sent ++ [.acceptFollow c.id a] }
  | unfollowed {v id c p u} : Trusted cfg a path env s v id c p →
      dispatch a a.actor p c = .readUndoPerson a.actor c → env (.readUndoPerson a.actor c) = .ok →
      env (.unfollow p c) ≠ .pool → Recorded v id u →
      Outcome { u with db := { u.db with
        communityFollower := unfollowed (env (.unfollow p c)) (c.id, p.id) u.db.communityFollower } }
  | handled {v id c p k u} : Trusted cfg a path env s v id c p → dispatch a a.actor p c = .receive k c →
      Recorded v id u → Outcome { u with received := u.received ++ [⟨k, a⟩] }
  | announced {v id c p k u} : Trusted cfg a path env s v id c p →
      dispatch a a.actor p c = .receive k c → env (.receive k c) = .ok →
      isAddressedToPublic a = .ok () → env (.announce c) = .ok → Recorded v id u →
      Outcome { u with received := u.received ++ [⟨k, a⟩], sent := u.sent ++ [.announce c.id a] }

def Reach : Pc → State → Prop
  | .verifySignature, t => t = s
  | .checkSignature, t => env .verifySignature = .ok ∧ Resolves cfg a s t
  | .checkKnown actor, t => actor = a.actor ∧ Verified cfg a env s t
  | .readCommunity actor id, t => actor = a.actor ∧ Verified cfg a env s t ∧
      getActivityId a a.actor = .ok id ∧ ¬ t.db.activity.Has id
  | .insert actor id c, t => actor = a.actor ∧ Admitted cfg a path env s t id c
  | .readPerson actor c, t => actor = a.actor ∧ ∃ v id, Admitted cfg a path env s v id c ∧ Recorded v id t
  | .checkBan actor p c, t => actor = a.actor ∧ ∃ v id, Admitted cfg a path env s v id c ∧
      Recorded v id t ∧ Person.readFromApubId a.actor v.db = .ok (p, v.db)
  | .follow p c, t => ∃ v id, Trusted cfg a path env s v id c p ∧ dispatch a a.actor p c = .follow p c ∧
      Recorded v id t
  | .acceptFollow c, t => ∃ v id p u, Trusted cfg a path env s v id c p ∧
      dispatch a a.actor p c = .follow p c ∧ env (.follow p c) ≠ .pool ∧ Recorded v id u ∧
      t = { u with db := { u.db with
        communityFollower := followed (env (.follow p c)) ⟨c.id, p.id, some false⟩ u.db.communityFollower } }
  | .readUndoPerson actor c, t => actor = a.actor ∧ ∃ v id p, Trusted cfg a path env s v id c p ∧
      dispatch a a.actor p c = .readUndoPerson a.actor c ∧ Recorded v id t
  | .unfollow p c, t => ∃ v id, Trusted cfg a path env s v id c p ∧
      dispatch a a.actor p c = .readUndoPerson a.actor c ∧ env (.readUndoPerson a.actor c) = .ok ∧
      Recorded v id t
  | .receive k c, t => ∃ v id p, Trusted cfg a path env s v id c p ∧
      dispatch a a.actor p c = .receive k c ∧ Recorded v id t
  | .announce c, t => ∃ v id p k u, Trusted cfg a path env s v id c p ∧
      dispatch a a.actor p c = .receive k c ∧ env (.receive k c) = .ok ∧ Recorded v id u ∧
      t = { u with received := u.received ++ [⟨k, a⟩] }
  | .done _, t => Outcome cfg a path env s t

end Outcome

variable {cfg : Settings} {a : Activity} {path : String} {env : Pc → Fault} {s : State}

theorem Reach.outcome : ∀ {pc t}, Reach cfg a path env s pc t → Outcome cfg a path env s t
  | .verifySignature, _, h => h ▸ .unchanged
  | .checkSignature, _, h => .resolved h.1 h.2
  | .checkKnown _, _, h => .resolved h.2.resolverOk h.2.resolves
  | .readCommunity .., _, h => .resolved h.2.1.resolverOk h.2.1.resolves
  | .insert .., _, h => .resolved h.2.resolverOk h.2.resolves
  | .readPerson .., _, ⟨_, _, _, ha, hr⟩ | .checkBan .., _, ⟨_, _, _, ha, hr, _⟩ => .recorded ha hr
  | .follow .., _, ⟨_, _, ht, _, hr⟩ | .readUndoPerson .., _, ⟨_, _, _, _, ht, _, hr⟩
  | .unfollow .., _, ⟨_, _, ht, _, _, hr⟩ | .receive .., _, ⟨_, _, _, ht, _, hr⟩ =>
    .recorded ht.toAdmitted hr
  | .acceptFollow _, _, ⟨_, _, _, _, ht, hd, hp, hr, he⟩ => he ▸ .followed ht hd hp hr
  | .announce _, _, ⟨_, _, _, _, _, ht, hd, _, hr, he⟩ => he ▸ .handled ht hd hr
  | .done _, _, h => h

theorem Moves.reach {pc pc' : Pc} {t t' : State} (hm : Moves cfg a path pc (env pc) t pc' t')
    (h : Reach cfg a path env s pc t) : Reach cfg a path env s pc' t' := by
  generalize hf : env pc = f at hm
  cases hm with
  | fail => exact h.outcome
  | resolved hr =>
    subst h
    exact ⟨hf, _, hr, rfl⟩
  | verified => exact ⟨rfl, h.1, h.2, hf⟩
  | known => exact .resolved h.2.resolverOk h.2.resolves
  | fresh hid hn =>
    obtain ⟨rfl, hv⟩ := h
    exact ⟨rfl, hv, hid, hn⟩
  | addressed hc ha hl =>
    obtain ⟨rfl, hv, hid, hn⟩ := h
    exact ⟨rfl, hv, hid, hn, hc, ha, hl⟩
  | inserted _ hrows =>
    obtain ⟨rfl, had⟩ := h
    exact ⟨rfl, _, _, had, _, hrows, rfl⟩
  | personRead hq =>
    obtain ⟨rfl, v, id, had, hr⟩ := h
    exact ⟨rfl, v, id, had, hr, hr.readFromApubId hq⟩
  | @notBanned actor p c _ _ hb hpool hban =>
    subst hf
    obtain ⟨rfl, v, id, had, hr, hq⟩ := h
    have ht : Trusted cfg a path env s v id c p :=
      ⟨had, hq, hb, hpool, fun hok => hr.ban ▸ hban hok⟩
    rcases @dispatch_cases a a.actor p c with hd | hd | ⟨k, hd⟩ | ⟨r, hd⟩ <;> rw [hd]
    · exact ⟨v, id, ht, hd, hr⟩
    · exact ⟨rfl, v, id, p, ht, hd, hr⟩
    · exact ⟨v, id, p, ht, hd, hr⟩
    · exact .recorded had hr
  | follow hpool =>
    subst hf
    obtain ⟨v, id, ht, hd, hr⟩ := h
    exact ⟨v, id, _, _, ht, hd, hpool, hr, rfl⟩
  | accepted =>
    obtain ⟨v, id, p, u, ht, hd, hp, hr, rfl⟩ := h
    exact .accepted ht hd hp hf hr
  | undoPersonRead hq =>
    obtain ⟨rfl, v, id, p, ht, hd, hr⟩ := h
    obtain ⟨rfl, -⟩ := Prod.mk.inj (Except.ok.inj ((hr.readFromApubId hq).symm.trans ht.person))
    exact ⟨v, id, ht, hd, hf, hr⟩
  | unfollow hpool =>
    subst hf
    obtain ⟨v, id, ht, hd, hu, hr⟩ := h
    exact .unfollowed ht hd hu hpool hr
  | received =>
    obtain ⟨v, id, p, ht, hd, hr⟩ := h
    exact ⟨v, id, p, _, _, ht, hd, hf, hr, rfl⟩
  | receiveFailed =>
    obtain ⟨v, id, p, ht, hd, hr⟩ := h
    exact .handled ht hd hr
  | announced hpub =>
    obtain ⟨v, id, p, k, u, ht, hd, hk, hr, rfl⟩ := h
    exact .announced ht hd hk hpub hf hr
  | stays => exact h

theorem deliver_outcome (cfg : Settings) (a : Activity) (path : String) (env : Pc → Fault)
    (s : State) : Outcome cfg a path env s (deliver cfg a path env s).2 :=
  (runFrom_inv (Reach cfg a path env s) env (fun _ _ _ _ hm h => hm.reach h) 9 .verifySignature s rfl).outcome

theorem dispatch_of_remove {actor : Url} {p : Person} {c : Community}
    (h : a.kind = some .remove) : dispatch a actor p c = .done (.ok ()) := by
  simp [dispatch, h]

theorem dispatch_eq_receive {actor : Url} {p : Person} {c c' : Community} {k : CommunityValidTypes}
    (h : dispatch a actor p c = .receive k c') :
    a.kind = some k ∧ (k ∈ [.create, .update, .like, .dislike, .delete] ∨
      k = .undo ∧ isSingleKind a.object "Follow" = false) := by
  cases hk : a.kind with
  | none => simp [dispatch, hk] at h
  | some k' =>
    cases k' <;> simp only [dispatch, hk] at h
    all_goals (repeat' split at h) <;> simp_all

namespace Outcome

variable {t : State}

theorem actors_of_ne (h : Outcome cfg a path env s t)
    (hne : t.db.person ≠ s.db.person ∨ t.db.community ≠ s.db.community) :
    ∃ v, Resolves cfg a s v ∧ t.db.person = v.db.person ∧ t.db.community = v.db.community := by
  cases h with
  | unchanged => simp at hne
  | resolved _ hv => exact ⟨_, hv, rfl, rfl⟩
  | recorded ha hr | followed ha _ _ hr | accepted ha _ _ _ hr | unfollowed ha _ _ _ hr
  | handled ha _ hr | announced ha _ _ _ _ hr => exact ⟨_, ha.resolves, hr.actors⟩

theorem activity_of_ne (h : Outcome cfg a path env s t) (hne : t.db.activity ≠ s.db.activity) :
    ∃ v id c, Admitted cfg a path env s v id c ∧
      t.db.activity.rows = s.db.activity.rows ++ [⟨id, false, true⟩] := by
  cases h with
  | unchanged => exact absurd rfl hne
  | resolved _ hv => exact absurd hv.activity hne
  | recorded ha hr => exact ⟨_, _, _, ha, by rw [hr.rows, ha.resolves.activity]⟩
  | followed ht _ _ hr | accepted ht _ _ _ hr | unfollowed ht _ _ _ hr | handled ht _ hr
  | announced ht _ _ _ _ hr => exact ⟨_, _, _, ht.toAdmitted, by rw [hr.rows, ht.resolves.activity]⟩

theorem trusted_of_effect (h : Outcome cfg a path env s t)
    (he : t.db.communityFollower ≠ s.db.communityFollower ∨ t.received ≠ s.received ∨
      t.sent ≠ s.sent) : ∃ v id c p, Trusted cfg a path env s v id c p := by
  cases h with
  | unchanged => simp at he
  | resolved _ hv => simp [hv.follower, hv.received, hv.sent] at he
  | recorded ha hr =>
    simp [hr.follower, hr.received, hr.sent, ha.resolves.follower, ha.resolves.received,
      ha.resolves.sent] at he
  | followed ht _ _ _ | accepted ht _ _ _ _ | unfollowed ht _ _ _ _ | handled ht _ _
  | announced ht _ _ _ _ _ => exact ⟨_, _, _, _, ht⟩

theorem announce_sent (h : Outcome cfg a path env s t) {cid : Nat} {b : Activity}
    (hin : Outgoing.announce cid b ∈ t.sent) (hout : Outgoing.announce cid b ∉ s.sent) :
    b = a ∧ ∃ v id c p k, Trusted cfg a path env s v id c p ∧ cid = c.id ∧
      dispatch a a.actor p c = .receive k c ∧ env (.receive k c) = .ok ∧
      t.received = s.received ++ [⟨k, a⟩] ∧ isAddressedToPublic a = .ok () := by
  cases h with
  | unchanged => exact absurd hin hout
  | resolved _ hv =>
    rw [hv.sent] at hin
    exact absurd hin hout
  | recorded ha hr | followed ha _ _ hr | unfollowed ha _ _ _ hr | handled ha _ hr =>
    simp only [hr.sent, ha.resolves.sent] at hin
    exact absurd hin hout
  | accepted ht _ _ _ hr =>
    simp [hr.sent, ht.resolves.sent] at hin
    exact absurd hin hout
  | announced ht hd hk hpub _ hr =>
    simp [hr.sent, ht.resolves.sent, hout] at hin
    obtain ⟨rfl, rfl⟩ := hin
    exact ⟨rfl, _, _, _, _, _, ht, rfl, hd, hk, by rw [hr.received, ht.resolves.received], hpub⟩

theorem follower_confined (h : Outcome cfg a path env s t) (r : CommunityFollower) :
    (r ∈ t.db.communityFollower.rows ↔ r ∈ s.db.communityFollower.rows) ∨
      ∃ v c p, Resolves cfg a s v ∧ Community.readFromName path v.db = .ok (c, v.db) ∧
        Person.readFromApubId a.actor v.db = .ok (p, v.db) ∧ r.key = (c.id, p.id) := by
  by_cases hk : ∃ v c p, Resolves cfg a s v ∧ Community.readFromName path v.db = .ok (c, v.db) ∧
      Person.readFromApubId a.actor v.db = .ok (p, v.db) ∧ r.key = (c.id, p.id)
  · exact .inr hk
  have hne : ∀ {v id c p}, Trusted cfg a path env s v id c p → r.key ≠ (c.id, p.id) :=
    fun ht e => hk ⟨_, _, _, ht.resolves, ht.community, ht.person, e⟩
  refine .inl ?_
  cases h with
  | unchanged => rfl
  | resolved _ hv => rw [hv.follower]
  | recorded ha hr | handled ha _ hr | announced ha _ _ _ _ hr =>
    rw [hr.follower, ha.resolves.follower]
  | followed ht _ _ hr | accepted ht _ _ _ hr =>
    rw [mem_followed_iff (hne ht), hr.follower, ht.resolves.follower]
  | unfollowed ht _ _ _ hr => rw [mem_unfollowed_iff (hne ht), hr.follower, ht.resolves.follower]

theorem effects_of_remove (h : Outcome cfg a path env s t) (hk : a.kind = some .remove) :
    t.db.communityFollower = s.db.communityFollower ∧ t.sent = s.sent ∧ t.received = s.received := by
  cases h with
  | unchanged => exact ⟨rfl, rfl, rfl⟩
  | resolved _ hv => exact ⟨hv.follower, hv.sent, hv.received⟩
  | recorded ha hr =>
    exact ⟨hr.follower.trans ha.resolves.follower, hr.sent.trans ha.resolves.sent,
      hr.received.trans ha.resolves.received⟩
  | followed _ hd _ _ | accepted _ hd _ _ _ | unfollowed _ hd _ _ _ | handled _ hd _
  | announced _ hd _ _ _ _ =>
    rw [dispatch_of_remove hk] at hd
    cases hd

end Outcome

end Lemmy.CommunityInbox
