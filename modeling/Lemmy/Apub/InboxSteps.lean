import Lemmy.Apub.CommunityInbox

namespace Lemmy

theorem isActivityAlreadyKnown_eq_ok {f : Fault} {id : Url} {db : Db} {b : Bool}
    (h : isActivityAlreadyKnown f id db = .ok b) : f = .ok ∧ (b = true ↔ db.activity.Has id) := by
  cases f with
  | pool => cases h
  | query => cases h
  | ok =>
    refine ⟨rfl, ?_⟩
    cases hf : db.activity.find? id with
    | none =>
      simp only [isActivityAlreadyKnown, blocking, Activity.readFromApubId, Db.found, hf] at h
      cases h
      simpa using Table.find?_eq_none_iff.mp hf
    | some r =>
      simp only [isActivityAlreadyKnown, blocking, Activity.readFromApubId, Db.found, hf] at h
      cases h
      have := Table.find?_eq_some hf
      simpa using ⟨r, this.1, this.2⟩

theorem isActivityAlreadyKnown_of_has {id : Url} {db : Db} (h : db.activity.Has id) :
    isActivityAlreadyKnown .ok id db = .ok true := by
  cases hf : db.activity.find? id with
  | none => exact absurd h (Table.find?_eq_none_iff.mp hf)
  | some r => simp [isActivityAlreadyKnown, blocking, Activity.readFromApubId, Db.found, hf]

namespace CommunityInbox

def Pc.pastInsert : Pc → Bool
  | .readPerson .. | .checkBan .. | .follow .. | .acceptFollow .. | .readUndoPerson ..
  | .unfollow .. | .receive .. | .announce .. => true
  | _ => false

def Pc.writesFollower : Pc → Bool
  | .follow .. | .unfollow .. => true
  | _ => false

def Pc.sendsLeft : Pc → Nat
  | .readPerson .. | .checkBan .. | .follow .. | .acceptFollow .. | .receive .. | .announce .. => 1
  | _ => 0

def Pc.receivesLeft : Pc → Nat
  | .readPerson .. | .checkBan .. | .receive .. => 1
  | _ => 0

def Pc.writesLeft : Pc → Nat
  | .readPerson .. | .checkBan .. | .follow .. | .readUndoPerson .. | .unfollow .. => 1
  | _ => 0

def Pc.IdIs (x : Url) : Pc → Prop
  | .readCommunity _ id | .insert _ id _ => id = x
  | _ => True

theorem Pc.left_le_one (pc : Pc) : pc.sendsLeft ≤ 1 ∧ pc.receivesLeft ≤ 1 ∧ pc.writesLeft ≤ 1 := by
  cases pc <;> simp [Pc.sendsLeft, Pc.receivesLeft, Pc.writesLeft]

theorem Pc.writesFollower_le (pc : Pc) : (if pc.writesFollower then 1 else 0) ≤ pc.writesLeft := by
  cases pc <;> simp [Pc.writesFollower, Pc.writesLeft]

theorem Pc.left_eq_zero {pc : Pc} (h : pc.pastInsert = false) :
    pc.sendsLeft = 0 ∧ pc.receivesLeft = 0 ∧ pc.writesLeft = 0 ∧ pc.writesFollower = false := by
  cases pc <;> simp_all [Pc.pastInsert, Pc.sendsLeft, Pc.receivesLeft, Pc.writesLeft,
    Pc.writesFollower]

variable {cfg : Settings} {a : Activity} {path : String}

theorem dispatch_cases (actor : Url) (p : Person) (c : Community) :
    dispatch a actor p c = .follow p c ∨ dispatch a actor p c = .readUndoPerson actor c ∨
      (∃ k, dispatch a actor p c = .receive k c) ∨ ∃ r, dispatch a actor p c = .done r := by
  unfold dispatch
  repeat' split
  all_goals simp

def followed (f : Fault) (row : CommunityFollower) (t : Table CommunityFollower.key) :
    Table CommunityFollower.key :=
  if f = .ok then (t.insert row).getD t else t

def unfollowed (f : Fault) (k : Nat × Nat) (t : Table CommunityFollower.key) :
    Table CommunityFollower.key :=
  if f = .ok then t.deleteWhere (·.key = k) else t

theorem mem_followed_iff {f : Fault} {row r : CommunityFollower} {t : Table CommunityFollower.key}
    (hr : r.key ≠ row.key) : r ∈ (followed f row t).rows ↔ r ∈ t.rows := by
  unfold followed
  split
  · cases h : t.insert row with
    | none => rfl
    | some t' =>
      rw [Option.getD_some, (Table.insert_eq_some h).2, List.mem_append, List.mem_singleton]
      exact or_iff_left fun e => hr (e ▸ rfl)
  · rfl

theorem mem_unfollowed_iff {f : Fault} {k : Nat × Nat} {r : CommunityFollower}
    {t : Table CommunityFollower.key} (hr : r.key ≠ k) :
    r ∈ (unfollowed f k t).rows ↔ r ∈ t.rows := by
  unfold unfollowed
  split
  · simp [hr]
  · rfl

/-- Everything one step of a delivery of `a` to `path` can do: the point it goes to, what it
writes, and what it must have found to get there. -/
inductive Moves (cfg : Settings) (a : Activity) (path : String) : Pc → Fault → State → Pc → State → Prop
  | fail {pc f s} (e : LemmyError) : (pc.writesFollower → f = .pool) →
      Moves cfg a path pc f s (.done (.error e)) s
  | resolved {s actor db} : resolveActor cfg.remote a.actor .ok s.db = .ok (actor, db) →
      Moves cfg a path .verifySignature .ok s .checkSignature { s with db }
  | verified {s} : Moves cfg a path .checkSignature .ok s (.checkKnown a.actor) s
  | known {actor id s} : getActivityId a actor = .ok id → s.db.activity.Has id →
      Moves cfg a path (.checkKnown actor) .ok s (.done (.ok ())) s
  | fresh {actor id s} : getActivityId a actor = .ok id → ¬ s.db.activity.Has id →
      Moves cfg a path (.checkKnown actor) .ok s (.readCommunity actor id) s
  | addressed {actor id c s} : Community.readFromName path s.db = .ok (c, s.db) →
      c.actorId ∈ getActivityToAndCc a → assertActivityNotLocal cfg a = .ok () →
      Moves cfg a path (.readCommunity actor id) .ok s (.insert actor id c) s
  | inserted {actor id c s} {t : Table ActivityRow.apId} : ¬ s.db.activity.Has id →
      t.rows = s.db.activity.rows ++ [⟨id, false, true⟩] →
      Moves cfg a path (.insert actor id c) .ok s (.readPerson actor c)
        { s with db := { s.db with activity := t } }
  | personRead {actor c s p} : Person.readFromApubId actor s.db = .ok (p, s.db) →
      Moves cfg a path (.readPerson actor c) .ok s (.checkBan actor p c) s
  | notBanned {actor p c f s} : p.banned = false → f ≠ .pool →
      (f = .ok → ¬ s.db.communityPersonBan.Has (c.id, p.id)) →
      Moves cfg a path (.checkBan actor p c) f s (dispatch a actor p c) s
  | follow {p c f s} : f ≠ .pool →
      Moves cfg a path (.follow p c) f s (.acceptFollow c)
        { s with db := { s.db with
          communityFollower := followed f ⟨c.id, p.id, some false⟩ s.db.communityFollower } }
  | accepted {c s} : Moves cfg a path (.acceptFollow c) .ok s (.done (.ok ()))
      { s with sent := s.sent ++ [.acceptFollow c.id a] }
  | undoPersonRead {actor c s p} : Person.readFromApubId actor s.db = .ok (p, s.db) →
      Moves cfg a path (.readUndoPerson actor c) .ok s (.unfollow p c) s
  | unfollow {p c f s} : f ≠ .pool →
      Moves cfg a path (.unfollow p c) f s (.done (.ok ()))
        { s with db := { s.db with
          communityFollower := unfollowed f (c.id, p.id) s.db.communityFollower } }
  | received {k c s} : Moves cfg a path (.receive k c) .ok s (.announce c)
      { s with received := s.received ++ [⟨k, a⟩] }
  | receiveFailed {k c f s} (e : LemmyError) : Moves cfg a path (.receive k c) f s (.done (.error e))
      { s with received := s.received ++ [⟨k, a⟩] }
  | announced {c s} : isAddressedToPublic a = .ok () →
      Moves cfg a path (.announce c) .ok s (.done (.ok ())) { s with sent := s.sent ++ [.announce c.id a] }
  | stays {r f s} : Moves cfg a path (.done r) f s (.done r) s

/-- `v` is `s` after the actor resolver of `inbox_verify_http_signature` found or persisted the
sender of `a`. -/
def Resolves (cfg : Settings) (a : Activity) (s v : State) : Prop :=
  ∃ actor, resolveActor cfg.remote a.actor .ok s.db = .ok (actor, v.db) ∧ v = { s with db := v.db }

namespace Resolves

variable {s v : State}

theorem persisted (h : Resolves cfg a s v) : Persisted a.actor s.db v.db :=
  resolveActor_persisted h.choose_spec.1

theorem eq (h : Resolves cfg a s v) :
    v = { s with db := { s.db with person := v.db.person, community := v.db.community } } := by
  have hd := h.persisted.db_eq
  obtain ⟨_, -, hv⟩ := h
  exact hv.trans (congrArg (fun db => ({ s with db } : State)) hd)

theorem activity (h : Resolves cfg a s v) : v.db.activity = s.db.activity := by rw [h.eq]

theorem follower (h : Resolves cfg a s v) : v.db.communityFollower = s.db.communityFollower := by
  rw [h.eq]

theorem sent (h : Resolves cfg a s v) : v.sent = s.sent := by rw [h.eq]

theorem received (h : Resolves cfg a s v) : v.received = s.received := by rw [h.eq]

theorem knows (h : Resolves cfg a s v) : v.db.Knows a.actor :=
  (resolveActor_eq_ok h.choose_spec.1).2

theorem eq_of_knows (h : Resolves cfg a s v) (hk : s.db.Knows a.actor) : v = s := by
  have hd := h.persisted.eq_of_knows hk
  obtain ⟨_, -, hv⟩ := h
  rw [hv, hd]

theorem self (h : Resolves cfg a s v) : Resolves cfg a v v :=
  let ⟨actor, hr⟩ := resolveActor_of_knows cfg.remote h.knows
  ⟨actor, hr, rfl⟩

theorem next_eq (h : Resolves cfg a s v) :
    next cfg a path .verifySignature .ok s = (.checkSignature, v) := by
  obtain ⟨_, hr, hv⟩ := h
  simp only [next, hr]
  exact congrArg _ hv.symm

end Resolves

theorem next_follow {f : Fault} (hf : f ≠ .pool) (p : Person) (c : Community) (s : State) :
    next cfg a path (.follow p c) f s = (.acceptFollow c, { s with db := { s.db with
      communityFollower := followed f ⟨c.id, p.id, some false⟩ s.db.communityFollower } }) := by
  cases f with
  | pool => exact absurd rfl hf
  | query => rfl
  | ok =>
    cases ht : s.db.communityFollower.insert ⟨c.id, p.id, some false⟩ <;>
      simp [next, blocking, CommunityFollower.follow, followed, ht]

theorem next_moves (pc : Pc) (f : Fault) (s : State) :
    Moves cfg a path pc f s (next cfg a path pc f s).1 (next cfg a path pc f s).2 := by
  cases pc with
  | verifySignature =>
    simp only [next]
    split
    · exact .fail _ nofun
    · rename_i actor db h
      cases f with
      | ok => exact .resolved h
      | pool | query => cases h
  | checkSignature =>
    by_cases hf : f = .ok
    · subst hf; exact .verified
    · simp only [next, if_neg hf]; exact .fail _ nofun
  | checkKnown actor =>
    simp only [next]
    split
    · exact .fail _ nofun
    · rename_i id hid
      split
      · exact .fail _ nofun
      · obtain ⟨rfl, h⟩ := isActivityAlreadyKnown_eq_ok ‹_›
        exact .known hid (h.mp rfl)
      · obtain ⟨rfl, h⟩ := isActivityAlreadyKnown_eq_ok ‹_›
        exact .fresh hid (by simpa using h)
  | readCommunity actor id =>
    simp only [next]
    split
    · exact .fail _ nofun
    · rename_i c db h
      obtain ⟨rfl, hq⟩ := blockingTry_eq_ok h
      obtain rfl : db = s.db := (Db.found_eq_ok.mp hq).2
      split
      · split
        · exact .addressed hq ‹_› ‹_›
        · exact .fail _ nofun
      · exact .fail _ nofun
  | insert actor id c =>
    simp only [next]
    split
    · exact .fail _ nofun
    · rename_i r db h
      obtain ⟨rfl, hq⟩ := blockingTry_eq_ok h
      obtain ⟨hn, hrows, hdb⟩ := insertActivity_db hq
      rw [hdb]
      exact .inserted hn hrows
  | readPerson actor c =>
    simp only [next]
    split
    · exact .fail _ nofun
    · rename_i p db h
      obtain ⟨rfl, hq⟩ := blockingTry_eq_ok h
      obtain rfl : db = s.db := (Db.found_eq_ok.mp hq).2
      exact .personRead hq
  | checkBan actor p c =>
    cases hb : p.banned with
    | true => simp only [next, checkCommunityOrSiteBan, hb, if_true]; exact .fail _ nofun
    | false =>
      cases f with
      | pool => simp [next, checkCommunityOrSiteBan, communityBanLookup, hb]; exact .fail _ nofun
      | query =>
        simp [next, checkCommunityOrSiteBan, communityBanLookup, hb]
        exact .notBanned hb (by decide) (fun h => nomatch h)
      | ok =>
        cases hf : s.db.communityPersonBan.find? (c.id, p.id) with
        | none =>
          simp [next, checkCommunityOrSiteBan, communityBanLookup, hb, blocking, CommunityPersonBanView.get,
            Db.found, hf]
          exact .notBanned hb (by decide) (fun _ => Table.find?_eq_none_iff.mp hf)
        | some b =>
          simp [next, checkCommunityOrSiteBan, communityBanLookup, hb, blocking, CommunityPersonBanView.get,
            Db.found, hf]
          exact .fail _ nofun
  | follow p c =>
    cases f with
    | pool => exact .fail _ (fun _ => rfl)
    | query | ok =>
      rw [next_follow (by decide)]
      exact .follow (by decide)
  | acceptFollow c =>
    by_cases hf : f = .ok
    · subst hf; exact .accepted
    · simp only [next, if_neg hf]; exact .fail _ nofun
  | readUndoPerson actor c =>
    simp only [next]
    split
    · exact .fail _ nofun
    · rename_i p db h
      obtain ⟨rfl, hq⟩ := blockingTry_eq_ok h
      obtain rfl : db = s.db := (Db.found_eq_ok.mp hq).2
      exact .undoPersonRead hq
  | unfollow p c =>
    cases f with
    | pool => exact .fail _ (fun _ => rfl)
    | query => exact .unfollow (by decide)
    | ok => exact .unfollow (by decide)
  | receive k c =>
    by_cases hf : f = .ok
    · subst hf; exact .received
    · simp only [next, if_neg hf]; exact .receiveFailed _
  | announce c =>
    simp only [next]
    split
    · exact .fail _ nofun
    · by_cases hf : f = .ok
      · subst hf; exact .announced ‹_›
      · simp only [if_neg hf]; exact .fail _ nofun
  | done r => exact .stays

@[simp] theorem runFrom_done (env : Pc → Fault) (n : Nat) (r : Except LemmyError Unit) (s : State) :
    runFrom cfg a path env n (.done r) s = (.done r, s) := by
  induction n <;> simp_all [runFrom, next]

theorem runFrom_inv (Inv : Pc → State → Prop) (env : Pc → Fault)
    (hstep : ∀ pc s pc' s', Moves cfg a path pc (env pc) s pc' s' → Inv pc s → Inv pc' s') :
    ∀ n pc s, Inv pc s → Inv (runFrom cfg a path env n pc s).1 (runFrom cfg a path env n pc s).2
  | 0, _, _, h => h
  | n + 1, pc, s, h => runFrom_inv Inv env hstep n _ _ (hstep _ _ _ _ (next_moves pc (env pc) s) h)

theorem deliver_of_recorded {id : Url} {s : State} (hid : getActivityId a a.actor = .ok id)
    (h : s.db.activity.Has id) (hk : s.db.Knows a.actor) :
    deliver cfg a path (fun _ => .ok) s = (.done (.ok ()), s) := by
  obtain ⟨actor, hr⟩ := resolveActor_of_knows cfg.remote hk
  simp [deliver, runFrom, next, hr, hid, isActivityAlreadyKnown_of_has h]

namespace Moves

variable {pc pc' : Pc} {f : Fault} {s s' : State}

theorem effects_eq (h : Moves cfg a path pc f s pc' s') (hp : pc.pastInsert = false) :
    s'.db.communityFollower = s.db.communityFollower ∧ s'.sent = s.sent ∧
      s'.received = s.received := by
  cases h with
  | resolved hr => exact ⟨(congrArg Db.communityFollower (resolveActor_persisted hr).db_eq :), rfl, rfl⟩
  | _ => simp_all [Pc.pastInsert]

theorem activity_cases (h : Moves cfg a path pc f s pc' s') :
    (s'.db.activity = s.db.activity ∧ (pc'.pastInsert → pc.pastInsert)) ∨
    ∃ actor id c, pc = .insert actor id c ∧ pc' = .readPerson actor c ∧ ¬ s.db.activity.Has id ∧
      s'.db.activity.rows = s.db.activity.rows ++ [⟨id, false, true⟩] := by
  cases h with
  | inserted hn ht => exact .inr ⟨_, _, _, rfl, rfl, hn, ht⟩
  | resolved hr =>
    exact .inl ⟨(congrArg Db.activity (resolveActor_persisted hr).db_eq :), by simp [Pc.pastInsert]⟩
  | _ => exact .inl ⟨rfl, by simp [Pc.pastInsert]⟩

theorem idIs {x : Url} (h : Moves cfg a path pc f s pc' s') (ha : a.id = some x)
    (hp : pc.IdIs x) : pc'.IdIs x := by
  cases h with
  | fresh hid _ => simpa [Pc.IdIs, ha] using (getActivityId_eq_ok hid).symm
  | addressed => exact hp
  | notBanned =>
    rcases dispatch_cases (a := a) _ _ _ with h | h | ⟨k, h⟩ | ⟨r, h⟩ <;> rw [h] <;> trivial
  | _ => trivial

theorem left_le (h : Moves cfg a path pc f s pc' s') (hp : pc.pastInsert) :
    s'.sent.length + pc'.sendsLeft ≤ s.sent.length + pc.sendsLeft ∧
    s'.received.length + pc'.receivesLeft ≤ s.received.length + pc.receivesLeft ∧
    (if pc.writesFollower then 1 else 0) + pc'.writesLeft ≤ pc.writesLeft := by
  cases h with
  | @notBanned actor p c =>
    obtain ⟨h1, h2, h3⟩ := Pc.left_le_one (dispatch a actor p c)
    exact ⟨Nat.add_le_add_left h1 _, Nat.add_le_add_left h2 _, by show 0 + _ ≤ 1; omega⟩
  | fail =>
    exact ⟨Nat.add_le_add_left (Nat.zero_le _) _, Nat.add_le_add_left (Nat.zero_le _) _,
      Pc.writesFollower_le pc⟩
  | _ => simp_all [Pc.pastInsert, Pc.sendsLeft, Pc.receivesLeft, Pc.writesLeft, Pc.writesFollower]

theorem has_mono (h : Moves cfg a path pc f s pc' s') {k : Url} (hk : s.db.activity.Has k) :
    s'.db.activity.Has k := by
  rcases h.activity_cases with ⟨he, -⟩ | ⟨_, _, _, -, -, -, hrows⟩
  · rwa [he]
  · simp only [Table.has_iff, hrows, List.mem_append] at hk ⊢
    obtain ⟨r, hr, rfl⟩ := hk
    exact ⟨r, .inl hr, rfl⟩

end Moves

end CommunityInbox

end Lemmy
