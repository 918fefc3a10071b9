import Lemmy.Apub.Gate

namespace Lemmy.CommunityInbox

def Pc.isStorage : Pc → Bool
  | .checkKnown .. | .readCommunity .. | .insert .. | .readPerson .. | .checkBan .. | .follow ..
  | .readUndoPerson .. | .unfollow .. => true
  | _ => false

/-- The follower write a delivery of `a` signed by `p` asks for, read off its kind: a `Follow`
that `handle_follow`'s checks accept asks for the row (`some true`), an `Undo` of a `Follow` that
`handle_undo_follow`'s checks accept for its removal (`some false`), any other activity for
none. -/
def followRequest (a : Activity) (p : Person) : Option Bool :=
  match a.kind with
  | some .follow => if followChecks a p = .ok () then some true else none
  | some .undo =>
    if isSingleKind a.object "Follow" = true ∧ undoFollowChecks a a.actor = .ok () then some false
    else none
  | _ => none

def firstSeen (a : Activity) (s : State) : Bool :=
  match getActivityId a a.actor with
  | .ok id => !decide (s.db.activity.Has id)
  | .error _ => false

/-- The trust gate of the inbox for a delivery of `a` to `C` signed by the stored person `p`:
the signature verified, the id is first seen, `C` is addressed, the id is not local, and `p` is
banned neither from the site nor from `C`. -/
def passesGate (cfg : Settings) (a : Activity) (env : Pc → Fault) (s : State) (C : Community)
    (p : Person) : Bool :=
  decide (env .verifySignature = .ok) && decide (env .checkSignature = .ok) && firstSeen a s &&
    decide (C.actorId ∈ getActivityToAndCc a) && decide (assertActivityNotLocal cfg a = .ok ()) &&
    !p.banned && !decide (s.db.communityPersonBan.Has (C.id, p.id))

/-- Deliveries to the inbox of `path` processed one after another, each with how its calls
behave, and the follower write asked for by the last one that passed the gate and asked for
one. -/
def deliverAll (cfg : Settings) (path : String) (C : Community) (p : Person) :
    List (Activity × (Pc → Fault)) → State × Option Bool → State × Option Bool
  | [], r => r
  | (a, env) :: ds, (s, w) =>
    deliverAll cfg path C p ds ((deliver cfg a path env s).2,
      if passesGate cfg a env s C p then (followRequest a p).or w else w)

def Tracks (s₀ : State) (k : Nat × Nat) (t : State) (w : Option Bool) : Prop :=
  t.db.communityFollower.Has k ↔ w = some true ∨ w = none ∧ s₀.db.communityFollower.Has k

def Pc.quiet : Pc → Bool
  | .receive .. | .announce .. | .done _ => true
  | _ => false

variable {cfg : Settings} {a : Activity} {path : String} {env : Pc → Fault}

theorem passesGate_eq_true {s : State} {C : Community} {p : Person} :
    passesGate cfg a env s C p = true ↔ env .verifySignature = .ok ∧ env .checkSignature = .ok ∧
      firstSeen a s = true ∧ C.actorId ∈ getActivityToAndCc a ∧
      assertActivityNotLocal cfg a = .ok () ∧ p.banned = false ∧
      ¬ s.db.communityPersonBan.Has (C.id, p.id) := by
  simp only [passesGate, Bool.and_eq_true, decide_eq_true_eq, Bool.not_eq_true',
    decide_eq_false_iff_not, and_assoc]

theorem dispatch_followRequest (p : Person) (c : Community) :
    match followRequest a p with
    | some true => dispatch a a.actor p c = .follow p c
    | some false => dispatch a a.actor p c = .readUndoPerson a.actor c
    | none => (dispatch a a.actor p c).quiet = true := by
  unfold followRequest dispatch
  rcases a.kind with _ | ⟨_ | _ | _ | _ | _ | _ | _ | _⟩
  all_goals (repeat' split) <;> simp_all [Pc.quiet]

theorem Moves.quiet {pc pc' : Pc} {f : Fault} {t t' : State} (hm : Moves cfg a path pc f t pc' t')
    (hq : pc.quiet) : pc'.quiet ∧ t'.db.communityFollower = t.db.communityFollower := by
  cases hm <;> simp_all [Pc.quiet]

theorem runFrom_quiet_follower (n : Nat) {pc : Pc} {t : State} (hq : pc.quiet) :
    (runFrom cfg a path env n pc t).2.db.communityFollower = t.db.communityFollower :=
  (runFrom_inv (fun pc u => pc.quiet ∧ u.db.communityFollower = t.db.communityFollower) env
    (fun _ _ _ _ hm h => ⟨(hm.quiet h.1).1, (hm.quiet h.1).2.trans h.2⟩) n pc t ⟨hq, rfl⟩).2

theorem runFrom_succ_of_next {n : Nat} {pc pc' : Pc} {t t' : State}
    (h : next cfg a path pc (env pc) t = (pc', t')) :
    runFrom cfg a path env (n + 1) pc t = runFrom cfg a path env n pc' t' := by
  rw [runFrom, h]

theorem isActivityAlreadyKnown_of_not_has {id : Url} {db : Db} (h : ¬ db.activity.Has id) :
    isActivityAlreadyKnown .ok id db = .ok false := by
  simp [isActivityAlreadyKnown, blocking, Activity.readFromApubId, Db.found,
    Table.find?_eq_none_iff.mpr h]

theorem knows_of_readFromApubId {x : Url} {p : Person} {db : Db}
    (h : Person.readFromApubId x db = .ok (p, db)) : db.Knows x := by
  simp only [Person.readFromApubId, Db.found_eq_ok, and_true] at h
  exact .inl ⟨p, List.mem_of_find?_eq_some h, by simpa using List.find?_some h⟩

theorem readFromName_of_community_eq {C : Community} {db db' : Db} (h : db'.community = db.community)
    (hC : Community.readFromName path db = .ok (C, db)) :
    Community.readFromName path db' = .ok (C, db') := by
  simpa only [Community.readFromName, Db.found_eq_ok, h, and_true] using hC

theorem readFromApubId_of_person_eq {p : Person} {db db' : Db} {x : Url}
    (h : db'.person = db.person) (hp : Person.readFromApubId x db = .ok (p, db)) :
    Person.readFromApubId x db' = .ok (p, db') := by
  simpa only [Person.readFromApubId, Db.found_eq_ok, h, and_true] using hp

section Handshake

variable {s s₀ : State} {C : Community} {p : Person}

theorem deliver_actors (hk : s.db.Knows a.actor) :
    (deliver cfg a path env s).2.db.person = s.db.person ∧
      (deliver cfg a path env s).2.db.community = s.db.community := by
  by_contra hne
  obtain ⟨v, hv, hp, hc⟩ := (deliver_outcome cfg a path env s).actors_of_ne (by tauto)
  obtain rfl := hv.eq_of_knows hk
  exact hne ⟨hp, hc⟩

theorem deliver_eq_of_gate (hC : Community.readFromName path s.db = .ok (C, s.db))
    (hp : Person.readFromApubId a.actor s.db = .ok (p, s.db))
    (hst : ∀ pc, pc.isStorage → env pc = .ok) (hg : passesGate cfg a env s C p) :
    ∃ u : State, u.db.communityFollower = s.db.communityFollower ∧ u.db.person = s.db.person ∧
      deliver cfg a path env s = runFrom cfg a path env 2 (dispatch a a.actor p C) u := by
  obtain ⟨hv, hs, hfs, had, hloc, hb, hban⟩ := passesGate_eq_true.mp hg
  obtain ⟨id, hid, hn⟩ : ∃ id, getActivityId a a.actor = .ok id ∧ ¬ s.db.activity.Has id := by
    unfold firstSeen at hfs
    split at hfs
    · exact ⟨_, ‹_›, by simpa using hfs⟩
    · cases hfs
  obtain ⟨t, ht⟩ := Option.ne_none_iff_exists'.mp (mt Table.insert_eq_none_iff.mp hn :
    s.db.activity.insert ⟨id, false, true⟩ ≠ none)
  let u : State := { s with db := { s.db with activity := t } }
  have hres : Resolves cfg a s s :=
    ⟨_, resolveActor_of_person hp, rfl⟩
  have hp' := hp
  simp only [Person.readFromApubId, Db.found_eq_ok, and_true] at hp'
  refine ⟨u, rfl, rfl, ?_⟩
  calc deliver cfg a path env s
      = runFrom cfg a path env 8 .checkSignature s := runFrom_succ_of_next (hv ▸ hres.next_eq)
    _ = runFrom cfg a path env 7 (.checkKnown a.actor) s :=
      runFrom_succ_of_next (by simp [next, hs])
    _ = runFrom cfg a path env 6 (.readCommunity a.actor id) s :=
      runFrom_succ_of_next (by
        simp [next, hst (.checkKnown _) rfl, hid, isActivityAlreadyKnown_of_not_has hn])
    _ = runFrom cfg a path env 5 (.insert a.actor id C) s :=
      runFrom_succ_of_next (by
        simp [next, hst (.readCommunity _ _) rfl, blockingTry, blocking, hC, had, hloc])
    _ = runFrom cfg a path env 4 (.readPerson a.actor C) u :=
      runFrom_succ_of_next (by
        simp [next, hst (.insert _ _ _) rfl, blockingTry, blocking, insertActivity, ht, u])
    _ = runFrom cfg a path env 3 (.checkBan a.actor p C) u :=
      runFrom_succ_of_next (by
        simp [next, hst (.readPerson _ _) rfl, blockingTry, blocking, Person.readFromApubId,
          Db.found, hp', u])
    _ = runFrom cfg a path env 2 (dispatch a a.actor p C) u :=
      runFrom_succ_of_next (by
        simp [next, hst (.checkBan _ _ _) rfl, checkCommunityOrSiteBan, communityBanLookup, hb,
          blocking, CommunityPersonBanView.get, Db.found, Table.find?_eq_none_iff.mpr hban,
          Except.isOk, Except.toBool, u])

theorem deliver_follower_of_not_gate (hC : Community.readFromName path s.db = .ok (C, s.db))
    (hp : Person.readFromApubId a.actor s.db = .ok (p, s.db))
    (hst : ∀ pc, pc.isStorage → env pc = .ok) (hg : passesGate cfg a env s C p = false) :
    (deliver cfg a path env s).2.db.communityFollower = s.db.communityFollower := by
  by_contra hne
  obtain ⟨v, id, c, p', ht⟩ := (deliver_outcome cfg a path env s).trusted_of_effect (.inl hne)
  obtain rfl := ht.resolves.eq_of_knows (knows_of_readFromApubId hp)
  obtain ⟨rfl, -⟩ := Prod.mk.inj (Except.ok.inj (ht.community.symm.trans hC))
  obtain ⟨rfl, -⟩ := Prod.mk.inj (Except.ok.inj (ht.person.symm.trans hp))
  have hfs : firstSeen a v = true := by
    simp only [firstSeen, ht.activityId, ht.fresh, decide_False, Bool.not_false]
  rw [passesGate_eq_true.mpr ⟨ht.resolverOk, ht.signature, hfs, ht.addressed, ht.notLocal,
    ht.notSiteBanned, ht.notCommunityBanned (hst (.checkBan _ _ _) rfl)⟩] at hg
  cases hg

theorem deliver_tracks {w : Option Bool} (hC : Community.readFromName path s.db = .ok (C, s.db))
    (hp : Person.readFromApubId a.actor s.db = .ok (p, s.db)) (hst : ∀ pc, pc.isStorage → env pc = .ok)
    (hx : Tracks s₀ (C.id, p.id) s w) :
    Tracks s₀ (C.id, p.id) (deliver cfg a path env s).2
      (if passesGate cfg a env s C p then (followRequest a p).or w else w) := by
  cases hg : passesGate cfg a env s C p with
  | false => simpa only [Tracks, deliver_follower_of_not_gate hC hp hst hg] using hx
  | true =>
    obtain ⟨u, hu, hup, hd⟩ := deliver_eq_of_gate hC hp hst hg
    have hroute := dispatch_followRequest (a := a) p C
    simp only [if_true, hd]
    split at hroute
    · rename_i hr
      have h1 : next cfg a path (.follow p C) (env (.follow p C)) u = (.acceptFollow C, { u with
          db := { u.db with
            communityFollower := (followed .ok ⟨C.id, p.id, some false⟩ u.db.communityFollower) } }) := by
        rw [hst (.follow p C) rfl, next_follow (by decide)]
      have h2 : ∀ t : State, (runFrom cfg a path env 1 (.acceptFollow C) t).2.db.communityFollower =
          t.db.communityFollower := fun t => by
        simp only [runFrom, next]
        split <;> rfl
      rw [hroute, hr, runFrom_succ_of_next h1]
      simp only [Tracks, h2, followed, if_true, Option.or_some]
      exact iff_of_true (Table.has_insert_getD _ _) (.inl trivial)
    · rename_i hr
      have h1 : next cfg a path (.readUndoPerson a.actor C) (env (.readUndoPerson a.actor C)) u =
          (.unfollow p C, u) := by
        simp [next, hst (.readUndoPerson _ _) rfl, blockingTry, blocking,
          readFromApubId_of_person_eq hup hp]
      have h2 : next cfg a path (.unfollow p C) (env (.unfollow p C)) u = (.done (.ok ()), { u with
          db := { u.db with
            communityFollower := (u.db.communityFollower.deleteWhere (·.key = (C.id, p.id))) } }) := by
        simp [next, hst (.unfollow _ _) rfl, blocking, CommunityFollower.unfollow]
      rw [hroute, hr, runFrom_succ_of_next h1, runFrom_succ_of_next h2]
      simp only [Tracks, runFrom, Option.or_some]
      exact iff_of_false (Table.not_has_deleteWhere _ _) (by simp)
    · rename_i hr
      simpa only [Tracks, runFrom_quiet_follower 2 hroute, hu, hr, Option.none_or] using hx

theorem deliverAll_tracks : ∀ (ds : List (Activity × (Pc → Fault))) (t : State) (w : Option Bool),
    Community.readFromName path t.db = .ok (C, t.db) →
    Person.readFromApubId p.actorId t.db = .ok (p, t.db) → (∀ d ∈ ds, d.1.actor = p.actorId) →
    (∀ d ∈ ds, ∀ pc, pc.isStorage → d.2 pc = .ok) → Tracks s₀ (C.id, p.id) t w →
    Tracks s₀ (C.id, p.id) (deliverAll cfg path C p ds (t, w)).1 (deliverAll cfg path C p ds (t, w)).2
  | [], _, _, _, _, _, _, hx => hx
  | (a, env) :: ds, t, w, hC, hp, hs, hst, hx => by
    have ha : a.actor = p.actorId := hs _ (List.mem_cons_self _ _)
    obtain ⟨hperson, hcommunity⟩ :=
      @deliver_actors cfg a path env t (ha ▸ knows_of_readFromApubId hp)
    exact deliverAll_tracks ds _ _ (readFromName_of_community_eq hcommunity hC)
      (readFromApubId_of_person_eq hperson hp) (fun d hd => hs d (List.mem_cons_of_mem _ hd))
      (fun d hd => hst d (List.mem_cons_of_mem _ hd))
      (deliver_tracks hC (ha ▸ hp) (hst _ (List.mem_cons_self _ _)) hx)

end Handshake

example :
    let r := deliverAll scenarioSettings "tech" tech alice
      [(aliceFollowsTech, fun _ => .ok), (aliceUndoesFollow, fun _ => .ok),
        (aliceFollowsTech, fun _ => .ok)] (scenarioState, none)
    r.2 = some false ∧ ¬ r.1.db.communityFollower.Has (tech.id, alice.id) := by
  decide

end Lemmy.CommunityInbox
