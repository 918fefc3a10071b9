import Lemmy.Apub.Handshake

namespace Lemmy

/-- The community with its `removed` and `deleted` flags cleared. -/
def Community.eraseStatus (c : Community) : Community :=
  { c with removed := false, deleted := false }

@[simp] theorem Community.eraseStatus_id (c : Community) : c.eraseStatus.id = c.id := rfl

@[simp] theorem Community.eraseStatus_actorId (c : Community) :
    c.eraseStatus.actorId = c.actorId := rfl

def Db.eraseStatus (db : Db) : Db :=
  { db with community := db.community.modify Community.eraseStatus fun _ => rfl }

def State.eraseStatus (s : State) : State := { s with db := s.db.eraseStatus }

theorem Db.eraseStatus_eraseStatus (db : Db) : db.eraseStatus.eraseStatus = db.eraseStatus := by
  simp only [Db.eraseStatus]
  congr 1
  exact Table.ext_rows (by simp only [Table.modify, List.map_map]; rfl)

theorem State.eraseStatus_eraseStatus (s : State) : s.eraseStatus.eraseStatus = s.eraseStatus := by
  simp only [State.eraseStatus, Db.eraseStatus_eraseStatus]

@[simp] theorem Db.eraseStatus_person (db : Db) : db.eraseStatus.person = db.person := rfl

theorem Db.eraseStatus_community_has (db : Db) (k : Nat) :
    db.eraseStatus.community.Has k ↔ db.community.Has k := by
  simp [Db.eraseStatus, Table.modify]

def Db.eraseAnswer {ε β : Type} (g : β → β) : Except ε (β × Db) → Except ε (β × Db)
  | .ok (b, db) => .ok (g b, db.eraseStatus)
  | .error e => .error e

def Db.Commutes {β : Type} (g : β → β) (q : Db → Except DbError (β × Db)) : Prop :=
  ∀ db, q db.eraseStatus = Db.eraseAnswer g (q db)

section Queries

variable {β : Type} {g : β → β} {q : Db → Except DbError (β × Db)}

theorem Db.found_eraseStatus (o : Option β) (db : Db) :
    db.eraseStatus.found (o.map g) = Db.eraseAnswer g (db.found o) := by
  cases o <;> rfl

theorem Db.found_eraseStatus_self (o : Option β) (db : Db) :
    db.eraseStatus.found o = Db.eraseAnswer (fun b => b) (db.found o) := by
  cases o <;> rfl

theorem blocking_eraseStatus (h : Db.Commutes g q) (f : Fault) (db : Db) :
    blocking f q db.eraseStatus = Db.eraseAnswer (Except.map g) (blocking f q db) := by
  cases f with
  | ok => simp only [blocking, h db]; cases q db <;> rfl
  | pool | query => rfl

theorem blockingTry_eraseStatus (h : Db.Commutes g q) (f : Fault) (db : Db) :
    blockingTry f q db.eraseStatus = Db.eraseAnswer g (blockingTry f q db) := by
  simp only [blockingTry, blocking_eraseStatus h]
  rcases blocking f q db with e | ⟨e | b, db'⟩ <;> rfl

end Queries

theorem Community.readFromName_commutes (name : String) :
    Db.Commutes Community.eraseStatus (Community.readFromName name) := fun db => by
  simp only [Community.readFromName, Db.eraseStatus, Table.modify, List.find?_map]
  exact Db.found_eraseStatus _ db

theorem Person.readFromApubId_commutes (actorId : Url) :
    Db.Commutes (fun p => p) (Person.readFromApubId actorId) := fun db =>
  Db.found_eraseStatus_self _ db

theorem Activity.readFromApubId_commutes (apId : Url) :
    Db.Commutes (fun r => r) (Activity.readFromApubId apId) := fun db =>
  Db.found_eraseStatus_self _ db

theorem CommunityPersonBanView.get_commutes (personId communityId : Nat) :
    Db.Commutes (fun b => b) (CommunityPersonBanView.get personId communityId) := fun db =>
  Db.found_eraseStatus_self _ db

theorem insertActivity_commutes (apId : Url) (isLocal sensitive : Bool) :
    Db.Commutes (fun r => r) (insertActivity apId isLocal sensitive) := fun db => by
  simp only [insertActivity, Db.eraseStatus]
  cases db.activity.insert ⟨apId, isLocal, sensitive⟩ <;> rfl

theorem CommunityFollower.follow_commutes (form : CommunityFollowerForm) :
    Db.Commutes (fun r => r) (CommunityFollower.follow form) := fun db => by
  simp only [CommunityFollower.follow, Db.eraseStatus]
  cases db.communityFollower.insert ⟨form.communityId, form.personId, some form.pending⟩ <;> rfl

theorem CommunityFollower.unfollow_commutes (form : CommunityFollowerForm) :
    Db.Commutes (fun u => u) (CommunityFollower.unfollow form) := fun _ => rfl

theorem isActivityAlreadyKnown_eraseStatus (f : Fault) (id : Url) (db : Db) :
    isActivityAlreadyKnown f id db.eraseStatus = isActivityAlreadyKnown f id db := by
  simp only [isActivityAlreadyKnown, blocking_eraseStatus (Activity.readFromApubId_commutes id)]
  rcases blocking f (Activity.readFromApubId id) db with e | ⟨d | _, _⟩ <;> (try cases d) <;> rfl

theorem checkCommunityOrSiteBan_eraseStatus (p : Person) (communityId : Nat) (f : Fault)
    (db : Db) :
    checkCommunityOrSiteBan p communityId f db.eraseStatus =
      checkCommunityOrSiteBan p communityId f db := by
  simp only [checkCommunityOrSiteBan, communityBanLookup,
    blocking_eraseStatus (CommunityPersonBanView.get_commutes p.id communityId)]
  rcases blocking f (CommunityPersonBanView.get p.id communityId) db with e | ⟨_ | _, _⟩ <;> rfl

theorem resolveActor_eraseStatus (remote : List Actor) (x : Url) (f : Fault) (db : Db) :
    (resolveActor remote x f db.eraseStatus).map (·.2.eraseStatus) =
      (resolveActor remote x f db).map (·.2.eraseStatus) := by
  have hc : db.eraseStatus.community.rows.find? (·.actorId = x) =
      (db.community.rows.find? (·.actorId = x)).map Community.eraseStatus := by
    simp only [Db.eraseStatus, Table.modify, List.find?_map]
    rfl
  have hid : Community.nextId db.eraseStatus = Community.nextId db := by
    simp only [Community.nextId, Db.eraseStatus, Table.modify, List.map_map]
    rfl
  have hpid : Person.nextId db.eraseStatus = Person.nextId db := rfl
  cases f with
  | pool | query => rfl
  | ok =>
    simp only [resolveActor, hc, hid, hpid, Db.eraseStatus_person]
    cases db.person.rows.find? (·.actorId = x) with
    | some p => simp [Except.map, Db.eraseStatus_eraseStatus]
    | none =>
    cases db.community.rows.find? (·.actorId = x) with
    | some c => simp [Except.map, Db.eraseStatus_eraseStatus]
    | none =>
    simp only [Option.map_none']
    cases remote.find? (·.actorId = x) with
    | none => rfl
    | some act =>
    cases act with
    | person p =>
      dsimp only
      cases db.person.insert { p with id := Person.nextId db, isLocal := false } with
      | none => rfl
      | some t => exact congrArg Except.ok (Db.eraseStatus_eraseStatus { db with person := t })
    | community c =>
      dsimp only
      have hnone : db.eraseStatus.community.insert { c with id := Community.nextId db, isLocal := false } =
          none ↔ db.community.insert { c with id := Community.nextId db, isLocal := false } = none := by
        simp only [Table.insert_eq_none_iff, Db.eraseStatus_community_has]
      cases ht : db.community.insert { c with id := Community.nextId db, isLocal := false } with
      | none => simp [hnone.mpr ht, Except.map]
      | some t =>
        obtain ⟨te, hte⟩ := Option.ne_none_iff_exists'.mp (mt hnone.mp (by simp [ht]))
        rw [hte]
        simp only [Except.map, Except.ok.injEq, Db.eraseStatus]
        congr 1
        exact Table.ext_rows (by
          simp only [Table.modify, (Table.insert_eq_some hte).2, (Table.insert_eq_some ht).2,
            List.map_append, Db.eraseStatus, List.map_map]
          rfl)

namespace CommunityInbox

def Pc.eraseStatus : Pc → Pc
  | .verifySignature => .verifySignature
  | .checkSignature => .checkSignature
  | .checkKnown actor => .checkKnown actor
  | .readCommunity actor id => .readCommunity actor id
  | .insert actor id c => .insert actor id c.eraseStatus
  | .readPerson actor c => .readPerson actor c.eraseStatus
  | .checkBan actor p c => .checkBan actor p c.eraseStatus
  | .follow p c => .follow p c.eraseStatus
  | .acceptFollow c => .acceptFollow c.eraseStatus
  | .readUndoPerson actor c => .readUndoPerson actor c.eraseStatus
  | .unfollow p c => .unfollow p c.eraseStatus
  | .receive k c => .receive k c.eraseStatus
  | .announce c => .announce c.eraseStatus
  | .done r => .done r

theorem dispatch_eraseStatus (a : Activity) (actor : Url) (p : Person) (c : Community) :
    dispatch a actor p c.eraseStatus = (dispatch a actor p c).eraseStatus := by
  unfold dispatch
  split <;> (try split) <;> (try split) <;> rfl

variable (cfg : Settings) (a : Activity) (path : String)

theorem Pc.eraseStatus_eraseStatus (pc : Pc) : pc.eraseStatus.eraseStatus = pc.eraseStatus := by
  cases pc <;> rfl

theorem next_verifySignature_eraseStatus (f : Fault) (s : State) :
    (next cfg a path .verifySignature f s.eraseStatus).1 = (next cfg a path .verifySignature f s).1 ∧
      (next cfg a path .verifySignature f s.eraseStatus).2.eraseStatus =
        (next cfg a path .verifySignature f s).2.eraseStatus := by
  have h := resolveActor_eraseStatus cfg.remote a.actor f s.db
  simp only [next, State.eraseStatus]
  revert h
  rcases resolveActor cfg.remote a.actor f s.db.eraseStatus with e | ⟨_, db⟩ <;>
    rcases resolveActor cfg.remote a.actor f s.db with e' | ⟨_, db'⟩ <;>
    simp only [Except.map, Except.error.injEq, Except.ok.injEq, reduceCtorEq, false_implies]
  · rintro rfl
    simp [Db.eraseStatus_eraseStatus]
  · intro h
    simp [h]

theorem next_eraseStatus_of_ne {pc : Pc} (hpc : pc ≠ .verifySignature) (f : Fault) (s : State) :
    next cfg a path pc.eraseStatus f s.eraseStatus =
      ((next cfg a path pc f s).1.eraseStatus, (next cfg a path pc f s).2.eraseStatus) := by
  cases pc
  all_goals conv_lhs => dsimp only [Pc.eraseStatus]
  case verifySignature => exact absurd rfl hpc
  case checkSignature | acceptFollow c | receive k c =>
    by_cases hf : f = .ok <;> simp [next, hf, Pc.eraseStatus, State.eraseStatus]
  case checkKnown actor =>
    simp only [next, State.eraseStatus, isActivityAlreadyKnown_eraseStatus]
    split <;> (try split) <;> rfl
  case readCommunity actor id =>
    simp only [next, State.eraseStatus,
      blockingTry_eraseStatus (Community.readFromName_commutes path)]
    rcases blockingTry f (Community.readFromName path) s.db with e | ⟨c, db⟩
    · rfl
    · simp only [Db.eraseAnswer, Community.eraseStatus_actorId]
      split <;> (try split) <;> rfl
  case insert actor id c =>
    simp only [next, State.eraseStatus,
      blockingTry_eraseStatus (insertActivity_commutes id false true)]
    rcases blockingTry f (insertActivity id false true) s.db with e | ⟨r, db⟩ <;> rfl
  case readPerson actor c | readUndoPerson actor c =>
    simp only [next, State.eraseStatus,
      blockingTry_eraseStatus (Person.readFromApubId_commutes actor)]
    rcases blockingTry f (Person.readFromApubId actor) s.db with e | ⟨p, db⟩ <;> rfl
  case checkBan actor p c =>
    simp only [next, State.eraseStatus, Community.eraseStatus_id,
      checkCommunityOrSiteBan_eraseStatus]
    split
    · rfl
    · rw [dispatch_eraseStatus]
  case follow p c =>
    simp only [next, State.eraseStatus, Community.eraseStatus_id,
      blocking_eraseStatus (CommunityFollower.follow_commutes _)]
    rcases blocking f (CommunityFollower.follow ⟨c.id, p.id, false⟩) s.db with e | ⟨r, db⟩ <;> rfl
  case unfollow p c =>
    simp only [next, State.eraseStatus, Community.eraseStatus_id,
      blocking_eraseStatus (CommunityFollower.unfollow_commutes _)]
    rcases blocking f (CommunityFollower.unfollow ⟨c.id, p.id, false⟩) s.db with e | ⟨r, db⟩ <;> rfl
  case announce c =>
    simp only [next, State.eraseStatus, Community.eraseStatus_id]
    split
    · rfl
    · by_cases hf : f = .ok <;> simp [hf, Pc.eraseStatus]
  case done r => rfl

theorem next_eraseStatus (pc : Pc) (f : Fault) (s : State) :
    (next cfg a path pc.eraseStatus f s.eraseStatus).1.eraseStatus = (next cfg a path pc f s).1.eraseStatus ∧
      (next cfg a path pc.eraseStatus f s.eraseStatus).2.eraseStatus =
        (next cfg a path pc f s).2.eraseStatus := by
  by_cases hpc : pc = .verifySignature
  · subst hpc
    obtain ⟨h1, h2⟩ := next_verifySignature_eraseStatus cfg a path f s
    exact ⟨congrArg Pc.eraseStatus h1, h2⟩
  · rw [next_eraseStatus_of_ne cfg a path hpc]
    exact ⟨Pc.eraseStatus_eraseStatus _, State.eraseStatus_eraseStatus _⟩

def Delivery.eraseStatus (d : Delivery) : Delivery := { d with pc := d.pc.eraseStatus }

theorem Delivery.eraseStatus_eraseStatus (d : Delivery) :
    d.eraseStatus.eraseStatus = d.eraseStatus := by
  simp only [Delivery.eraseStatus, Pc.eraseStatus_eraseStatus]

theorem Delivery.step_eraseStatus (d : Delivery) (f : Fault) (s : State) :
    (d.eraseStatus.step cfg f s.eraseStatus).1.eraseStatus = (d.step cfg f s).1.eraseStatus ∧
      (d.eraseStatus.step cfg f s.eraseStatus).2.eraseStatus = (d.step cfg f s).2.eraseStatus := by
  simp only [Delivery.step, Delivery.eraseStatus, next_eraseStatus]
  exact ⟨trivial, trivial⟩

theorem Moves.communities_grow {pc pc' : Pc} {f : Fault} {t t' : State}
    (hm : Moves cfg a path pc f t pc' t') : t.db.community.rows <+: t'.db.community.rows := by
  cases hm with
  | resolved hr => exact (resolveActor_persisted hr).communities_grow
  | _ => exact List.prefix_refl _

theorem run_communities_grow (n : Node Delivery) (sched : List (Nat × Fault)) :
    n.state.db.community.rows <+: (Node.run (Delivery.step cfg) n sched).state.db.community.rows := by
  refine Node.run_inv _ (fun m => n.state.db.community.rows <+: m.state.db.community.rows)
    (fun m i f h => ?_) (List.prefix_refl _) sched
  cases hi : m.threads[i]? with
  | none => rwa [Node.stepThread_of_none _ hi]
  | some d =>
    rw [Node.stepThread_of_get _ hi]
    exact h.trans ((@next_moves cfg _ _ d.pc f m.state).communities_grow cfg _ _)

end CommunityInbox

namespace Node

variable {P : Type} (step : P → Fault → State → P × State) {E : State → State} {e : P → P}

def map (E : State → State) (e : P → P) (n : Node P) : Node P :=
  ⟨E n.state, n.threads.map e, n.trace.map fun (i, p) => (i, e p)⟩

theorem map_map (hE : ∀ s, E (E s) = E s) (he : ∀ p, e (e p) = e p) (n : Node P) :
    (n.map E e).map E e = n.map E e := by
  simp [map, hE, he, List.map_map, Function.comp_def]

theorem stepThread_map (hE : ∀ s, E (E s) = E s) (he : ∀ p, e (e p) = e p)
    (h : ∀ p f s, e (step (e p) f (E s)).1 = e (step p f s).1 ∧
      E (step (e p) f (E s)).2 = E (step p f s).2) (n : Node P) (i : Nat) (f : Fault) :
    (stepThread step (n.map E e) i f).map E e = (stepThread step n i f).map E e := by
  cases hi : n.threads[i]? with
  | none =>
    rw [stepThread_of_none step hi, stepThread_of_none step (by simp [map, hi]), map_map hE he]
  | some p =>
    rw [stepThread_of_get step hi,
      stepThread_of_get step (by simp [map, hi] : (n.map E e).threads[i]? = some (e p))]
    simp [map, (h p f n.state).1, (h p f n.state).2, List.map_set, List.map_map, Function.comp_def,
      he]

/-- ... and so on every run: runs from nodes equal up to `E` and `e` end equal up to them. -/
theorem run_map (hE : ∀ s, E (E s) = E s) (he : ∀ p, e (e p) = e p)
    (h : ∀ p f s, e (step (e p) f (E s)).1 = e (step p f s).1 ∧
      E (step (e p) f (E s)).2 = E (step p f s).2) :
    ∀ (sched : List (Nat × Fault)) (m n : Node P), m.map E e = n.map E e →
      (run step m sched).map E e = (run step n sched).map E e
  | [], _, _, hmn => hmn
  | (i, f) :: sched, m, n, hmn => by
    rw [run_cons, run_cons]
    refine run_map hE he h sched _ _ ?_
    rw [← stepThread_map step hE he h m, hmn, stepThread_map step hE he h n]

end Node

theorem solo_map {P : Type} {step : P → Fault → State → P × State} {E : State → State}
    {e : P → P} (h : ∀ p f s, step (e p) f (E s) = (e (step p f s).1, E (step p f s).2)) :
    ∀ (fs : List Fault) (p : P) (s : State),
      solo step (e p) (E s) fs = (e (solo step p s fs).1, E (solo step p s fs).2)
  | [], _, _ => rfl
  | f :: fs, p, s => by simp only [solo, h]; exact solo_map h fs _ _

namespace CommunityInbox

def deletedTechState : State :=
  { scenarioState with
    db := { scenarioDb with
      community := ⟨[{ tech with removed := true, deleted := true }], by decide⟩ } }

def followTechSched : List (Nat × Fault) := List.replicate 9 (0, .ok)

end CommunityInbox

end Lemmy
