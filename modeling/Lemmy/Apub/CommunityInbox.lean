import Lemmy.Node

/-! `community_inbox` and `community_receive_message` (apub/src/inbox/community_inbox.rs) as a
thread: one point before each `.await` on a collaborator, the code between two of them run as
one step. The actor resolver of `inbox_verify_http_signature` and `is_activity_already_known`
are not in the sources and are modelled from the spec (§4.1, §4.2). -/

namespace Lemmy

def isActivityAlreadyKnown (f : Fault) (id : Url) (db : Db) : Except LemmyError Bool :=
  match blocking f (Activity.readFromApubId id) db with
  | .ok (.ok _, _) => .ok true
  | .ok (.error .notFound, _) => .ok false
  | .ok (.error e, _) => .error (.diesel e)
  | .error e => .error e

def communityBanLookup (banned : LemmyError) (personId communityId : Nat) (f : Fault) (db : Db) :
    Except LemmyError Unit :=
  match blocking f (CommunityPersonBanView.get personId communityId) db with
  | .error e => .error e
  | .ok (r, _) => if r.isOk then .error banned else .ok ()

/-- Modelled from the spec (§4.1, §4.2): the actor resolver, which `inbox_verify_http_signature`
runs before it checks the signature. A person, then a community, with the actor id is returned
as stored. Otherwise the document the remote instance serves at that id is fetched and persisted
as a new remote actor under the next serial id; a fetch that finds no such document fails, and
so does a failing store or network call. -/
def resolveActor (remote : List Actor) (actorId : Url) (f : Fault) (db : Db) :
    Except LemmyError (Actor × Db) :=
  match f with
  | .pool | .query => .error .network
  | .ok =>
    match db.person.rows.find? (·.actorId = actorId), db.community.rows.find? (·.actorId = actorId) with
    | some p, _ => .ok (.person p, db)
    | none, some c => .ok (.community c, db)
    | none, none =>
      match remote.find? (·.actorId = actorId) with
      | some (.person p) =>
        match db.person.insert { p with id := Person.nextId db, isLocal := false } with
        | some t => .ok (.person { p with id := Person.nextId db, isLocal := false },
            { db with person := t })
        | none => .error (.diesel .uniqueViolation)
      | some (.community c) =>
        match db.community.insert { c with id := Community.nextId db, isLocal := false } with
        | some t => .ok (.community { c with id := Community.nextId db, isLocal := false },
            { db with community := t })
        | none => .error (.diesel .uniqueViolation)
      | none => .error .network

/-- What the resolver can do to the store: nothing, or append one new remote person or community
with the actor id, whose id is new and whose actor id no person and no community had. -/
inductive Persisted (x : Url) (db : Db) : Db → Prop
  | cached : Persisted x db db
  | person {p : Person} {t : Table Person.id} : (∀ q ∈ db.person.rows, q.id ≠ p.id) →
      (∀ q ∈ db.person.rows, q.actorId ≠ x) → (∀ c ∈ db.community.rows, c.actorId ≠ x) →
      p.actorId = x → t.rows = db.person.rows ++ [p] → Persisted x db { db with person := t }
  | community {c : Community} {t : Table Community.id} : (∀ r ∈ db.community.rows, r.id ≠ c.id) →
      (∀ q ∈ db.person.rows, q.actorId ≠ x) → (∀ r ∈ db.community.rows, r.actorId ≠ x) →
      c.actorId = x → t.rows = db.community.rows ++ [c] → Persisted x db { db with community := t }

def Db.Knows (db : Db) (x : Url) : Prop :=
  (∃ p ∈ db.person.rows, p.actorId = x) ∨ ∃ c ∈ db.community.rows, c.actorId = x

theorem resolveActor_eq_ok {remote : List Actor} {x : Url} {f : Fault} {db db' : Db}
    {actor : Actor} (h : resolveActor remote x f db = .ok (actor, db')) :
    Persisted x db db' ∧ db'.Knows x := by
  cases f with
  | pool | query => cases h
  | ok =>
  simp only [resolveActor] at h
  split at h
  · rename_i p hp
    cases h
    exact ⟨.cached, .inl ⟨p, List.mem_of_find?_eq_some hp, by simpa using List.find?_some hp⟩⟩
  · rename_i c _ hc
    cases h
    exact ⟨.cached, .inr ⟨c, List.mem_of_find?_eq_some hc, by simpa using List.find?_some hc⟩⟩
  · rename_i hp hc
    have hp' : ∀ q ∈ db.person.rows, q.actorId ≠ x := fun q hq e =>
      by simpa [e] using List.find?_eq_none.1 hp q hq
    have hc' : ∀ r ∈ db.community.rows, r.actorId ≠ x := fun r hr e =>
      by simpa [e] using List.find?_eq_none.1 hc r hr
    split at h
    · rename_i p hfind
      have hx : p.actorId = x := by simpa using List.find?_some hfind
      split at h
      · rename_i t ht
        cases h
        obtain ⟨hnew, hrows⟩ := Table.insert_eq_some ht
        exact ⟨.person (p := { p with id := Person.nextId db, isLocal := false })
          (fun q hq e => hnew (by simp only [Table.has_iff]; exact ⟨q, hq, e⟩)) hp' hc' hx hrows,
          .inl ⟨{ p with id := Person.nextId db, isLocal := false },
            by rw [hrows]; exact List.mem_append_right _ (.head _), hx⟩⟩
      · cases h
    · rename_i c hfind
      have hx : c.actorId = x := by simpa using List.find?_some hfind
      split at h
      · rename_i t ht
        cases h
        obtain ⟨hnew, hrows⟩ := Table.insert_eq_some ht
        exact ⟨.community (c := { c with id := Community.nextId db, isLocal := false })
          (fun r hr e => hnew (by simp only [Table.has_iff]; exact ⟨r, hr, e⟩)) hp' hc' hx hrows,
          .inr ⟨{ c with id := Community.nextId db, isLocal := false },
            by rw [hrows]; exact List.mem_append_right _ (.head _), hx⟩⟩
      · cases h
    · cases h

theorem resolveActor_persisted {remote : List Actor} {x : Url} {f : Fault} {db db' : Db}
    {actor : Actor} (h : resolveActor remote x f db = .ok (actor, db')) : Persisted x db db' :=
  (resolveActor_eq_ok h).1

theorem Persisted.db_eq {x : Url} {db db' : Db} (h : Persisted x db db') :
    db' = { db with person := db'.person, community := db'.community } := by
  cases h <;> rfl

theorem Persisted.knows {x y : Url} {db db' : Db} (h : Persisted y db db') (hk : db.Knows x) :
    db'.Knows x := by
  cases h with
  | cached => exact hk
  | person _ _ _ _ hrows =>
    rcases hk with ⟨p, hp, e⟩ | hc
    · exact .inl ⟨p, by rw [hrows]; exact List.mem_append_left _ hp, e⟩
    · exact .inr hc
  | community _ _ _ _ hrows =>
    rcases hk with hp | ⟨c, hc, e⟩
    · exact .inl hp
    · exact .inr ⟨c, by rw [hrows]; exact List.mem_append_left _ hc, e⟩

theorem Persisted.communities_grow {x : Url} {db db' : Db} (h : Persisted x db db') :
    db.community.rows <+: db'.community.rows := by
  cases h with
  | cached | person => exact List.prefix_refl _
  | community _ _ _ _ hrows => exact hrows ▸ List.prefix_append _ _

theorem Persisted.eq_of_knows {x : Url} {db db' : Db} (h : Persisted x db db') (hk : db.Knows x) :
    db' = db := by
  cases h with
  | cached => rfl
  | person _ hq hc =>
    rcases hk with ⟨q, hq', e⟩ | ⟨c, hc', e⟩
    · exact absurd e (hq q hq')
    · exact absurd e (hc c hc')
  | community _ hq hc =>
    rcases hk with ⟨q, hq', e⟩ | ⟨c, hc', e⟩
    · exact absurd e (hq q hq')
    · exact absurd e (hc c hc')

theorem resolveActor_of_knows (remote : List Actor) {x : Url} {db : Db} (h : db.Knows x) :
    ∃ actor, resolveActor remote x .ok db = .ok (actor, db) := by
  simp only [resolveActor]
  split
  · exact ⟨_, rfl⟩
  · exact ⟨_, rfl⟩
  · rename_i hp hc
    rcases h with ⟨p, hp', e⟩ | ⟨c, hc', e⟩
    · exact absurd (List.find?_eq_none.1 hp p hp') (by simp [e])
    · exact absurd (List.find?_eq_none.1 hc c hc') (by simp [e])

theorem resolveActor_of_person {remote : List Actor} {x : Url} {db : Db} {p : Person}
    (h : Person.readFromApubId x db = .ok (p, db)) : resolveActor remote x .ok db = .ok (.person p, db) := by
  simp only [Person.readFromApubId, Db.found_eq_ok, and_true] at h
  simp [resolveActor, h]

/-- `check_community_or_site_ban`. -/
def checkCommunityOrSiteBan (person : Person) (communityId : Nat) (f : Fault) (db : Db) :
    Except LemmyError Unit :=
  if person.banned then .error (.anyhow "Person is banned from site")
  else communityBanLookup (.anyhow "Person is banned from community") person.id communityId f db

namespace CommunityInbox

inductive Pc
  | verifySignature
  | checkSignature
  | checkKnown (actor : Url)
  | readCommunity (actor id : Url)
  | insert (actor id : Url) (community : Community)
  | readPerson (actor : Url) (community : Community)
  | checkBan (actor : Url) (person : Person) (community : Community)
  | follow (person : Person) (community : Community)
  | acceptFollow (community : Community)
  | readUndoPerson (actor : Url) (community : Community)
  | unfollow (person : Person) (community : Community)
  | receive (kind : CommunityValidTypes) (community : Community)
  | announce (community : Community)
  | done (r : Except LemmyError Unit)
  deriving DecidableEq, Repr

def followChecks (a : Activity) (person : Person) : Except LemmyError Unit :=
  verifyActivityDomainsValid a.id a.object person.actorId false

def undoFollowChecks (a : Activity) (actor : Url) : Except LemmyError Unit := do
  verifyActivityDomainsValid a.id a.object actor true
  let (fid, fobj) ← followOfUndo a.object
  verifyActivityDomainsValid fid (fobj.map .link) actor false

def dispatch (a : Activity) (actor : Url) (person : Person) (community : Community) : Pc :=
  match a.kind with
  | none => .done (.error .context)
  | some .follow =>
    match followChecks a person with
    | .ok () => .follow person community
    | .error e => .done (.error e)
  | some .undo =>
    if isSingleKind a.object "Follow" then
      match undoFollowChecks a actor with
      | .ok () => .readUndoPerson actor community
      | .error e => .done (.error e)
    else .receive .undo community
  | some .remove => .done (.ok ())
  | some k => .receive k community

/-- One step of a delivery of `a` to the inbox of the community named `path`. -/
def next (cfg : Settings) (a : Activity) (path : String) : Pc → Fault → State → Pc × State
  | .verifySignature, f, s =>
    match resolveActor cfg.remote a.actor f s.db with
    | .error e => (.done (.error e), s)
    | .ok (_, db) => (.checkSignature, { s with db })
  | .checkSignature, f, s => (if f = .ok then .checkKnown a.actor else .done (.error .network), s)
  | .checkKnown actor, f, s =>
    match getActivityId a actor with
    | .error e => (.done (.error e), s)
    | .ok id =>
      match isActivityAlreadyKnown f id s.db with
      | .error e => (.done (.error e), s)
      | .ok true => (.done (.ok ()), s)
      | .ok false => (.readCommunity actor id, s)
  | .readCommunity actor id, f, s =>
    match blockingTry f (Community.readFromName path) s.db with
    | .error e => (.done (.error e), s)
    | .ok (c, _) =>
      if c.actorId ∈ getActivityToAndCc a then
        match assertActivityNotLocal cfg a with
        | .ok () => (.insert actor id c, s)
        | .error e => (.done (.error e), s)
      else (.done (.error (.anyhow "Activity delivered to wrong community")), s)
  | .insert actor id c, f, s =>
    match blockingTry f (insertActivity id false true) s.db with
    | .error e => (.done (.error e), s)
    | .ok (_, db) => (.readPerson actor c, { s with db })
  | .readPerson actor c, f, s =>
    match blockingTry f (Person.readFromApubId actor) s.db with
    | .error e => (.done (.error e), s)
    | .ok (p, _) => (.checkBan actor p c, s)
  | .checkBan actor p c, f, s =>
    match checkCommunityOrSiteBan p c.id f s.db with
    | .error e => (.done (.error e), s)
    | .ok () => (dispatch a actor p c, s)
  | .follow p c, f, s =>
    match blocking f (CommunityFollower.follow ⟨c.id, p.id, false⟩) s.db with
    | .error e => (.done (.error e), s)
    | .ok (_, db) => (.acceptFollow c, { s with db })
  | .acceptFollow c, f, s =>
    if f = .ok then (.done (.ok ()), { s with sent := s.sent ++ [.acceptFollow c.id a] })
    else (.done (.error .network), s)
  | .readUndoPerson actor c, f, s =>
    match blockingTry f (Person.readFromApubId actor) s.db with
    | .error e => (.done (.error e), s)
    | .ok (p, _) => (.unfollow p c, s)
  | .unfollow p c, f, s =>
    match blocking f (CommunityFollower.unfollow ⟨c.id, p.id, false⟩) s.db with
    | .error e => (.done (.error e), s)
    | .ok (_, db) => (.done (.ok ()), { s with db })
  | .receive k c, f, s =>
    let s := { s with received := s.received ++ [⟨k, a⟩] }
    if f = .ok then (.announce c, s) else (.done (.error .network), s)
  | .announce c, f, s =>
    match isAddressedToPublic a with
    | .error e => (.done (.error e), s)
    | .ok () =>
      if f = .ok then (.done (.ok ()), { s with sent := s.sent ++ [.announce c.id a] })
      else (.done (.error .network), s)
  | .done r, _, s => (.done r, s)

structure Delivery where
  activity : Activity
  path : String
  pc : Pc
  deriving DecidableEq, Repr

def Delivery.step (cfg : Settings) (d : Delivery) (f : Fault) (s : State) : Delivery × State :=
  ({ d with pc := (next cfg d.activity d.path d.pc f s).1 }, (next cfg d.activity d.path d.pc f s).2)

def runFrom (cfg : Settings) (a : Activity) (path : String) (env : Pc → Fault) :
    Nat → Pc → State → Pc × State
  | 0, pc, s => (pc, s)
  | n + 1, pc, s => runFrom cfg a path env n (next cfg a path pc (env pc) s).1
      (next cfg a path pc (env pc) s).2

/-- `community_inbox` run to its end alone. -/
def deliver (cfg : Settings) (a : Activity) (path : String) (env : Pc → Fault) (s : State) :
    Pc × State :=
  runFrom cfg a path env 9 .verifySignature s

def scenarioSettings : Settings := ⟨"a.example", []⟩

def alice : Person := ⟨2, "alice", false, ⟨"b.example", "/u/alice"⟩, false⟩

def tech : Community :=
  { id := 1, name := "tech", title := "Tech", description := none, creatorId := 9,
    removed := false, deleted := false, nsfw := false, actorId := ⟨"a.example", "/c/tech"⟩,
    isLocal := true, icon := none, banner := none }

def scenarioDb : Db :=
  { person := ⟨[alice], by decide⟩, localUser := Table.empty, community := ⟨[tech], by decide⟩,
    communityFollower := Table.empty, communityModerator := Table.empty,
    communityPersonBan := Table.empty, site := Table.empty, activity := Table.empty,
    post := Table.empty, comment := Table.empty, modlog := [] }

def scenarioState : State := ⟨scenarioDb, [], []⟩

def aliceFollowsTech : Activity :=
  { id := some ⟨"b.example", "/activities/follow/1"⟩, kind := some .follow, actor := alice.actorId,
    to_ := [tech.actorId], cc := [], object := [.link tech.actorId] }

example :
    let r := deliver scenarioSettings aliceFollowsTech "tech" (fun _ => .ok) scenarioState
    r.1 = .done (.ok ()) ∧ r.2.db.communityFollower.rows = [⟨tech.id, alice.id, some false⟩] ∧
      r.2.sent = [.acceptFollow tech.id aliceFollowsTech] := by
  decide

end CommunityInbox

end Lemmy
