import Lemmy.Table

namespace Lemmy

structure Url where
  host : String
  path : String
  deriving DecidableEq, Repr

structure NaiveDateTime where
  secs : Int
  deriving DecidableEq, Repr

structure Person where
  id : Nat
  name : String
  banned : Bool
  actorId : Url
  isLocal : Bool
  deriving DecidableEq, Repr

structure LocalUser where
  personId : Nat
  admin : Bool
  deriving DecidableEq, Repr

structure Community where
  id : Nat
  name : String
  title : String
  description : Option String
  creatorId : Nat
  removed : Bool
  deleted : Bool
  nsfw : Bool
  actorId : Url
  isLocal : Bool
  icon : Option Url
  banner : Option Url
  deriving DecidableEq, Repr

inductive Actor
  | person (p : Person)
  | community (c : Community)
  deriving DecidableEq, Repr

def Actor.actorId : Actor → Url
  | .person p => p.actorId
  | .community c => c.actorId

structure CommunityForm where
  name : String
  title : String
  description : Option String
  creatorId : Nat
  removed : Option Bool
  deleted : Option Bool
  nsfw : Bool
  actorId : Option Url
  isLocal : Bool
  icon : Option (Option Url)
  banner : Option (Option Url)
  deriving DecidableEq, Repr

def Community.applyForm (c : Community) (f : CommunityForm) : Community :=
  { c with
    name := f.name, title := f.title, description := f.description <|> c.description,
    creatorId := f.creatorId, removed := f.removed.getD c.removed,
    deleted := f.deleted.getD c.deleted, nsfw := f.nsfw, actorId := f.actorId.getD c.actorId,
    isLocal := f.isLocal, icon := f.icon.getD c.icon, banner := f.banner.getD c.banner }

structure CommunityFollower where
  communityId : Nat
  personId : Nat
  pending : Option Bool
  deriving DecidableEq, Repr

def CommunityFollower.key (r : CommunityFollower) : Nat × Nat := (r.communityId, r.personId)

structure CommunityFollowerForm where
  communityId : Nat
  personId : Nat
  pending : Bool
  deriving DecidableEq, Repr

structure CommunityModerator where
  communityId : Nat
  personId : Nat
  deriving DecidableEq, Repr

def CommunityModerator.key (r : CommunityModerator) : Nat × Nat := (r.communityId, r.personId)

structure CommunityPersonBan where
  communityId : Nat
  personId : Nat
  deriving DecidableEq, Repr

def CommunityPersonBan.key (r : CommunityPersonBan) : Nat × Nat := (r.communityId, r.personId)

structure Site where
  id : Nat
  name : String
  description : Option String
  creatorId : Nat
  enableDownvotes : Bool
  openRegistration : Bool
  enableNsfw : Bool
  icon : Option Url
  banner : Option Url
  deriving DecidableEq, Repr

structure SiteForm where
  name : String
  description : Option String
  icon : Option (Option Url)
  banner : Option (Option Url)
  creatorId : Nat
  enableDownvotes : Bool
  openRegistration : Bool
  enableNsfw : Bool
  deriving DecidableEq, Repr

def Site.applyForm (s : Site) (f : SiteForm) : Site :=
  { s with
    name := f.name, description := f.description <|> s.description,
    icon := f.icon.getD s.icon, banner := f.banner.getD s.banner, creatorId := f.creatorId,
    enableDownvotes := f.enableDownvotes, openRegistration := f.openRegistration,
    enableNsfw := f.enableNsfw }

structure ActivityRow where
  apId : Url
  isLocal : Bool
  sensitive : Bool
  deriving DecidableEq, Repr

structure Post where
  id : Nat
  name : String
  url : Option Url
  body : Option String
  creatorId : Nat
  communityId : Nat
  removed : Bool
  locked : Bool
  published : NaiveDateTime
  updated : Option NaiveDateTime
  deleted : Bool
  nsfw : Bool
  stickied : Bool
  thumbnailUrl : Option Url
  apId : Url
  isLocal : Bool
  deriving DecidableEq, Repr

structure Comment where
  id : Nat
  creatorId : Nat
  postId : Nat
  removed : Bool
  deriving DecidableEq, Repr

inductive ModlogEntry
  | add (modPersonId otherPersonId : Nat) (removed : Bool)
  | addCommunity (modPersonId otherPersonId communityId : Nat) (removed : Bool)
  | banFromCommunity (modPersonId otherPersonId communityId : Nat) (banned : Bool)
  | removeCommunity (modPersonId communityId : Nat) (removed : Bool)
  deriving DecidableEq, Repr

structure Db where
  person : Table Person.id
  localUser : Table LocalUser.personId
  community : Table Community.id
  communityFollower : Table CommunityFollower.key
  communityModerator : Table CommunityModerator.key
  communityPersonBan : Table CommunityPersonBan.key
  site : Table Site.id
  activity : Table ActivityRow.apId
  post : Table Post.apId
  comment : Table Comment.id
  modlog : List ModlogEntry

inductive DbError
  | notFound
  | uniqueViolation
  | foreignKeyViolation
  | other
  deriving DecidableEq, Repr

inductive LemmyError
  | api (message : String)
  | anyhow (message : String)
  | context
  | domain
  | diesel (e : DbError)
  | blocking
  | network
  deriving DecidableEq, Repr

instance exceptDecidableEq {ε α : Type} [DecidableEq ε] [DecidableEq α] : DecidableEq (Except ε α)
  | .ok a, .ok b => decidable_of_iff (a = b) (by simp)
  | .error a, .error b => decidable_of_iff (a = b) (by simp)
  | .ok _, .error _ => isFalse (by simp)
  | .error _, .ok _ => isFalse (by simp)

/-- How a call at a suspension point behaves. For a call to the store, `pool` fails
`blocking` itself and `query` makes the diesel call return an error without writing; for a
remote call both are a network failure. -/
inductive Fault
  | ok
  | pool
  | query
  deriving DecidableEq, Repr

/-- `blocking(pool, q)` run with fault `f`. -/
def blocking {α : Type} (f : Fault) (q : Db → Except DbError (α × Db)) (db : Db) :
    Except LemmyError (Except DbError α × Db) :=
  match f with
  | .ok =>
    match q db with
    | .ok (a, db') => .ok (.ok a, db')
    | .error e => .ok (.error e, db)
  | .pool => .error .blocking
  | .query => .ok (.error .other, db)

def blockingTry {α : Type} (f : Fault) (q : Db → Except DbError (α × Db)) (db : Db) :
    Except LemmyError (α × Db) :=
  match blocking f q db with
  | .ok (.ok a, db') => .ok (a, db')
  | .ok (.error e, _) => .error (.diesel e)
  | .error e => .error e

section Blocking

variable {α : Type} {q : Db → Except DbError (α × Db)} {db : Db}

@[simp] theorem blocking_pool : blocking .pool q db = .error .blocking := rfl

@[simp] theorem blocking_query : blocking .query q db = .ok (.error .other, db) := rfl

theorem blocking_cases (f : Fault) :
    blocking f q db = .error .blocking ∨ (∃ e, blocking f q db = .ok (.error e, db)) ∨
      ∃ a db', q db = .ok (a, db') ∧ blocking f q db = .ok (.ok a, db') := by
  cases f with
  | ok => cases h : q db <;> simp [blocking, h]
  | pool => simp
  | query => simp

theorem blocking_eq_ok_ok {f : Fault} {a : α} {db' : Db} (h : blocking f q db = .ok (.ok a, db')) :
    f = .ok ∧ q db = .ok (a, db') := by
  cases f with
  | ok =>
    simp only [blocking] at h
    split at h
    · cases h; exact ⟨rfl, ‹_›⟩
    · cases h
  | pool => cases h
  | query => cases h

theorem blockingTry_eq_ok {f : Fault} {a : α} {db' : Db} (h : blockingTry f q db = .ok (a, db')) :
    f = .ok ∧ q db = .ok (a, db') := by
  cases f with
  | ok => cases hq : q db <;> simp_all [blockingTry, blocking]
  | pool => cases h
  | query => cases h

end Blocking

end Lemmy
