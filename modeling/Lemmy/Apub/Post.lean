import Lemmy.Apub.Gate

/-! `Post::from_apub` and `PostForm::from_apub` (apub/src/objects/post.rs): a federated page
read into a post. The helpers of `crate::objects` and `crate::fetcher` they call are not in the
sources and are modelled from the spec (§4.1, §4.6); the calls to the store on this path are
taken to succeed, but for the ban lookup. -/

namespace Lemmy

structure DateTime where
  utc : NaiveDateTime
  offset : Int
  deriving DecidableEq, Repr

def DateTime.naiveLocal (t : DateTime) : NaiveDateTime := ⟨t.utc.secs + t.offset⟩

structure PageExt where
  id : Option Url
  attributedTo : Option Url
  to_ : List Url
  name : Option String
  summary : Option String
  url : Option Url
  image : Option Url
  source : Option String
  published : Option DateTime
  updated : Option DateTime
  commentsEnabled : Option Bool
  sensitive : Option Bool
  stickied : Option Bool
  deriving DecidableEq, Repr

structure PostForm where
  name : String
  url : Option Url
  body : Option String
  creatorId : Nat
  communityId : Nat
  removed : Option Bool
  locked : Option Bool
  published : Option NaiveDateTime
  updated : Option NaiveDateTime
  deleted : Option Bool
  nsfw : Bool
  stickied : Option Bool
  thumbnailUrl : Option Url
  apId : Option Url
  isLocal : Bool
  deriving DecidableEq, Repr

/-- What reading a page calls out to: the remote fetches, the slur filter and the clock. -/
structure Collaborators where
  fetchPerson : Url → Option Person
  fetchCommunity : Url → Option Community
  pictrsThumbnail : Url → Option Url
  checkSlurs : String → Except LemmyError Unit
  removeSlurs : String → String
  now : NaiveDateTime

def Post.applyForm (p : Post) (f : PostForm) : Post :=
  { p with
    name := f.name, url := f.url <|> p.url, body := f.body <|> p.body, creatorId := f.creatorId,
    communityId := f.communityId, removed := f.removed.getD p.removed,
    locked := f.locked.getD p.locked, published := f.published.getD p.published,
    updated := f.updated <|> p.updated, deleted := f.deleted.getD p.deleted, nsfw := f.nsfw,
    stickied := f.stickied.getD p.stickied, thumbnailUrl := f.thumbnailUrl <|> p.thumbnailUrl,
    isLocal := f.isLocal }

namespace Post

def readFromApubId (apId : Url) (db : Db) : Except DbError (Post × Db) :=
  db.found (db.post.find? apId)

def upsert (now : NaiveDateTime) (form : PostForm) (db : Db) : Except DbError (Post × Db) :=
  match form.apId with
  | none => .error .other
  | some apId =>
    match db.post.find? apId with
    | some p =>
      .ok (p.applyForm form,
        { db with post := db.post.updateKey apId (·.applyForm form) (fun _ => rfl) })
    | none =>
      let p : Post :=
        { id := db.post.rows.length + 1, name := form.name, url := form.url, body := form.body,
          creatorId := form.creatorId, communityId := form.communityId,
          removed := form.removed.getD false, locked := form.locked.getD false,
          published := form.published.getD now, updated := form.updated,
          deleted := form.deleted.getD false, nsfw := form.nsfw,
          stickied := form.stickied.getD false, thumbnailUrl := form.thumbnailUrl, apId,
          isLocal := form.isLocal }
      match db.post.insert p with
      | some t => .ok (p, { db with post := t })
      | none => .error .uniqueViolation

end Post

def getOrFetchAndUpsertPerson (col : Collaborators) (actorId : Url) (db : Db) :
    Except LemmyError Person × Db :=
  match Person.readFromApubId actorId db with
  | .ok (p, _) => (.ok p, db)
  | .error _ =>
    match col.fetchPerson actorId with
    | some p =>
      if p.actorId = actorId then
        match db.person.insert p with
        | some t => (.ok p, { db with person := t })
        | none => (.error (.diesel .uniqueViolation), db)
      else (.error .network, db)
    | none => (.error .network, db)

def getOrFetchAndUpsertCommunity (col : Collaborators) (actorId : Url) (db : Db) :
    Except LemmyError Community × Db :=
  match db.community.rows.find? (·.actorId = actorId) with
  | some c => (.ok c, db)
  | none =>
    match col.fetchCommunity actorId with
    | some c =>
      if c.actorId = actorId then
        match db.community.insert c with
        | some t => (.ok c, { db with community := t })
        | none => (.error (.diesel .uniqueViolation), db)
      else (.error .network, db)
    | none => (.error .network, db)

def getToCommunity (col : Collaborators) : List Url → Db → Except LemmyError Community × Db
  | [], db => (.error (.diesel .notFound), db)
  | u :: us, db =>
    match getOrFetchAndUpsertCommunity col u db with
    | (.ok c, db) => (.ok c, db)
    | (.error _, db) => getToCommunity col us db

def checkObjectDomain (page : PageExt) (expectedDomain : Url) : Except LemmyError Url :=
  match checkedId page.id expectedDomain.host with
  | .ok (some u) => .ok u
  | .ok none => .error .context
  | .error e => .error e

/-- `PostForm::from_apub`. -/
def PostForm.fromApub (col : Collaborators) (page : PageExt) (expectedDomain : Url) (db : Db) :
    Except LemmyError PostForm × Db :=
  match page.attributedTo with
  | none => (.error .context, db)
  | some creatorActorId =>
    match getOrFetchAndUpsertPerson col creatorActorId db with
    | (.error e, db) => (.error e, db)
    | (.ok creator, db) =>
      match getToCommunity col page.to_ db with
      | (.error e, db) => (.error e, db)
      | (.ok community, db) =>
        let thumbnailUrl := match page.url with
          | some u => col.pictrsThumbnail u
          | none => page.image
        match page.name <|> page.summary with
        | none => (.error .context, db)
        | some name =>
          match col.checkSlurs name, checkObjectDomain page expectedDomain with
          | .error e, _ => (.error e, db)
          | .ok (), .error e => (.error e, db)
          | .ok (), .ok apId =>
            let form : PostForm :=
              { name, url := page.url, body := page.source.map col.removeSlurs,
                creatorId := creator.id, communityId := community.id, removed := none,
                locked := page.commentsEnabled.map (!·),
                published := page.published.map DateTime.naiveLocal,
                updated := page.updated.map DateTime.naiveLocal, deleted := none,
                nsfw := page.sensitive.getD false,
                stickied := page.stickied.or (some false), thumbnailUrl, apId := some apId,
                isLocal := false }
            (.ok form, db)

def getObjectFromApub (cfg : Settings) (col : Collaborators) (page : PageExt) (expectedDomain : Url)
    (db : Db) : Except LemmyError Post × Db :=
  match page.id with
  | none => (.error .context, db)
  | some id =>
    if id.host = cfg.hostname then
      match Post.readFromApubId id db with
      | .ok (p, _) => (.ok p, db)
      | .error e => (.error (.diesel e), db)
    else
      match PostForm.fromApub col page expectedDomain db with
      | (.error e, db) => (.error e, db)
      | (.ok form, db) =>
        match Post.upsert col.now form db with
        | .ok (p, db) => (.ok p, db)
        | .error e => (.error (.diesel e), db)

def checkObjectForCommunityOrSiteBan (col : Collaborators) (page : PageExt) (communityId : Nat)
    (f : Fault) (db : Db) : Except LemmyError Unit × Db :=
  match page.attributedTo with
  | none => (.error .context, db)
  | some u =>
    match getOrFetchAndUpsertPerson col u db with
    | (.error e, db) => (.error e, db)
    | (.ok p, db) => (checkCommunityOrSiteBan p communityId f db, db)

/-- `Post::from_apub`: the page is stored first, and its creator's bans checked after. -/
def Post.fromApub (cfg : Settings) (col : Collaborators) (page : PageExt) (expectedDomain : Url)
    (f : Fault) (db : Db) : Except LemmyError Post × Db :=
  match getObjectFromApub cfg col page expectedDomain db with
  | (.error e, db) => (.error e, db)
  | (.ok post, db) =>
    match checkObjectForCommunityOrSiteBan col page post.communityId f db with
    | (.error e, db) => (.error e, db)
    | (.ok (), db) => (.ok post, db)

theorem getOrFetchAndUpsertPerson_post (col : Collaborators) (u : Url) (db : Db) :
    (getOrFetchAndUpsertPerson col u db).2.post = db.post := by
  unfold getOrFetchAndUpsertPerson
  repeat' split
  all_goals rfl

theorem checkObjectForCommunityOrSiteBan_post (col : Collaborators) (page : PageExt) (cid : Nat)
    (f : Fault) (db : Db) : (checkObjectForCommunityOrSiteBan col page cid f db).2.post = db.post := by
  unfold checkObjectForCommunityOrSiteBan
  split
  · rfl
  · rename_i u _
    have h := getOrFetchAndUpsertPerson_post col u db
    split <;> rename_i heq <;> rw [heq] at h <;> exact h

section Scenario

open CommunityInbox

def alicePage : PageExt :=
  { id := some ⟨"b.example", "/post/1"⟩, attributedTo := some alice.actorId,
    to_ := [tech.actorId, public], name := some "Hello", summary := none, url := none,
    image := none, source := none, published := none, updated := none, commentsEnabled := none,
    sensitive := none, stickied := none }

def noCollaborators : Collaborators :=
  { fetchPerson := fun _ => none, fetchCommunity := fun _ => none, pictrsThumbnail := fun _ => none,
    checkSlurs := fun _ => .ok (), removeSlurs := id, now := ⟨0⟩ }

/-- `Post::from_apub` of a page whose creator is banned from its community: the ban check
rejects it, and the post is stored all the same. -/
theorem banned_creator_post_stored :
    (Post.fromApub scenarioSettings noCollaborators alicePage ⟨"b.example", "/"⟩ .ok
      aliceBannedState.db).1 = .error (.anyhow "Person is banned from community") ∧
    aliceBannedState.db.post.rows = [] ∧
    (Post.fromApub scenarioSettings noCollaborators alicePage ⟨"b.example", "/"⟩ .ok
      aliceBannedState.db).2.post.rows.map (·.apId) = [⟨"b.example", "/post/1"⟩] := by
  decide

end Scenario

end Lemmy
