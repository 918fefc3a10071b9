import Lemmy.Api.Auth

/-! The community handlers of the API (api/src/community.rs) that write the store, each as a
thread: one point before each `.await` on the store or the network, with the values the code
holds there. Websocket messages and the response views are left out; the trailing view reads
are kept as calls that can fail. `Post::update_removed_for_creator`, `CommentQueryBuilder::list`,
`Comment::update_removed` and `PersonViewSafe::read` are not in the sources and are modelled from
the spec. -/

namespace Lemmy

def Post.updateRemovedForCreator (creatorId : Nat) (communityId : Option Nat) (removed : Bool)
    (db : Db) : Except DbError (Unit × Db) :=
  let hit (p : Post) : Bool := p.creatorId = creatorId ∧ communityId.all (· = p.communityId)
  .ok ((), { db with
    post := db.post.modify (fun p => if hit p then { p with removed } else p)
      (fun p => by dsimp only; split <;> rfl) })

def Comment.inCommunity (db : Db) (communityId : Nat) (c : Comment) : Bool :=
  db.post.rows.any (fun p => p.id = c.postId ∧ p.communityId = communityId)

def CommentQueryBuilder.list (creatorId communityId : Nat) (db : Db) :
    Except DbError (List Comment × Db) :=
  .ok (db.comment.rows.filter (fun c => c.creatorId = creatorId ∧ c.inCommunity db communityId), db)

def Comment.updateRemoved (commentId : Nat) (removed : Bool) (db : Db) :
    Except DbError (Comment × Db) :=
  match db.comment.find? commentId with
  | some c =>
    .ok ({ c with removed },
      { db with comment := db.comment.updateKey commentId ({ · with removed }) (fun _ => rfl) })
  | none => .error .notFound

theorem Comment.updateRemoved_db {id : Nat} {removed : Bool} {c : Comment} {db db' : Db}
    (h : updateRemoved id removed db = .ok (c, db')) : db' = { db with comment := db'.comment } := by
  unfold updateRemoved at h
  split at h <;> cases h; rfl

def PersonViewSafe.read (personId : Nat) (db : Db) : Except DbError (Person × Db) :=
  db.found (db.person.find? personId)

def EditCommunity.form (c : Community) (title : String) (description : Option String)
    (icon banner : Option (Option Url)) (nsfw : Bool) : CommunityForm :=
  { name := c.name, title, description, icon, banner, creatorId := c.creatorId,
    removed := some c.removed, deleted := some c.deleted, nsfw, actorId := some c.actorId,
    isLocal := c.isLocal }

namespace FollowCommunity

structure Data where
  communityId : Nat
  follow : Bool
  auth : Nat
  deriving DecidableEq, Repr

inductive Pc
  | auth
  | readCommunity (v : LocalUserView)
  | checkBan (v : LocalUserView)
  | follow (v : LocalUserView)
  | unfollow (v : LocalUserView)
  | sendFollow (v : LocalUserView) (c : Community)
  | sendUnfollow (v : LocalUserView) (c : Community)
  | readView
  | done (r : Except LemmyError Unit)
  deriving DecidableEq, Repr

def next (d : Data) : Pc → Fault → State → Pc × State
  | .auth, f, s =>
    match getLocalUserViewFromJwt d.auth f s.db with
    | .error e => (.done (.error e), s)
    | .ok v => (.readCommunity v, s)
  | .readCommunity v, f, s =>
    match blockingTry f (Community.read d.communityId) s.db with
    | .error e => (.done (.error e), s)
    | .ok (c, _) =>
      (if c.isLocal then (if d.follow then .checkBan v else .unfollow v)
        else if d.follow then .sendFollow v c else .sendUnfollow v c, s)
  | .checkBan v, f, s =>
    match checkCommunityBan v.person.id d.communityId f s.db with
    | .error e => (.done (.error e), s)
    | .ok () => (.follow v, s)
  | .follow v, f, s =>
    match blocking f (CommunityFollower.follow ⟨d.communityId, v.person.id, false⟩) s.db with
    | .error e => (.done (.error e), s)
    | .ok (.error _, _) => (.done (.error (.api "community_follower_already_exists")), s)
    | .ok (.ok _, db) => (.readView, { s with db })
  | .unfollow v, f, s =>
    match blocking f (CommunityFollower.unfollow ⟨d.communityId, v.person.id, false⟩) s.db with
    | .error e => (.done (.error e), s)
    | .ok (.error _, _) => (.done (.error (.api "community_follower_already_exists")), s)
    | .ok (.ok _, db) => (.readView, { s with db })
  | .sendFollow _ _, f, s => (if f = .ok then .readView else .done (.error .network), s)
  | .sendUnfollow v _, f, s => (if f = .ok then .unfollow v else .done (.error .network), s)
  | .readView, f, s =>
    match blockingTry f (Community.read d.communityId) s.db with
    | .error e => (.done (.error e), s)
    | .ok _ => (.done (.ok ()), s)
  | .done r, _, s => (.done r, s)

end FollowCommunity

namespace BanFromCommunity

structure Data where
  communityId : Nat
  personId : Nat
  ban : Bool
  removeData : Bool
  auth : Nat
  deriving DecidableEq, Repr

inductive Pc
  | auth
  | checkMod (v : LocalUserView)
  | ban (v : LocalUserView)
  | unfollow (v : LocalUserView)
  | unban (v : LocalUserView)
  | removePosts (v : LocalUserView)
  | listComments (v : LocalUserView)
  | removeComments (v : LocalUserView) (comments : List Comment)
  | modlog (v : LocalUserView)
  | readPerson
  | done (r : Except LemmyError Unit)
  deriving DecidableEq, Repr

def afterBan (d : Data) (v : LocalUserView) : Pc :=
  if d.removeData then .removePosts v else .modlog v

def next (d : Data) : Pc → Fault → State → Pc × State
  | .auth, f, s =>
    match getLocalUserViewFromJwt d.auth f s.db with
    | .error e => (.done (.error e), s)
    | .ok v => (.checkMod v, s)
  | .checkMod v, f, s =>
    match isModOrAdmin v.person.id d.communityId f s.db with
    | .error e => (.done (.error e), s)
    | .ok () => (if d.ban then .ban v else .unban v, s)
  | .ban v, f, s =>
    match blocking f (CommunityPersonBan.ban ⟨d.communityId, d.personId⟩) s.db with
    | .error e => (.done (.error e), s)
    | .ok (.error _, _) => (.done (.error (.api "community_user_already_banned")), s)
    | .ok (.ok _, db) => (.unfollow v, { s with db })
  | .unfollow v, f, s =>
    match blocking f (CommunityFollower.unfollow ⟨d.communityId, d.personId, false⟩) s.db with
    | .error e => (.done (.error e), s)
    | .ok (_, db) => (afterBan d v, { s with db })
  | .unban v, f, s =>
    match blocking f (CommunityPersonBan.unban ⟨d.communityId, d.personId⟩) s.db with
    | .error e => (.done (.error e), s)
    | .ok (.error _, _) => (.done (.error (.api "community_user_already_banned")), s)
    | .ok (.ok _, db) => (afterBan d v, { s with db })
  | .removePosts v, f, s =>
    match blockingTry f (Post.updateRemovedForCreator d.personId (some d.communityId) true) s.db with
    | .error e => (.done (.error e), s)
    | .ok (_, db) => (.listComments v, { s with db })
  | .listComments v, f, s =>
    match blockingTry f (CommentQueryBuilder.list d.personId d.communityId) s.db with
    | .error e => (.done (.error e), s)
    | .ok (comments, _) => (.removeComments v comments, s)
  | .removeComments v [], _, s => (.modlog v, s)
  | .removeComments v (c :: cs), f, s =>
    match blockingTry f (Comment.updateRemoved c.id true) s.db with
    | .error e => (.done (.error e), s)
    | .ok (_, db) => (.removeComments v cs, { s with db })
  | .modlog v, f, s =>
    match blockingTry f (ModlogEntry.create
        (.banFromCommunity v.person.id d.personId d.communityId d.ban)) s.db with
    | .error e => (.done (.error e), s)
    | .ok (_, db) => (.readPerson, { s with db })
  | .readPerson, f, s =>
    match blockingTry f (PersonViewSafe.read d.personId) s.db with
    | .error e => (.done (.error e), s)
    | .ok _ => (.done (.ok ()), s)
  | .done r, _, s => (.done r, s)

end BanFromCommunity

namespace EditCommunity

structure Data where
  communityId : Nat
  title : String
  description : Option String
  icon : Option String
  banner : Option String
  nsfw : Bool
  auth : Nat
  deriving DecidableEq, Repr

inductive Pc
  | auth
  | readMods (v : LocalUserView)
  | readCommunity
  | update (c : Community) (icon banner : Option (Option Url))
  | readView
  | done (r : Except LemmyError Unit)
  deriving DecidableEq, Repr

def next (sf : SlurFilter) (parse : String → Option Url) (d : Data) : Pc → Fault → State → Pc × State
  | .auth, f, s =>
    match getLocalUserViewFromJwt d.auth f s.db, sf.checkSlurs d.title,
        sf.checkSlursOpt d.description with
    | .error e, _, _ | .ok _, .error e, _ | .ok _, .ok (), .error e => (.done (.error e), s)
    | .ok v, .ok (), .ok () => (.readMods v, s)
  | .readMods v, f, s =>
    match blockingTry f (CommunityModeratorView.forCommunity d.communityId) s.db with
    | .error e => (.done (.error e), s)
    | .ok (mods, _) =>
      (if v.person.id ∈ mods.map (·.personId) then .readCommunity
        else .done (.error (.api "not_a_moderator")), s)
  | .readCommunity, f, s =>
    match blockingTry f (Community.read d.communityId) s.db with
    | .error e => (.done (.error e), s)
    | .ok (c, _) =>
      match dieselOptionOverwriteToUrl parse d.icon, dieselOptionOverwriteToUrl parse d.banner with
      | .error e, _ | .ok _, .error e => (.done (.error e), s)
      | .ok icon, .ok banner => (.update c icon banner, s)
  | .update c icon banner, f, s =>
    match blocking f (Community.update d.communityId
        (EditCommunity.form c d.title d.description icon banner d.nsfw)) s.db with
    | .error e => (.done (.error e), s)
    | .ok (.error _, _) => (.done (.error (.api "couldnt_update_community")), s)
    | .ok (.ok _, db) => (.readView, { s with db })
  | .readView, f, s =>
    match blockingTry f (Community.read d.communityId) s.db with
    | .error e => (.done (.error e), s)
    | .ok _ => (.done (.ok ()), s)
  | .done r, _, s => (.done r, s)

end EditCommunity

namespace DeleteCommunity

structure Data where
  communityId : Nat
  deleted : Bool
  auth : Nat
  deriving DecidableEq, Repr

inductive Pc
  | auth
  | readCommunity (v : LocalUserView)
  | update
  | send
  | readView
  | done (r : Except LemmyError Unit)
  deriving DecidableEq, Repr

def next (d : Data) : Pc → Fault → State → Pc × State
  | .auth, f, s =>
    match getLocalUserViewFromJwt d.auth f s.db with
    | .error e => (.done (.error e), s)
    | .ok v => (.readCommunity v, s)
  | .readCommunity v, f, s =>
    match blockingTry f (Community.read d.communityId) s.db with
    | .error e => (.done (.error e), s)
    | .ok (c, _) =>
      (if c.creatorId ≠ v.person.id then .done (.error (.api "no_community_edit_allowed"))
        else .update, s)
  | .update, f, s =>
    match blocking f (Community.updateDeleted d.communityId d.deleted) s.db with
    | .error e => (.done (.error e), s)
    | .ok (.error _, _) => (.done (.error (.api "couldnt_update_community")), s)
    | .ok (.ok _, db) => (.send, { s with db })
  | .send, f, s => (if f = .ok then .readView else .done (.error .network), s)
  | .readView, f, s =>
    match blockingTry f (Community.read d.communityId) s.db with
    | .error e => (.done (.error e), s)
    | .ok _ => (.done (.ok ()), s)
  | .done r, _, s => (.done r, s)

end DeleteCommunity

namespace RemoveCommunity

structure Data where
  communityId : Nat
  removed : Bool
  auth : Nat
  deriving DecidableEq, Repr

inductive Pc
  | auth
  | update (v : LocalUserView)
  | modlog (v : LocalUserView)
  | send
  | readView
  | done (r : Except LemmyError Unit)
  deriving DecidableEq, Repr

def next (d : Data) : Pc → Fault → State → Pc × State
  | .auth, f, s =>
    match getLocalUserViewFromJwt d.auth f s.db with
    | .error e => (.done (.error e), s)
    | .ok v =>
      match isAdmin v with
      | .error e => (.done (.error e), s)
      | .ok () => (.update v, s)
  | .update v, f, s =>
    match blocking f (Community.updateRemoved d.communityId d.removed) s.db with
    | .error e => (.done (.error e), s)
    | .ok (.error _, _) => (.done (.error (.api "couldnt_update_community")), s)
    | .ok (.ok _, db) => (.modlog v, { s with db })
  | .modlog v, f, s =>
    match blockingTry f (ModlogEntry.create
        (.removeCommunity v.person.id d.communityId d.removed)) s.db with
    | .error e => (.done (.error e), s)
    | .ok (_, db) => (.send, { s with db })
  | .send, f, s => (if f = .ok then .readView else .done (.error .network), s)
  | .readView, f, s =>
    match blockingTry f (Community.read d.communityId) s.db with
    | .error e => (.done (.error e), s)
    | .ok _ => (.done (.ok ()), s)
  | .done r, _, s => (.done r, s)

end RemoveCommunity

namespace AddModToCommunity

structure Data where
  communityId : Nat
  personId : Nat
  added : Bool
  auth : Nat
  deriving DecidableEq, Repr

inductive Pc
  | auth
  | checkMod (v : LocalUserView)
  | join (v : LocalUserView)
  | leave (v : LocalUserView)
  | modlog (v : LocalUserView)
  | readMods
  | done (r : Except LemmyError Unit)
  deriving DecidableEq, Repr

def next (d : Data) : Pc → Fault → State → Pc × State
  | .auth, f, s =>
    match getLocalUserViewFromJwt d.auth f s.db with
    | .error e => (.done (.error e), s)
    | .ok v => (.checkMod v, s)
  | .checkMod v, f, s =>
    match isModOrAdmin v.person.id d.communityId f s.db with
    | .error e => (.done (.error e), s)
    | .ok () => (if d.added then .join v else .leave v, s)
  | .join v, f, s =>
    match blocking f (CommunityModerator.join ⟨d.communityId, d.personId⟩) s.db with
    | .error e => (.done (.error e), s)
    | .ok (.error _, _) => (.done (.error (.api "community_moderator_already_exists")), s)
    | .ok (.ok _, db) => (.modlog v, { s with db })
  | .leave v, f, s =>
    match blocking f (CommunityModerator.leave ⟨d.communityId, d.personId⟩) s.db with
    | .error e => (.done (.error e), s)
    | .ok (.error _, _) => (.done (.error (.api "community_moderator_already_exists")), s)
    | .ok (.ok _, db) => (.modlog v, { s with db })
  | .modlog v, f, s =>
    match blockingTry f (ModlogEntry.create
        (.addCommunity v.person.id d.personId d.communityId !d.added)) s.db with
    | .error e => (.done (.error e), s)
    | .ok (_, db) => (.readMods, { s with db })
  | .readMods, f, s =>
    match blockingTry f (CommunityModeratorView.forCommunity d.communityId) s.db with
    | .error e => (.done (.error e), s)
    | .ok _ => (.done (.ok ()), s)
  | .done r, _, s => (.done r, s)

end AddModToCommunity

namespace TransferCommunity

structure Data where
  communityId : Nat
  personId : Nat
  auth : Nat
  deriving DecidableEq, Repr

inductive Pc
  | auth
  | readCommunity (v : LocalUserView)
  | readSiteCreator (v : LocalUserView) (c : Community)
  | readAdmins (v : LocalUserView) (c : Community) (siteCreatorId : Nat)
  | updateCreator (v : LocalUserView)
  | readMods (v : LocalUserView)
  | deleteMods (v : LocalUserView) (mods : List CommunityModerator)
  | rejoin (v : LocalUserView) (mods : List CommunityModerator)
  | modlog (v : LocalUserView)
  | readView
  | readModerators
  | done (r : Except LemmyError Unit)
  deriving DecidableEq, Repr

def next (d : Data) : Pc → Fault → State → Pc × State
  | .auth, f, s =>
    match getLocalUserViewFromJwt d.auth f s.db with
    | .error e => (.done (.error e), s)
    | .ok v => (.readCommunity v, s)
  | .readCommunity v, f, s =>
    match blockingTry f (Community.read d.communityId) s.db with
    | .error e => (.done (.error e), s)
    | .ok (c, _) => (.readSiteCreator v c, s)
  | .readSiteCreator v c, f, s =>
    match blockingTry f (fun db => db.found (db.site.find? 1)) s.db with
    | .error e => (.done (.error e), s)
    | .ok (site, _) => (.readAdmins v c site.creatorId, s)
  | .readAdmins v c siteCreatorId, f, s =>
    match blockingTry f PersonViewSafe.admins s.db with
    | .error e => (.done (.error e), s)
    | .ok (admins, _) =>
      match moveToFront (·.id = siteCreatorId) admins with
      | none => (.done (.error .context), s)
      | some admins =>
        (if v.person.id ≠ c.creatorId ∧ v.person.id ∉ admins.map (·.id) then
          .done (.error (.api "not_an_admin"))
        else .updateCreator v, s)
  | .updateCreator v, f, s =>
    match blocking f (Community.updateCreator d.communityId d.personId) s.db with
    | .error e => (.done (.error e), s)
    | .ok (.error _, _) => (.done (.error (.api "couldnt_update_community")), s)
    | .ok (.ok _, db) => (.readMods v, { s with db })
  | .readMods v, f, s =>
    match blockingTry f (CommunityModeratorView.forCommunity d.communityId) s.db with
    | .error e => (.done (.error e), s)
    | .ok (mods, _) =>
      match moveToFront (·.personId = d.personId) mods with
      | none => (.done (.error .context), s)
      | some mods => (.deleteMods v mods, s)
  | .deleteMods v mods, f, s =>
    match blockingTry f (CommunityModerator.deleteForCommunity d.communityId) s.db with
    | .error e => (.done (.error e), s)
    | .ok (_, db) => (.rejoin v mods, { s with db })
  | .rejoin v [], _, s => (.modlog v, s)
  | .rejoin v (m :: ms), f, s =>
    match blocking f (CommunityModerator.join ⟨m.communityId, m.personId⟩) s.db with
    | .error e => (.done (.error e), s)
    | .ok (.error _, _) => (.done (.error (.api "community_moderator_already_exists")), s)
    | .ok (.ok _, db) => (.rejoin v ms, { s with db })
  | .modlog v, f, s =>
    match blockingTry f (ModlogEntry.create
        (.addCommunity v.person.id d.personId d.communityId false)) s.db with
    | .error e => (.done (.error e), s)
    | .ok (_, db) => (.readView, { s with db })
  | .readView, f, s =>
    match blocking f (Community.read d.communityId) s.db with
    | .error e => (.done (.error e), s)
    | .ok (.error _, _) => (.done (.error (.api "couldnt_find_community")), s)
    | .ok (.ok _, _) => (.readModerators, s)
  | .readModerators, f, s =>
    match blocking f (CommunityModeratorView.forCommunity d.communityId) s.db with
    | .error e => (.done (.error e), s)
    | .ok (.error _, _) => (.done (.error (.api "couldnt_find_community")), s)
    | .ok (.ok _, _) => (.done (.ok ()), s)
  | .done r, _, s => (.done r, s)

end TransferCommunity

end Lemmy
