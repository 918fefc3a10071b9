import Lemmy.Api.Create

/-! The handlers of the API that only read (`GetCommunity`, `GetFollowedCommunities`,
`GetSite`), as threads: they write nothing, but each read is a call of its own,
so a request sees the store as the writers running beside it leave it between two reads. The
online count of the chat server and the fields of the views computed per user are left out.
`get_local_user_view_from_jwt_opt`, `SiteView::read` and `PersonViewSafe::banned` are not in the
sources and are modelled from the spec. With no site and a setup, `GetSite` registers the
setup's admin through `Register::perform`, whose code is not in the sources either, and creates
the site. -/

namespace Lemmy

def getLocalUserViewFromJwtOpt (auth : Option Nat) (f : Fault) (db : Db) :
    Except LemmyError (Option LocalUserView) :=
  match auth with
  | none => .ok none
  | some a => (getLocalUserViewFromJwt a f db).map some

namespace GetCommunity

structure Data where
  id : Option Nat
  name : Option String
  auth : Option Nat
  deriving DecidableEq, Repr

inductive Pc
  | auth
  | readName
  | readView (communityId : Nat)
  | readMods (communityId : Nat) (view : Community)
  | done (r : Except LemmyError (Community × List CommunityModerator))
  deriving DecidableEq, Repr

def next (d : Data) : Pc → Fault → State → Pc × State
  | .auth, f, s =>
    match getLocalUserViewFromJwtOpt d.auth f s.db with
    | .error e => (.done (.error e), s)
    | .ok _ =>
      (match d.id with
        | some id => .readView id
        | none => .readName, s)
  | .readName, f, s =>
    match blocking f (Community.readFromName (d.name.getD "main")) s.db with
    | .error e => (.done (.error e), s)
    | .ok (.error _, _) => (.done (.error (.api "couldnt_find_community")), s)
    | .ok (.ok c, _) => (.readView c.id, s)
  | .readView id, f, s =>
    match blocking f (Community.read id) s.db with
    | .error e => (.done (.error e), s)
    | .ok (.error _, _) => (.done (.error (.api "couldnt_find_community")), s)
    | .ok (.ok view, _) => (.readMods id view, s)
  | .readMods id view, f, s =>
    match blocking f (CommunityModeratorView.forCommunity id) s.db with
    | .error e => (.done (.error e), s)
    | .ok (.error _, _) => (.done (.error (.api "couldnt_find_community")), s)
    | .ok (.ok mods, _) => (.done (.ok (view, mods)), s)
  | .done r, _, s => (.done r, s)

end GetCommunity

namespace GetFollowedCommunities

structure Data where
  auth : Nat
  deriving DecidableEq, Repr

inductive Pc
  | auth
  | read (v : LocalUserView)
  | done (r : Except LemmyError (List CommunityFollower))
  deriving DecidableEq, Repr

def next (d : Data) : Pc → Fault → State → Pc × State
  | .auth, f, s =>
    match getLocalUserViewFromJwt d.auth f s.db with
    | .error e => (.done (.error e), s)
    | .ok v => (.read v, s)
  | .read v, f, s =>
    match blocking f (CommunityFollowerView.forPerson v.person.id) s.db with
    | .error e => (.done (.error e), s)
    | .ok (.error _, _) => (.done (.error (.api "system_err_login")), s)
    | .ok (.ok follows, _) => (.done (.ok follows), s)
  | .done r, _, s => (.done r, s)

end GetFollowedCommunities

structure SiteView where
  site : Site
  creator : Person
  deriving DecidableEq, Repr

def SiteView.read (db : Db) : Except DbError (SiteView × Db) :=
  db.found do
    let s ← db.site.rows.head?
    let c ← db.person.find? s.creatorId
    pure ⟨s, c⟩

def PersonViewSafe.banned (db : Db) : Except DbError (List Person × Db) :=
  .ok (db.person.rows.filter (·.banned), db)

namespace GetSite

structure Data where
  auth : Option Nat
  deriving DecidableEq, Repr

structure Response where
  siteView : Option SiteView
  admins : List Person
  banned : List Person
  myUser : Option LocalUserView
  deriving DecidableEq, Repr

/-- "Make sure the site creator is the top admin": the creator is moved to the front when it is
among the admins, and the list is left as it is when it is not. -/
def creatorFirst (siteView : Option SiteView) (admins : List Person) : List Person :=
  match siteView.bind fun sv => moveToFront (·.id = sv.creator.id) admins with
  | some l => l
  | none => admins

def setupRegister (setup : Setup) : Register :=
  { username := setup.adminUsername, email := setup.adminEmail, password := setup.adminPassword,
    passwordVerify := setup.adminPassword, showNsfw := true, captchaUuid := none,
    captchaAnswer := none }

def setupSite (setup : Setup) (jwt : Nat) : CreateSite.Data :=
  { name := setup.siteName, description := none, icon := none, banner := none,
    enableDownvotes := true, openRegistration := true, enableNsfw := true, auth := jwt }

inductive Pc
  | readSite
  | register (setup : Setup)
  | createSite (site : CreateSite.Data) (pc : CreateSite.Pc)
  | readCreated
  | readAdmins (siteView : Option SiteView)
  | readBanned (siteView : Option SiteView) (admins : List Person)
  | myUser (siteView : Option SiteView) (admins banned : List Person)
  | federated (r : Response)
  | done (r : Except LemmyError Response)
  deriving DecidableEq, Repr

def Pc.inSetup : Pc → Bool
  | .register _ | .createSite .. => true
  | _ => false

def next (cfg : Config) (d : Data) : Pc → Fault → State → Pc × State
  | .readSite, f, s =>
    match blocking f SiteView.read s.db with
    | .error e => (.done (.error e), s)
    | .ok (.ok sv, _) => (.readAdmins (some sv), s)
    | .ok (.error _, _) =>
      match cfg.setup with
      | some setup => (.register setup, s)
      | none => (.readAdmins none, s)
  | .register setup, f, s =>
    match cfg.register (setupRegister setup) f s.db with
    | .error e => (.done (.error e), s)
    | .ok (jwt, db) => (.createSite (setupSite setup jwt) .readSite, { s with db })
  | .createSite site pc, f, s =>
    match CreateSite.next cfg.slurs site pc f s with
    | (.done (.error e), s') => (.done (.error e), s')
    | (.done (.ok ()), s') => (.readCreated, s')
    | (pc', s') => (.createSite site pc', s')
  | .readCreated, f, s =>
    match blockingTry f SiteView.read s.db with
    | .error e => (.done (.error e), s)
    | .ok (sv, _) => (.readAdmins (some sv), s)
  | .readAdmins sv, f, s =>
    match blockingTry f PersonViewSafe.admins s.db with
    | .error e => (.done (.error e), s)
    | .ok (admins, _) => (.readBanned sv (creatorFirst sv admins), s)
  | .readBanned sv admins, f, s =>
    match blockingTry f PersonViewSafe.banned s.db with
    | .error e => (.done (.error e), s)
    | .ok (banned, _) => (.myUser sv admins banned, s)
  | .myUser sv admins banned, f, s =>
    match getLocalUserViewFromJwtOpt d.auth f s.db with
    | .error e => (.done (.error e), s)
    | .ok u => (.federated ⟨sv, admins, banned, u⟩, s)
  | .federated r, f, s =>
    match blockingTry f (fun db => .ok ((), db)) s.db with
    | .error e => (.done (.error e), s)
    | .ok _ => (.done (.ok r), s)
  | .done r, _, s => (.done r, s)

theorem creatorFirst_perm (sv : Option SiteView) (admins : List Person) :
    (creatorFirst sv admins).Perm admins := by
  unfold creatorFirst
  split
  · rename_i l hl
    obtain ⟨sv, -, hm⟩ := Option.bind_eq_some.1 hl
    obtain ⟨pre, x, post, rfl, -, -, rfl⟩ := moveToFront_eq_some hm
    exact List.perm_middle.symm
  · exact .refl _

theorem creatorFirst_head {sv : SiteView} {admins : List Person}
    (h : ∃ p ∈ admins, p.id = sv.creator.id) :
    (creatorFirst (some sv) admins).head?.map (·.id) = some sv.creator.id := by
  cases hm : moveToFront (·.id = sv.creator.id) admins with
  | none =>
    obtain ⟨p, hp, hid⟩ := h
    simpa [hid] using moveToFront_eq_none hm p hp
  | some l =>
    obtain ⟨pre, x, post, -, hx, -, rfl⟩ := moveToFront_eq_some hm
    simpa [creatorFirst, hm] using hx

end GetSite

theorem getLocalUserViewFromJwt_eq_ok {auth : Nat} {f : Fault} {db : Db} {v : LocalUserView}
    (h : getLocalUserViewFromJwt auth f db = .ok v) :
    db.person.find? auth = some v.person ∧ db.localUser.find? auth = some v.localUser := by
  unfold getLocalUserViewFromJwt at h
  split at h
  · cases h
  · rename_i v' db' hv
    have hv' : v' = v := by split at h <;> cases h; rfl
    subst hv'
    obtain ⟨hq, -⟩ := Db.found_eq_ok.1 (blockingTry_eq_ok hv).2
    cases hp : db.person.find? auth <;> cases hu : db.localUser.find? auth <;>
      simp [hp, hu] at hq
    subst hq
    exact ⟨rfl, rfl⟩

theorem getLocalUserViewFromJwt_congr {db db' : Db} (hp : db'.person = db.person)
    (hl : db'.localUser = db.localUser) (auth : Nat) (f : Fault) :
    getLocalUserViewFromJwt auth f db' = getLocalUserViewFromJwt auth f db := by
  cases f with
  | ok =>
    simp only [getLocalUserViewFromJwt, blockingTry, blocking, LocalUserView.read, Db.found, hp, hl]
    cases db.person.find? auth <;> cases db.localUser.find? auth <;> rfl
  | _ => rfl

theorem getLocalUserViewFromJwtOpt_congr {db db' : Db} (hp : db'.person = db.person)
    (hl : db'.localUser = db.localUser) (auth : Option Nat) (f : Fault) :
    getLocalUserViewFromJwtOpt auth f db' = getLocalUserViewFromJwtOpt auth f db := by
  cases auth <;> simp [getLocalUserViewFromJwtOpt, getLocalUserViewFromJwt_congr hp hl]

end Lemmy
