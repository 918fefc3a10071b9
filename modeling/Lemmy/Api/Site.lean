import Lemmy.Api.Auth

namespace Lemmy

namespace CreateSite

structure Data where
  name : String
  description : Option String
  icon : Option Url
  banner : Option Url
  enableDownvotes : Bool
  openRegistration : Bool
  enableNsfw : Bool
  auth : Nat
  deriving DecidableEq, Repr

def form (d : Data) (creatorId : Nat) : SiteForm :=
  { name := d.name, description := d.description, icon := some d.icon, banner := some d.banner,
    creatorId, enableDownvotes := d.enableDownvotes, openRegistration := d.openRegistration,
    enableNsfw := d.enableNsfw }

inductive Pc
  | readSite
  | auth
  | create (v : LocalUserView)
  | readView
  | done (r : Except LemmyError Unit)
  deriving DecidableEq, Repr

def next (sf : SlurFilter) (d : Data) : Pc → Fault → State → Pc × State
  | .readSite, f, s =>
    match blocking f Site.readSimple s.db with
    | .error e => (.done (.error e), s)
    | .ok (.ok _, _) => (.done (.error (.api "site_already_exists")), s)
    | .ok (.error _, _) => (.auth, s)
  | .auth, f, s =>
    match getLocalUserViewFromJwt d.auth f s.db with
    | .error e => (.done (.error e), s)
    | .ok v =>
      match sf.checkSlurs d.name, sf.checkSlursOpt d.description, isAdmin v with
      | .error e, _, _ | .ok (), .error e, _ | .ok (), .ok (), .error e => (.done (.error e), s)
      | .ok (), .ok (), .ok () => (.create v, s)
  | .create v, f, s =>
    match blocking f (Site.create (form d v.person.id)) s.db with
    | .error e => (.done (.error e), s)
    | .ok (.error _, _) => (.done (.error (.api "site_already_exists")), s)
    | .ok (.ok _, db) => (.readView, { s with db })
  | .readView, f, s =>
    match blockingTry f Site.readSimple s.db with
    | .error e => (.done (.error e), s)
    | .ok _ => (.done (.ok ()), s)
  | .done r, _, s => (.done r, s)

end CreateSite

namespace EditSite

structure Data where
  name : String
  description : Option String
  icon : Option String
  banner : Option String
  enableDownvotes : Bool
  openRegistration : Bool
  enableNsfw : Bool
  auth : Nat
  deriving DecidableEq, Repr

def form (d : Data) (found : Site) (icon banner : Option (Option Url)) : SiteForm :=
  { name := d.name, description := d.description, icon, banner,
    creatorId := found.creatorId, enableDownvotes := d.enableDownvotes,
    openRegistration := d.openRegistration, enableNsfw := d.enableNsfw }

inductive Pc
  | auth
  | readSite
  | update (found : Site) (icon banner : Option (Option Url))
  | readView
  | done (r : Except LemmyError Unit)
  deriving DecidableEq, Repr

def next (sf : SlurFilter) (parse : String → Option Url) (d : Data) : Pc → Fault → State → Pc × State
  | .auth, f, s =>
    match getLocalUserViewFromJwt d.auth f s.db with
    | .error e => (.done (.error e), s)
    | .ok v =>
      match sf.checkSlurs d.name, sf.checkSlursOpt d.description, isAdmin v with
      | .error e, _, _ | .ok (), .error e, _ | .ok (), .ok (), .error e => (.done (.error e), s)
      | .ok (), .ok (), .ok () => (.readSite, s)
  | .readSite, f, s =>
    match blockingTry f Site.readSimple s.db with
    | .error e => (.done (.error e), s)
    | .ok (found, _) =>
      match dieselOptionOverwriteToUrl parse d.icon, dieselOptionOverwriteToUrl parse d.banner with
      | .error e, _ | .ok _, .error e => (.done (.error e), s)
      | .ok icon, .ok banner => (.update found icon banner, s)
  | .update found icon banner, f, s =>
    match blocking f (Site.update 1 (form d found icon banner)) s.db with
    | .error e => (.done (.error e), s)
    | .ok (.error _, _) => (.done (.error (.api "couldnt_update_site")), s)
    | .ok (.ok _, db) => (.readView, { s with db })
  | .readView, f, s =>
    match blockingTry f Site.readSimple s.db with
    | .error e => (.done (.error e), s)
    | .ok _ => (.done (.ok ()), s)
  | .done r, _, s => (.done r, s)

end EditSite

namespace TransferSite

structure Data where
  personId : Nat
  auth : Nat
  deriving DecidableEq, Repr

inductive Pc
  | auth
  | readSite (v : LocalUserView)
  | transfer (v : LocalUserView)
  | modlog (v : LocalUserView)
  | readView
  | readAdmins (creatorId : Nat)
  | readRest
  | done (r : Except LemmyError Unit)
  deriving DecidableEq, Repr

def next (d : Data) : Pc → Fault → State → Pc × State
  | .auth, f, s =>
    match getLocalUserViewFromJwt d.auth f s.db with
    | .error e => (.done (.error e), s)
    | .ok v =>
      match isAdmin v with
      | .error e => (.done (.error e), s)
      | .ok () => (.readSite v, s)
  | .readSite v, f, s =>
    match blockingTry f Site.readSimple s.db with
    | .error e => (.done (.error e), s)
    | .ok (site, _) =>
      (if site.creatorId ≠ v.person.id then .done (.error (.api "not_an_admin"))
        else .transfer v, s)
  | .transfer v, f, s =>
    match blocking f (Site.transfer d.personId) s.db with
    | .error e => (.done (.error e), s)
    | .ok (.error _, _) => (.done (.error (.api "couldnt_update_site")), s)
    | .ok (.ok _, db) => (.modlog v, { s with db })
  | .modlog v, f, s =>
    match blockingTry f (ModlogEntry.create (.add v.person.id d.personId false)) s.db with
    | .error e => (.done (.error e), s)
    | .ok (_, db) => (.readView, { s with db })
  | .readView, f, s =>
    match blockingTry f Site.readSimple s.db with
    | .error e => (.done (.error e), s)
    | .ok (site, _) => (.readAdmins site.creatorId, s)
  | .readAdmins creatorId, f, s =>
    match blockingTry f PersonViewSafe.admins s.db with
    | .error e => (.done (.error e), s)
    | .ok (admins, _) =>
      (if (moveToFront (·.id = creatorId) admins).isSome then .readRest
        else .done (.error .context), s)
  | .readRest, f, s =>
    match blockingTry f (LocalUserView.read d.auth) s.db with
    | .error e => (.done (.error e), s)
    | .ok _ => (.done (.ok ()), s)
  | .done r, _, s => (.done r, s)

end TransferSite

def noSlurs : SlurFilter := ⟨fun _ => .ok ()⟩

def noUrls : String → Option Url := fun _ => none

def siteAlice : Person := ⟨1, "alice", false, ⟨"a.example", "/u/alice"⟩, true⟩

def siteBob : Person := ⟨2, "bob", false, ⟨"a.example", "/u/bob"⟩, true⟩

def twoUsersState : State :=
  ⟨{ person := ⟨[siteAlice, siteBob], by decide⟩, localUser := ⟨[⟨1, true⟩, ⟨2, false⟩], by decide⟩,
     community := Table.empty, communityFollower := Table.empty, communityModerator := Table.empty,
     communityPersonBan := Table.empty, site := Table.empty, activity := Table.empty,
     post := Table.empty, comment := Table.empty, modlog := [] }, [], []⟩

def aliceCreatesSite : State :=
  (solo (CreateSite.next noSlurs ⟨"Site", none, none, none, true, true, true, 1⟩) .readSite
    twoUsersState (List.replicate 4 .ok)).2

def aliceTransfersSiteToBob : TransferSite.Pc × State :=
  solo (TransferSite.next ⟨2, 1⟩) .auth aliceCreatesSite (List.replicate 7 .ok)

/-- The transfer writes Bob as the site's creator, then fails on the `.context` of his position
among the admins: the error leaves a creator who is not an admin. -/
theorem transfer_site_to_non_admin :
    (aliceCreatesSite.db.site.find? 1).map (·.creatorId) = some siteAlice.id ∧
    aliceTransfersSiteToBob.1 = .done (.error .context) ∧
    (aliceTransfersSiteToBob.2.db.site.find? 1).map (·.creatorId) = some siteBob.id ∧
    (PersonViewSafe.admins aliceTransfersSiteToBob.2.db).map (·.1.map (·.id)) = .ok [siteAlice.id] := by
  decide

end Lemmy
