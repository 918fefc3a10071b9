import Lemmy.Request

/-! `CreateCommunity` (api/src/community.rs) as a thread: the checks on the request, a read for
a community with the actor id the name gives, the insert, then the creator made a moderator and
a follower of the new community, each write a call of its own. The keys and inbox urls of the
form are left out with their columns. `generate_apub_endpoint` and `is_valid_community_name` are
not in the sources and are modelled from the spec. -/

namespace Lemmy

def generateApubEndpoint (cfg : Settings) (name : String) : Url := ⟨cfg.hostname, "/c/" ++ name⟩

def isValidCommunityName (name : String) : Bool :=
  decide (3 ≤ name.length) && decide (name.length ≤ 20) &&
    name.toList.all (fun c => c.isLower || c.isDigit || c == '_')

namespace CreateCommunity

structure Data where
  name : String
  title : String
  description : Option String
  icon : Option String
  banner : Option String
  nsfw : Bool
  auth : Nat
  deriving DecidableEq, Repr

def form (cfg : Settings) (d : Data) (creatorId : Nat) (icon banner : Option (Option Url)) :
    CommunityForm :=
  { name := d.name, title := d.title, description := d.description, icon, banner, creatorId,
    removed := none, deleted := none, nsfw := d.nsfw,
    actorId := some (generateApubEndpoint cfg d.name), isLocal := true }

inductive Pc
  | auth
  | checkDupe (v : LocalUserView)
  | create (v : LocalUserView) (icon banner : Option (Option Url))
  | join (v : LocalUserView) (c : Community)
  | follow (v : LocalUserView) (c : Community)
  | readView (c : Community)
  | done (r : Except LemmyError Community)
  deriving DecidableEq, Repr

def next (cfg : Config) (d : Data) : Pc → Fault → State → Pc × State
  | .auth, f, s =>
    match getLocalUserViewFromJwt d.auth f s.db, cfg.slurs.checkSlurs d.name,
        cfg.slurs.checkSlurs d.title, cfg.slurs.checkSlursOpt d.description with
    | .error e, _, _, _ | .ok _, .error e, _, _ | .ok _, .ok (), .error e, _
    | .ok _, .ok (), .ok (), .error e => (.done (.error e), s)
    | .ok v, .ok (), .ok (), .ok () =>
      (if isValidCommunityName d.name then .checkDupe v
        else .done (.error (.api "invalid_community_name")), s)
  | .checkDupe v, f, s =>
    match blocking f (Community.readFromApubId (generateApubEndpoint cfg.settings d.name)) s.db with
    | .error e => (.done (.error e), s)
    | .ok (.ok _, _) => (.done (.error (.api "community_already_exists")), s)
    | .ok (.error _, _) =>
      match dieselOptionOverwriteToUrl cfg.urlParse d.icon,
          dieselOptionOverwriteToUrl cfg.urlParse d.banner with
      | .error e, _ | .ok _, .error e => (.done (.error e), s)
      | .ok icon, .ok banner => (.create v icon banner, s)
  | .create v icon banner, f, s =>
    match blocking f (Community.create (form cfg.settings d v.person.id icon banner)) s.db with
    | .error e => (.done (.error e), s)
    | .ok (.error _, _) => (.done (.error (.api "community_already_exists")), s)
    | .ok (.ok c, db) => (.join v c, { s with db })
  | .join v c, f, s =>
    match blocking f (CommunityModerator.join ⟨c.id, v.person.id⟩) s.db with
    | .error e => (.done (.error e), s)
    | .ok (.error _, _) => (.done (.error (.api "community_moderator_already_exists")), s)
    | .ok (.ok _, db) => (.follow v c, { s with db })
  | .follow v c, f, s =>
    match blocking f (CommunityFollower.follow ⟨c.id, v.person.id, false⟩) s.db with
    | .error e => (.done (.error e), s)
    | .ok (.error _, _) => (.done (.error (.api "community_follower_already_exists")), s)
    | .ok (.ok _, db) => (.readView c, { s with db })
  | .readView c, f, s =>
    match blockingTry f (Community.read c.id) s.db with
    | .error e => (.done (.error e), s)
    | .ok (view, _) => (.done (.ok view), s)
  | .done r, _, s => (.done r, s)

end CreateCommunity

def Db.ReferencesCommunities (db : Db) : Prop :=
  (∀ m ∈ db.communityModerator.rows, db.community.Has m.communityId) ∧
    ∀ r ∈ db.communityFollower.rows, db.community.Has r.communityId

namespace CreateCommunity

/-- The checks the request makes before it reads the store pass, for the user `v`. -/
structure Accepted (cfg : Config) (d : Data) (db : Db) (v : LocalUserView) : Prop where
  auth : getLocalUserViewFromJwt d.auth .ok db = .ok v
  name : cfg.slurs.checkSlurs d.name = .ok ()
  title : cfg.slurs.checkSlurs d.title = .ok ()
  description : cfg.slurs.checkSlursOpt d.description = .ok ()
  valid : isValidCommunityName d.name = true
  urls : ∃ icon banner, dieselOptionOverwriteToUrl cfg.urlParse d.icon = .ok icon ∧
    dieselOptionOverwriteToUrl cfg.urlParse d.banner = .ok banner

variable {cfg : Config} {d : Data}

theorem not_has_of_fresh {db : Db} (hrefs : db.ReferencesCommunities) {k : Nat}
    (hk : ∀ r ∈ db.community.rows, r.id ≠ k) (p : Nat) :
    ¬ db.communityModerator.Has (k, p) ∧ ¬ db.communityFollower.Has (k, p) := by
  have hc : ¬ db.community.Has k := fun h => by
    obtain ⟨r, hr, rfl⟩ := (Table.has_iff _ _).1 h
    exact hk r hr rfl
  constructor
  · intro h
    obtain ⟨m, hm, hmk⟩ := (Table.has_iff _ _).1 h
    have := hrefs.1 m hm
    rw [show m.communityId = k from congrArg Prod.fst hmk] at this
    exact hc this
  · intro h
    obtain ⟨r, hr, hrk⟩ := (Table.has_iff _ _).1 h
    have := hrefs.2 r hr
    rw [show r.communityId = k from congrArg Prod.fst hrk] at this
    exact hc this

theorem solo_create {s : State} {v : LocalUserView} (hacc : Accepted cfg d s.db v)
    (hfresh : ∀ r ∈ s.db.community.rows,
      r.name ≠ d.name ∧ r.actorId ≠ generateApubEndpoint cfg.settings d.name)
    (hrefs : s.db.ReferencesCommunities) :
    ∃ c s', solo (next cfg d) .auth s (List.replicate 6 .ok) = (.done (.ok c), s') ∧
      c.name = d.name ∧ c.creatorId = v.person.id ∧
      c.actorId = generateApubEndpoint cfg.settings d.name ∧ (∀ r ∈ s.db.community.rows, r.id ≠ c.id) ∧
      s'.db.community.rows = s.db.community.rows ++ [c] ∧
      s'.db.communityModerator.rows = s.db.communityModerator.rows ++ [⟨c.id, v.person.id⟩] ∧
      s'.db.communityFollower.rows =
        s.db.communityFollower.rows ++ [⟨c.id, v.person.id, some false⟩] ∧
      s'.db.person = s.db.person ∧ s'.db.localUser = s.db.localUser := by
  have h₁ : next cfg d .auth .ok s = (.checkDupe v, s) := by
    simp [next, hacc.auth, hacc.name, hacc.title, hacc.description, hacc.valid]
  obtain ⟨icon, banner, hicon, hbanner⟩ := hacc.urls
  have h₂ : next cfg d (.checkDupe v) .ok s = (.create v icon banner, s) := by
    have : s.db.community.rows.find? (·.actorId = generateApubEndpoint cfg.settings d.name) = none :=
      List.find?_eq_none.2 fun r hr => by simpa using (hfresh r hr).2
    simp [next, blocking, Community.readFromApubId, Db.found, this, hicon, hbanner]
  obtain ⟨c, db₁, hc⟩ :=
    @Community.create_eq_ok_of_fresh (form cfg.settings d v.person.id icon banner) s.db _ rfl
      fun r hr => (hfresh r hr).2
  obtain ⟨ha, hn, hcr, hnew, hdb₁, hrows₁⟩ := Community.create_eq_ok hc
  have h₃ : next cfg d (.create v icon banner) .ok s = (.join v c, { s with db := db₁ }) := by
    simp [next, blocking, hc]
  have hk := not_has_of_fresh hrefs (fun r hr => (hnew r hr).1) v.person.id
  rw [hdb₁] at h₃
  obtain ⟨t₂, ht₂, hj⟩ := @CommunityModerator.join_eq_ok_of_not_has ⟨c.id, v.person.id⟩
    { s.db with community := db₁.community } hk.1
  have h₄ : next cfg d (.join v c) .ok { s with db := { s.db with community := db₁.community } } =
      (.follow v c, { s with db := { s.db with
        community := db₁.community, communityModerator := t₂ } }) := by
    simp [next, blocking, hj]
  obtain ⟨t₃, ht₃⟩ : ∃ t, s.db.communityFollower.insert ⟨c.id, v.person.id, some false⟩ = some t := by
    cases h : s.db.communityFollower.insert ⟨c.id, v.person.id, some false⟩ with
    | none => exact absurd (Table.insert_eq_none_iff.1 h) hk.2
    | some t => exact ⟨t, rfl⟩
  have h₅ : next cfg d (.follow v c) .ok
      { s with db := { s.db with community := db₁.community, communityModerator := t₂ } } =
      (.readView c, { s with db := { s.db with
        community := db₁.community, communityModerator := t₂, communityFollower := t₃ } }) := by
    simp [next, blocking, CommunityFollower.follow, ht₃]
  have h₆ : next cfg d (.readView c) .ok { s with db := { s.db with
        community := db₁.community, communityModerator := t₂, communityFollower := t₃ } } =
      (.done (.ok c), { s with db := { s.db with
        community := db₁.community, communityModerator := t₂, communityFollower := t₃ } }) := by
    have := @Table.find?_of_mem _ _ _ _ db₁.community c (hrows₁ ▸ List.mem_append_right _ (.head _))
    simp [next, blockingTry, blocking, Community.read, Db.found, this]
  refine ⟨c, { s with db := { s.db with
      community := db₁.community, communityModerator := t₂, communityFollower := t₃ } },
    by simp only [List.replicate, solo, h₁, h₂, h₃, h₄, h₅, h₆], hn, hcr,
    (Option.some_inj.1 ha.symm), fun r hr => (hnew r hr).1, hrows₁, (Table.insert_eq_some ht₂).2,
    (Table.insert_eq_some ht₃).2, rfl, rfl⟩

end CreateCommunity

end Lemmy
