import Lemmy.Api.Read
import Lemmy.Api.Transfer

namespace Lemmy

theorem GetFollowedCommunities.solo_ok {d : GetFollowedCommunities.Data} {s : State}
    {v : LocalUserView} (hv : getLocalUserViewFromJwt d.auth .ok s.db = .ok v) :
    (solo (GetFollowedCommunities.next d) .auth s (List.replicate 2 .ok)).1 =
      .done (.ok ((s.db.communityFollower.rows.filter (·.personId = v.person.id)).insertionSort
        (fun a b => a.title s.db ≤ b.title s.db))) := by
  simp only [solo, List.replicate, GetFollowedCommunities.next, hv, blocking,
    CommunityFollowerView.forPerson]

theorem sorted_forPerson (db : Db) (l : List CommunityFollower) :
    (l.insertionSort (fun a b => a.title db ≤ b.title db)).Sorted
      (fun a b => a.title db ≤ b.title db) :=
  haveI : IsTotal CommunityFollower (fun a b => a.title db ≤ b.title db) :=
    ⟨fun a b => le_total (a.title db) (b.title db)⟩
  haveI : IsTrans CommunityFollower (fun a b => a.title db ≤ b.title db) :=
    ⟨fun _ _ _ => le_trans⟩
  List.sorted_insertionSort _ l

theorem GetCommunity.solo_ok_id {d : GetCommunity.Data} {s : State} {k : Nat} {c : Community}
    {u : Option LocalUserView} (hid : d.id = some k)
    (hu : getLocalUserViewFromJwtOpt d.auth .ok s.db = .ok u)
    (hc : s.db.community.find? k = some c) :
    (solo (GetCommunity.next d) .auth s (List.replicate 3 .ok)).1 =
      .done (.ok (c, s.db.communityModerator.rows.filter (·.communityId = k))) := by
  simp [solo, List.replicate, GetCommunity.next, hid, hu, blocking, Community.read, Db.found, hc,
    CommunityModeratorView.forCommunity]

/-- A community created alone, every call succeeding, on a store where its name and actor id are
new and every membership names a stored community, is what `GetCommunity` by the name then
answers, with its creator as its only moderator; `GetFollowedCommunities` of the creator lists
the creator's follow of it. -/
theorem created_community_read_back (cfg : Config) (d : CreateCommunity.Data) (s : State)
    (v : LocalUserView) (hacc : CreateCommunity.Accepted cfg d s.db v)
    (hfresh : ∀ r ∈ s.db.community.rows,
      r.name ≠ d.name ∧ r.actorId ≠ generateApubEndpoint cfg.settings d.name)
    (hrefs : s.db.ReferencesCommunities) (a : Option Nat)
    (ha : ∃ u, getLocalUserViewFromJwtOpt a .ok s.db = .ok u) :
    ∃ c s', solo (CreateCommunity.next cfg d) .auth s (List.replicate 6 .ok) = (.done (.ok c), s') ∧
      c.name = d.name ∧ c.creatorId = v.person.id ∧
      c.actorId = generateApubEndpoint cfg.settings d.name ∧
      (solo (GetCommunity.next ⟨none, some d.name, a⟩) .auth s' (List.replicate 4 .ok)).1 =
        .done (.ok (c, [⟨c.id, v.person.id⟩])) ∧
      ∃ follows, (solo (GetFollowedCommunities.next ⟨d.auth⟩) .auth s' (List.replicate 2 .ok)).1 =
          .done (.ok follows) ∧ ⟨c.id, v.person.id, some false⟩ ∈ follows := by
  obtain ⟨c, s', hrun, hn, hcr, hact, hid, hcom, hmod, hfol, hp, hl⟩ :=
    CreateCommunity.solo_create hacc hfresh hrefs
  obtain ⟨u, hu⟩ := ha
  have hjwt := getLocalUserViewFromJwt_congr hp hl
  have hu' := (getLocalUserViewFromJwtOpt_congr hp hl a .ok).trans hu
  have hname : Community.readFromName d.name s'.db = .ok (c, s'.db) := by
    have : s.db.community.rows.find? (·.name = d.name) = none :=
      List.find?_eq_none.2 fun r hr => by simpa using (hfresh r hr).1
    simp [Community.readFromName, Db.found, hcom, List.find?_append, this, hn]
  have hread : Community.read c.id s'.db = .ok (c, s'.db) := by
    simp [Community.read, Db.found,
      @Table.find?_of_mem _ _ _ _ s'.db.community c (hcom ▸ List.mem_append_right _ (.head _))]
  have hmods :
      CommunityModeratorView.forCommunity c.id s'.db = .ok ([⟨c.id, v.person.id⟩], s'.db) := by
    have : s.db.communityModerator.rows.filter (·.communityId = c.id) = [] :=
      List.filter_eq_nil_iff.2 fun m hm hmc => by
        obtain ⟨r, hr, hrid⟩ := (Table.has_iff _ _).1 (hrefs.1 m hm)
        exact hid r hr (hrid.trans (of_decide_eq_true hmc))
    simp [CommunityModeratorView.forCommunity, hmod, List.filter_append, this]
  refine ⟨c, s', hrun, hn, hcr, hact, ?_, ?_⟩
  · simp [solo, List.replicate, GetCommunity.next, hu', blocking, hname, hread, hmods]
  · exact ⟨_, GetFollowedCommunities.solo_ok ((hjwt _ _).trans hacc.auth),
      (List.mem_insertionSort _).2 (by simp [hfol])⟩

def createsConfig : Config :=
  ⟨⟨"a.example", []⟩, noSlurs, noUrls, none, fun _ _ _ => .error .network⟩

def createMain : CreateCommunity.Data := ⟨"main", "Main", none, none, none, false, 1⟩

def siteAliceView : LocalUserView := ⟨siteAlice, ⟨1, true⟩⟩

theorem alice_reads_back_main :
    CreateCommunity.Accepted createsConfig createMain twoUsersState.db siteAliceView ∧
      (∀ r ∈ twoUsersState.db.community.rows, r.name ≠ createMain.name ∧
        r.actorId ≠ generateApubEndpoint createsConfig.settings createMain.name) ∧
      twoUsersState.db.ReferencesCommunities ∧
      (∃ u, getLocalUserViewFromJwtOpt none .ok twoUsersState.db = .ok u) ∧
      ∃ c s', solo (CreateCommunity.next createsConfig createMain) .auth twoUsersState
          (List.replicate 6 .ok) = (.done (.ok c), s') ∧
        c.name = createMain.name ∧ c.creatorId = siteAliceView.person.id ∧
        c.actorId = generateApubEndpoint createsConfig.settings createMain.name ∧
        (solo (GetCommunity.next ⟨none, some createMain.name, none⟩) .auth s'
          (List.replicate 4 .ok)).1 = .done (.ok (c, [⟨c.id, siteAliceView.person.id⟩])) ∧
        ∃ follows, (solo (GetFollowedCommunities.next ⟨createMain.auth⟩) .auth s'
            (List.replicate 2 .ok)).1 = .done (.ok follows) ∧
          ⟨c.id, siteAliceView.person.id, some false⟩ ∈ follows :=
  have hacc : CreateCommunity.Accepted createsConfig createMain twoUsersState.db siteAliceView :=
    ⟨rfl, rfl, rfl, rfl, rfl, none, none, rfl, rfl⟩
  have hfresh : ∀ r ∈ twoUsersState.db.community.rows, r.name ≠ createMain.name ∧
      r.actorId ≠ generateApubEndpoint createsConfig.settings createMain.name := by rintro _ ⟨⟩
  have hrefs : twoUsersState.db.ReferencesCommunities := ⟨by rintro _ ⟨⟩, by rintro _ ⟨⟩⟩
  have ha : ∃ u, getLocalUserViewFromJwtOpt none .ok twoUsersState.db = .ok u := ⟨none, rfl⟩
  ⟨hacc, hfresh, hrefs, ha, created_community_read_back createsConfig createMain twoUsersState
    siteAliceView hacc hfresh hrefs none ha⟩

theorem unfollow_forPerson (rows : List CommunityFollower) (k p : Nat) :
    (rows.filter fun r => !decide (r.key = (k, p))).filter (·.personId = p) =
      (rows.filter (·.personId = p)).filter (·.communityId ≠ k) := by
  simp only [List.filter_filter]
  congr 1
  funext r
  by_cases h : r.personId = p <;> simp [CommunityFollower.key, h]

/-- A `FollowCommunity` alone, every call succeeding, for a token that passes and a stored
community, answers `Ok`; what `GetFollowedCommunities` of the token lists after it is what it
listed before with the follow appended when the community is local, the same when it is remote
("Dont actually add to the community followers here, because you need to wait for the accept"),
and without the community after an unfollow, local or remote. A local follow needs the user not
banned from the community and not following it yet. -/
theorem follow_read_back (d : FollowCommunity.Data) (s : State) (v : LocalUserView) (c : Community)
    (hv : getLocalUserViewFromJwt d.auth .ok s.db = .ok v)
    (hc : s.db.community.find? d.communityId = some c)
    (hlocal : c.isLocal → d.follow → checkCommunityBan v.person.id d.communityId .ok s.db = .ok () ∧
      ¬ s.db.communityFollower.Has (d.communityId, v.person.id)) :
    ∃ s' before after,
      solo (FollowCommunity.next d) .auth s (List.replicate 5 .ok) = (.done (.ok ()), s') ∧
      (solo (GetFollowedCommunities.next ⟨d.auth⟩) .auth s (List.replicate 2 .ok)).1 =
        .done (.ok before) ∧
      (solo (GetFollowedCommunities.next ⟨d.auth⟩) .auth s' (List.replicate 2 .ok)).1 =
        .done (.ok after) ∧
      after.Sorted (fun a b => a.title s'.db ≤ b.title s'.db) ∧
      (d.follow → c.isLocal → after.Perm (before ++ [⟨d.communityId, v.person.id, some false⟩])) ∧
      (d.follow → c.isLocal = false → after = before) ∧
      (d.follow = false → after.Perm (before.filter (·.communityId ≠ d.communityId))) := by
  have hafter : ∀ t, (solo (GetFollowedCommunities.next ⟨d.auth⟩) .auth
      { s with db := { s.db with communityFollower := t } } (List.replicate 2 .ok)).1 =
      .done (.ok ((t.rows.filter (·.personId = v.person.id)).insertionSort
        (fun a b => a.title s.db ≤ b.title s.db))) := fun t =>
    GetFollowedCommunities.solo_ok
      ((getLocalUserViewFromJwt_congr (by rfl) (by rfl) _ _).trans hv)
  have hperm := fun l => List.perm_insertionSort (fun a b : CommunityFollower => a.title s.db ≤ b.title s.db) l
  cases hf : d.follow <;> cases hl : c.isLocal
  case false.false | false.true =>
    refine ⟨_, _, _, ?_, GetFollowedCommunities.solo_ok hv,
      hafter (s.db.communityFollower.deleteWhere (·.key = (d.communityId, v.person.id))),
      sorted_forPerson _ _, by simp, by simp, fun _ => ?_⟩
    · simp [solo, List.replicate, FollowCommunity.next, hv, blockingTry, blocking, Community.read,
        Db.found, hc, hf, hl, CommunityFollower.unfollow]
    · refine (hperm _).trans ?_
      simp only [Table.deleteWhere_rows, unfollow_forPerson]
      exact ((hperm _).filter _).symm
  case true.false =>
    refine ⟨s, _, _, ?_, GetFollowedCommunities.solo_ok hv, GetFollowedCommunities.solo_ok hv,
      sorted_forPerson _ _, by simp, fun _ _ => rfl, by simp⟩
    simp [solo, List.replicate, FollowCommunity.next, hv, blockingTry, blocking, Community.read,
      Db.found, hc, hf, hl]
  case true.true =>
    obtain ⟨hban, hnew⟩ := hlocal hl hf
    obtain ⟨t, ht⟩ : ∃ t, s.db.communityFollower.insert ⟨d.communityId, v.person.id, some false⟩ =
        some t := Option.ne_none_iff_exists'.1 fun h => hnew (Table.insert_eq_none_iff.1 h)
    refine ⟨_, _, _, ?_, GetFollowedCommunities.solo_ok hv, hafter t, sorted_forPerson _ _,
      fun _ _ => ?_, by simp, by simp⟩
    · simp [solo, List.replicate, FollowCommunity.next, hv, blockingTry, blocking, Community.read,
        Db.found, hc, hf, hl, hban, CommunityFollower.follow, ht]
    · refine (hperm _).trans ?_
      simp only [(Table.insert_eq_some ht).2, List.filter_append]
      exact ((hperm _).symm.append_right _).trans (by simp)

def erinFollowsMain : FollowCommunity.Data := ⟨1, true, 4⟩

theorem erin_follow_read_back :
    getLocalUserViewFromJwt erinFollowsMain.auth .ok moderatorsState.db =
        .ok ⟨⟨4, "erin", false, ⟨"a.example", "/u/erin"⟩, true⟩, ⟨4, false⟩⟩ ∧
      moderatorsState.db.community.find? erinFollowsMain.communityId = some mainCommunity ∧
      (mainCommunity.isLocal → erinFollowsMain.follow →
        checkCommunityBan 4 erinFollowsMain.communityId .ok moderatorsState.db = .ok () ∧
          ¬ moderatorsState.db.communityFollower.Has (erinFollowsMain.communityId, 4)) ∧
      ∃ s' before after,
        solo (FollowCommunity.next erinFollowsMain) .auth moderatorsState (List.replicate 5 .ok) =
          (.done (.ok ()), s') ∧
        (solo (GetFollowedCommunities.next ⟨erinFollowsMain.auth⟩) .auth moderatorsState
          (List.replicate 2 .ok)).1 = .done (.ok before) ∧
        (solo (GetFollowedCommunities.next ⟨erinFollowsMain.auth⟩) .auth s'
          (List.replicate 2 .ok)).1 = .done (.ok after) ∧
        after.Sorted (fun a b => a.title s'.db ≤ b.title s'.db) ∧
        (erinFollowsMain.follow → mainCommunity.isLocal →
          after.Perm (before ++ [⟨erinFollowsMain.communityId, 4, some false⟩])) ∧
        (erinFollowsMain.follow → mainCommunity.isLocal = false → after = before) ∧
        (erinFollowsMain.follow = false →
          after.Perm (before.filter (·.communityId ≠ erinFollowsMain.communityId))) :=
  have hv : getLocalUserViewFromJwt erinFollowsMain.auth .ok moderatorsState.db =
      .ok ⟨⟨4, "erin", false, ⟨"a.example", "/u/erin"⟩, true⟩, ⟨4, false⟩⟩ := by decide
  have hc : moderatorsState.db.community.find? erinFollowsMain.communityId = some mainCommunity := by
    decide
  have hlocal : mainCommunity.isLocal → erinFollowsMain.follow →
      checkCommunityBan 4 erinFollowsMain.communityId .ok moderatorsState.db = .ok () ∧
        ¬ moderatorsState.db.communityFollower.Has (erinFollowsMain.communityId, 4) :=
    fun _ _ => by decide
  ⟨hv, hc, hlocal, follow_read_back erinFollowsMain moderatorsState _ mainCommunity hv hc hlocal⟩

/-- A moderator's `EditCommunity` alone, every call succeeding, with a title and description that
pass the slur filter, answers `Ok`, and `GetCommunity` of the community then answers it with the
request's title, nsfw flag, icon and banner overwrites and description, the old description when
the request gives none, everything else and the moderators as before. -/
theorem edit_read_back (sf : SlurFilter) (parse : String → Option Url) (d : EditCommunity.Data)
    (s : State) (v : LocalUserView) (c : Community) (a : Option Nat) (icon banner : Option (Option Url))
    (hv : getLocalUserViewFromJwt d.auth .ok s.db = .ok v)
    (hslurs : sf.checkSlurs d.title = .ok () ∧ sf.checkSlursOpt d.description = .ok ())
    (hurls : dieselOptionOverwriteToUrl parse d.icon = .ok icon ∧
      dieselOptionOverwriteToUrl parse d.banner = .ok banner)
    (hmod : s.db.communityModerator.Has (d.communityId, v.person.id))
    (hc : s.db.community.find? d.communityId = some c)
    (ha : ∃ u, getLocalUserViewFromJwtOpt a .ok s.db = .ok u) :
    ∃ s' mods,
      solo (EditCommunity.next sf parse d) .auth s (List.replicate 5 .ok) = (.done (.ok ()), s') ∧
      (solo (GetCommunity.next ⟨some d.communityId, none, a⟩) .auth s (List.replicate 3 .ok)).1 =
        .done (.ok (c, mods)) ∧
      (solo (GetCommunity.next ⟨some d.communityId, none, a⟩) .auth s' (List.replicate 3 .ok)).1 =
        .done (.ok ({ c with
          title := d.title, description := d.description <|> c.description, nsfw := d.nsfw,
          icon := icon.getD c.icon, banner := banner.getD c.banner }, mods)) := by
  obtain ⟨u, hu⟩ := ha
  have hmem : v.person.id ∈
      (s.db.communityModerator.rows.filter (·.communityId = d.communityId)).map (·.personId) := by
    obtain ⟨m, hm, hk⟩ := (Table.has_iff _ _).1 hmod
    simp only [CommunityModerator.key, Prod.mk.injEq] at hk
    exact List.mem_map.2 ⟨m, List.mem_filter.2 ⟨hm, by simp [hk.1]⟩, hk.2⟩
  refine ⟨{ s with
      db := { s.db with
        community := s.db.community.updateKey d.communityId
          (·.applyForm (EditCommunity.form c d.title d.description icon banner d.nsfw))
          (fun _ => rfl) } },
    _, ?_, GetCommunity.solo_ok_id rfl hu hc,
    GetCommunity.solo_ok_id rfl ((getLocalUserViewFromJwtOpt_congr (by rfl) (by rfl) _ _).trans hu) ?_⟩
  · simp [solo, List.replicate, EditCommunity.next, hv, hslurs, blockingTry, blocking,
      CommunityModeratorView.forCommunity, hmem, Community.read, Db.found, hc, hurls,
      Community.update, Community.set, Table.find?_updateKey]
  · simp [Table.find?_updateKey, hc]
    rfl

def carolRetitlesMain : EditCommunity.Data := ⟨1, "Main street", none, none, none, true, 2⟩

theorem carol_edit_read_back :
    getLocalUserViewFromJwt carolRetitlesMain.auth .ok moderatorsState.db =
        .ok ⟨⟨2, "carol", false, ⟨"a.example", "/u/carol"⟩, true⟩, ⟨2, false⟩⟩ ∧
      (noSlurs.checkSlurs carolRetitlesMain.title = .ok () ∧
        noSlurs.checkSlursOpt carolRetitlesMain.description = .ok ()) ∧
      (dieselOptionOverwriteToUrl noUrls carolRetitlesMain.icon = .ok none ∧
        dieselOptionOverwriteToUrl noUrls carolRetitlesMain.banner = .ok none) ∧
      moderatorsState.db.communityModerator.Has (carolRetitlesMain.communityId, 2) ∧
      moderatorsState.db.community.find? carolRetitlesMain.communityId = some mainCommunity ∧
      (∃ u, getLocalUserViewFromJwtOpt none .ok moderatorsState.db = .ok u) ∧
      ∃ s' mods,
        solo (EditCommunity.next noSlurs noUrls carolRetitlesMain) .auth moderatorsState
          (List.replicate 5 .ok) = (.done (.ok ()), s') ∧
        (solo (GetCommunity.next ⟨some carolRetitlesMain.communityId, none, none⟩) .auth
          moderatorsState (List.replicate 3 .ok)).1 = .done (.ok (mainCommunity, mods)) ∧
        (solo (GetCommunity.next ⟨some carolRetitlesMain.communityId, none, none⟩) .auth s'
          (List.replicate 3 .ok)).1 =
          .done (.ok ({ mainCommunity with
            title := carolRetitlesMain.title,
            description := carolRetitlesMain.description <|> mainCommunity.description,
            nsfw := carolRetitlesMain.nsfw, icon := (none : Option (Option Url)).getD mainCommunity.icon,
            banner := (none : Option (Option Url)).getD mainCommunity.banner }, mods)) :=
  have hv : getLocalUserViewFromJwt carolRetitlesMain.auth .ok moderatorsState.db =
      .ok ⟨⟨2, "carol", false, ⟨"a.example", "/u/carol"⟩, true⟩, ⟨2, false⟩⟩ := by decide
  have hslurs : noSlurs.checkSlurs carolRetitlesMain.title = .ok () ∧
      noSlurs.checkSlursOpt carolRetitlesMain.description = .ok () := ⟨rfl, rfl⟩
  have hmod : moderatorsState.db.communityModerator.Has (carolRetitlesMain.communityId, 2) := by
    decide
  have hc : moderatorsState.db.community.find? carolRetitlesMain.communityId = some mainCommunity := by
    decide
  have ha : ∃ u, getLocalUserViewFromJwtOpt none .ok moderatorsState.db = .ok u := ⟨none, rfl⟩
  have hurls : dieselOptionOverwriteToUrl noUrls carolRetitlesMain.icon = .ok none ∧
      dieselOptionOverwriteToUrl noUrls carolRetitlesMain.banner = .ok none := ⟨rfl, rfl⟩
  ⟨hv, hslurs, hurls, hmod, hc, ha,
    edit_read_back noSlurs noUrls carolRetitlesMain moderatorsState _ mainCommunity none none none
      hv hslurs hurls hmod hc ha⟩

/-- The creator's `DeleteCommunity` alone, its calls succeeding up to the federation of the
delete, which fails, answers `Err`; yet the flag is written before the activity is sent and
nothing undoes it, so `GetCommunity` then answers the community with the request's `deleted`. -/
theorem delete_applied_when_send_fails (d : DeleteCommunity.Data) (s : State) (v : LocalUserView)
    (c : Community) (a : Option Nat) (f : Fault) (hf : f ≠ .ok)
    (hv : getLocalUserViewFromJwt d.auth .ok s.db = .ok v)
    (hc : s.db.community.find? d.communityId = some c) (hcreator : c.creatorId = v.person.id)
    (ha : ∃ u, getLocalUserViewFromJwtOpt a .ok s.db = .ok u) :
    ∃ s' mods,
      solo (DeleteCommunity.next d) .auth s [.ok, .ok, .ok, f] = (.done (.error .network), s') ∧
      (solo (GetCommunity.next ⟨some d.communityId, none, a⟩) .auth s (List.replicate 3 .ok)).1 =
        .done (.ok (c, mods)) ∧
      (solo (GetCommunity.next ⟨some d.communityId, none, a⟩) .auth s' (List.replicate 3 .ok)).1 =
        .done (.ok ({ c with deleted := d.deleted }, mods)) := by
  obtain ⟨u, hu⟩ := ha
  refine ⟨{ s with
      db := { s.db with
        community := s.db.community.updateKey d.communityId ({ · with deleted := d.deleted })
          (fun _ => rfl) } },
    _, ?_, GetCommunity.solo_ok_id rfl hu hc,
    GetCommunity.solo_ok_id rfl ((getLocalUserViewFromJwtOpt_congr (by rfl) (by rfl) _ _).trans hu) ?_⟩
  · simp [solo, DeleteCommunity.next, hv, blockingTry, blocking, Community.read, Db.found, hc,
      hcreator, Community.updateDeleted, Community.set, hf]
  · simp [Table.find?_updateKey, hc]

def carolDeletesMain : DeleteCommunity.Data := ⟨1, true, 2⟩

theorem carol_delete_applied :
    Fault.pool ≠ .ok ∧
      getLocalUserViewFromJwt carolDeletesMain.auth .ok moderatorsState.db =
        .ok ⟨⟨2, "carol", false, ⟨"a.example", "/u/carol"⟩, true⟩, ⟨2, false⟩⟩ ∧
      moderatorsState.db.community.find? carolDeletesMain.communityId = some mainCommunity ∧
      mainCommunity.creatorId = 2 ∧
      (∃ u, getLocalUserViewFromJwtOpt none .ok moderatorsState.db = .ok u) ∧
      ∃ s' mods,
        solo (DeleteCommunity.next carolDeletesMain) .auth moderatorsState [.ok, .ok, .ok, .pool] =
          (.done (.error .network), s') ∧
        (solo (GetCommunity.next ⟨some carolDeletesMain.communityId, none, none⟩) .auth
          moderatorsState (List.replicate 3 .ok)).1 = .done (.ok (mainCommunity, mods)) ∧
        (solo (GetCommunity.next ⟨some carolDeletesMain.communityId, none, none⟩) .auth s'
          (List.replicate 3 .ok)).1 =
          .done (.ok ({ mainCommunity with deleted := carolDeletesMain.deleted }, mods)) :=
  have hv : getLocalUserViewFromJwt carolDeletesMain.auth .ok moderatorsState.db =
      .ok ⟨⟨2, "carol", false, ⟨"a.example", "/u/carol"⟩, true⟩, ⟨2, false⟩⟩ := by decide
  have hc : moderatorsState.db.community.find? carolDeletesMain.communityId = some mainCommunity := by
    decide
  have ha : ∃ u, getLocalUserViewFromJwtOpt none .ok moderatorsState.db = .ok u := ⟨none, rfl⟩
  ⟨by decide, hv, hc, rfl, ha,
    delete_applied_when_send_fails carolDeletesMain moderatorsState _ mainCommunity none .pool
      (by decide) hv hc rfl ha⟩

/-- An admin's `RemoveCommunity` alone, its calls succeeding up to the federation of the removal,
which fails, answers `Err`, with the community marked removed and the removal in the log:
`GetCommunity` then answers the community with the request's `removed`. -/
theorem remove_applied_when_send_fails (d : RemoveCommunity.Data) (s : State) (v : LocalUserView)
    (c : Community) (a : Option Nat) (f : Fault) (hf : f ≠ .ok)
    (hv : getLocalUserViewFromJwt d.auth .ok s.db = .ok v) (hadmin : v.localUser.admin = true)
    (hc : s.db.community.find? d.communityId = some c)
    (ha : ∃ u, getLocalUserViewFromJwtOpt a .ok s.db = .ok u) :
    ∃ s' mods,
      solo (RemoveCommunity.next d) .auth s [.ok, .ok, .ok, f] = (.done (.error .network), s') ∧
      .removeCommunity v.person.id d.communityId d.removed ∈ s'.db.modlog ∧
      (solo (GetCommunity.next ⟨some d.communityId, none, a⟩) .auth s (List.replicate 3 .ok)).1 =
        .done (.ok (c, mods)) ∧
      (solo (GetCommunity.next ⟨some d.communityId, none, a⟩) .auth s' (List.replicate 3 .ok)).1 =
        .done (.ok ({ c with removed := d.removed }, mods)) := by
  obtain ⟨u, hu⟩ := ha
  refine ⟨{ s with
      db := { s.db with
        community := s.db.community.updateKey d.communityId ({ · with removed := d.removed })
          (fun _ => rfl)
        modlog := s.db.modlog ++ [.removeCommunity v.person.id d.communityId d.removed] } },
    _, ?_, by simp, GetCommunity.solo_ok_id rfl hu hc,
    GetCommunity.solo_ok_id rfl ((getLocalUserViewFromJwtOpt_congr (by rfl) (by rfl) _ _).trans hu) ?_⟩
  · simp [solo, RemoveCommunity.next, hv, isAdmin, hadmin, blockingTry, blocking,
      Community.updateRemoved, Community.set, hc, ModlogEntry.create, hf]
  · simp [Table.find?_updateKey, hc]

def adminRemovesMain : RemoveCommunity.Data := ⟨1, true, 1⟩

theorem admin_remove_applied :
    Fault.pool ≠ .ok ∧
      getLocalUserViewFromJwt adminRemovesMain.auth .ok moderatorsState.db =
        .ok ⟨⟨1, "admin", false, ⟨"a.example", "/u/admin"⟩, true⟩, ⟨1, true⟩⟩ ∧
      moderatorsState.db.community.find? adminRemovesMain.communityId = some mainCommunity ∧
      (∃ u, getLocalUserViewFromJwtOpt none .ok moderatorsState.db = .ok u) ∧
      ∃ s' mods,
        solo (RemoveCommunity.next adminRemovesMain) .auth moderatorsState [.ok, .ok, .ok, .pool] =
          (.done (.error .network), s') ∧
        .removeCommunity 1 adminRemovesMain.communityId adminRemovesMain.removed ∈ s'.db.modlog ∧
        (solo (GetCommunity.next ⟨some adminRemovesMain.communityId, none, none⟩) .auth
          moderatorsState (List.replicate 3 .ok)).1 = .done (.ok (mainCommunity, mods)) ∧
        (solo (GetCommunity.next ⟨some adminRemovesMain.communityId, none, none⟩) .auth s'
          (List.replicate 3 .ok)).1 =
          .done (.ok ({ mainCommunity with removed := adminRemovesMain.removed }, mods)) :=
  have hv : getLocalUserViewFromJwt adminRemovesMain.auth .ok moderatorsState.db =
      .ok ⟨⟨1, "admin", false, ⟨"a.example", "/u/admin"⟩, true⟩, ⟨1, true⟩⟩ := by decide
  have hc : moderatorsState.db.community.find? adminRemovesMain.communityId = some mainCommunity := by
    decide
  have ha : ∃ u, getLocalUserViewFromJwtOpt none .ok moderatorsState.db = .ok u := ⟨none, rfl⟩
  ⟨by decide, hv, hc, ha,
    remove_applied_when_send_fails adminRemovesMain moderatorsState _ mainCommunity none .pool
      (by decide) hv rfl hc ha⟩

end Lemmy
