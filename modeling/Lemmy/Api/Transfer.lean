import Lemmy.Api.Community

namespace Lemmy

namespace TransferCommunity

def moderators (communityId : Nat) (db : Db) : List CommunityModerator :=
  db.communityModerator.rows.filter (·.communityId = communityId)

theorem forCommunity_eq (communityId : Nat) (db : Db) :
    CommunityModeratorView.forCommunity communityId db = .ok (moderators communityId db, db) :=
  rfl

theorem moderators_deleteForCommunity (communityId : Nat) (db : Db) :
    moderators communityId
      { db with communityModerator :=
          db.communityModerator.deleteWhere (·.communityId = communityId) } = [] := by
  simp [moderators, List.filter_filter]

def Reordered (personId : Nat) (old l : List CommunityModerator) : Prop :=
  ∃ pre m post, old = pre ++ m :: post ∧ m.personId = personId ∧
    (∀ x ∈ pre, x.personId ≠ personId) ∧ l = m :: (pre ++ post)

theorem Reordered.perm {pid : Nat} {old l : List CommunityModerator} (h : Reordered pid old l) :
    l.Perm old := by
  obtain ⟨pre, m, post, rfl, -, -, rfl⟩ := h
  exact List.perm_middle.symm

theorem Reordered.of_moveToFront {pid : Nat} {old l : List CommunityModerator}
    (h : moveToFront (·.personId = pid) old = some l) : Reordered pid old l := by
  obtain ⟨pre, m, post, rfl, hm, hpre, rfl⟩ := moveToFront_eq_some h
  exact ⟨pre, m, post, rfl, of_decide_eq_true hm, fun x hx => of_decide_eq_false (hpre x hx), rfl⟩

theorem keys_nodup_moderators (communityId : Nat) (db : Db) :
    ((moderators communityId db).map CommunityModerator.key).Nodup :=
  db.communityModerator.nodup.sublist ((List.filter_sublist _).map _)

theorem Reordered.keys_nodup {pid communityId : Nat} {db : Db} {l : List CommunityModerator}
    (h : Reordered pid (moderators communityId db) l) : (l.map CommunityModerator.key).Nodup :=
  (h.perm.map _).nodup_iff.2 (keys_nodup_moderators _ _)

theorem Reordered.communityId {pid communityId : Nat} {db : Db} {l : List CommunityModerator}
    (h : Reordered pid (moderators communityId db) l) {m : CommunityModerator} (hm : m ∈ l) :
    m.communityId = communityId :=
  of_decide_eq_true (List.mem_filter.1 (h.perm.subset hm)).2

theorem not_has_deleteForCommunity {communityId : Nat} {t : Table CommunityModerator.key}
    {m : CommunityModerator} (hm : m.communityId = communityId) :
    ¬ (t.deleteWhere (·.communityId = communityId)).Has m.key := by
  simp only [Table.has_iff, Table.deleteWhere_rows, List.mem_filter]
  rintro ⟨r, ⟨-, hr⟩, hk⟩
  simp [show r.communityId = communityId from (Prod.mk.inj hk).1.trans hm] at hr

variable (d : Data) (s₀ : State)

def CreatorIs (t : Table Community.id) : Prop :=
  ∃ c, t.find? d.communityId = some c ∧ c.creatorId = d.personId

def Final (s : State) : Prop :=
  CreatorIs d s.db.community ∧
    Reordered d.personId (moderators d.communityId s₀.db) (moderators d.communityId s.db)

def Updated : Table Community.id :=
  s₀.db.community.updateKey d.communityId ({ · with creatorId := d.personId }) (fun _ => rfl)

def Failed (s : State) : Prop :=
  s.db.communityModerator = s₀.db.communityModerator ∧
    (s.db.community = s₀.db.community ∨
      d.personId ∉ (moderators d.communityId s₀.db).map (·.personId) ∧
        s.db.community = Updated d s₀)

def Inv : Pc → State → Prop
  | .auth, s | .readCommunity _, s | .readSiteCreator _ _, s | .readAdmins _ _ _, s
  | .updateCreator _, s => s.db = s₀.db
  | .readMods _, s =>
    CreatorIs d s.db.community ∧ s.db.community = Updated d s₀ ∧
      s.db.communityModerator = s₀.db.communityModerator
  | .deleteMods _ l, s =>
    CreatorIs d s.db.community ∧ s.db.communityModerator = s₀.db.communityModerator ∧
      Reordered d.personId (moderators d.communityId s₀.db) l
  | .rejoin _ rest, s =>
    CreatorIs d s.db.community ∧ (∀ m ∈ rest, ¬ s.db.communityModerator.Has m.key) ∧ ∃ done,
      Reordered d.personId (moderators d.communityId s₀.db) (done ++ rest) ∧
        moderators d.communityId s.db = done
  | .modlog _, s | .readView, s | .readModerators, s | .done (.ok ()), s => Final d s₀ s
  | .done (.error _), s => Failed d s₀ s

variable {d s₀}

theorem failed_of_eq {s : State} (h : s.db = s₀.db) : Failed d s₀ s :=
  ⟨congrArg Db.communityModerator h, .inl (congrArg Db.community h)⟩

theorem inv_next : ∀ {pc : Pc} {s : State}, Inv d s₀ pc s →
    Inv d s₀ (next d pc .ok s).1 (next d pc .ok s).2
  | .auth, s, h | .readCommunity _, s, h | .readSiteCreator _ _, s, h
  | .readAdmins _ _ _, s, h => by
    simp only [next]
    repeat' split
    all_goals first | exact failed_of_eq h | exact h
  | .updateCreator _, s, h => by
    simp only [next]
    split
    · exact failed_of_eq h
    · exact failed_of_eq h
    · rename_i db hb
      have hq := (blocking_eq_ok_ok hb).2
      obtain ⟨c₀, hc⟩ := Community.find?_of_set_eq_ok hq
      rw [Community.set_eq_ok hq, show s.db = s₀.db from h] at hc ⊢
      exact ⟨⟨_, hc, rfl⟩, rfl, rfl⟩
  | .readMods _, s, h => by
    obtain ⟨hc, hu, hmods⟩ := h
    have hm : moderators d.communityId s.db = moderators d.communityId s₀.db := by
      simp only [moderators, hmods]
    simp only [next, blockingTry, blocking, CommunityModeratorView.forCommunity]
    split
    · rename_i hl
      refine ⟨hmods, .inr ⟨fun hp => ?_, hu⟩⟩
      obtain ⟨m, hmem, hmp⟩ := List.mem_map.1 hp
      rw [← hm] at hmem
      simpa [hmp] using moveToFront_eq_none hl m hmem
    · exact ⟨hc, hmods, hm ▸ Reordered.of_moveToFront ‹_›⟩
  | .deleteMods _ _, _, h => by
    obtain ⟨hc, -, hr⟩ := h
    exact ⟨hc, fun _ hm => not_has_deleteForCommunity (hr.communityId hm), [], hr,
      moderators_deleteForCommunity _ _⟩
  | .rejoin _ [], _, h => by
    obtain ⟨hc, -, done, hr, hm⟩ := h
    rw [List.append_nil] at hr
    exact ⟨hc, hm ▸ hr⟩
  | .rejoin _ (m :: ms), s, h => by
    obtain ⟨hc, hnot, done, hr, hm⟩ := h
    obtain ⟨t, ht, hj⟩ := CommunityModerator.join_eq_ok_of_not_has (hnot m (.head _))
    have hnd : m.key ∉ ms.map CommunityModerator.key := by
      have := hr.keys_nodup
      simp only [List.map_append, List.map_cons, List.nodup_append, List.nodup_cons] at this
      exact this.2.1.1
    have hrows := (Table.insert_eq_some ht).2
    simp only [next, blocking, hj]
    refine ⟨hc, fun m' hm' => ?_, done ++ [m], by simpa using hr, ?_⟩
    · simp only [Table.has_iff, hrows, List.mem_append, List.mem_singleton]
      rintro ⟨r, hr' | rfl, hk⟩
      · exact hnot m' (.tail _ hm') ((Table.has_iff _ _).2 ⟨r, hr', hk⟩)
      · exact hnd (hk ▸ List.mem_map_of_mem _ hm')
    · simp [moderators, hrows, hr.communityId (by simp : m ∈ _), ← hm]
  | .modlog _, _, h => h
  | .readView, s, h => by
    obtain ⟨c, hc, -⟩ := h.1
    simp only [next, blocking, Community.read, Db.found, hc]
    exact h
  | .readModerators, _, h => h
  | .done (.ok ()), _, h | .done (.error _), _, h => h

theorem inv_solo (n : Nat) :
    Inv d s₀ (solo (next d) .auth s₀ (List.replicate n .ok)).1
      (solo (next d) .auth s₀ (List.replicate n .ok)).2 :=
  @solo_inv _ _ (Inv d s₀) (· = .ok) (fun _ _ _ hf h => by subst hf; exact inv_next h) _ _ _
    (fun _ hf => List.eq_of_mem_replicate hf) rfl

variable (d)

theorem transfer_community_reorders_moderators (s s' : State) (n : Nat)
    (h : solo (next d) .auth s (List.replicate n .ok) = (.done (.ok ()), s')) :
    (∃ c, s'.db.community.find? d.communityId = some c ∧ c.creatorId = d.personId) ∧
      ∃ pre m post,
        CommunityModeratorView.forCommunity d.communityId s.db = .ok (pre ++ m :: post, s.db) ∧
        m.personId = d.personId ∧ (∀ x ∈ pre, x.personId ≠ d.personId) ∧
        CommunityModeratorView.forCommunity d.communityId s'.db = .ok (m :: (pre ++ post), s'.db) := by
  have hI := @inv_solo d s n
  rw [h] at hI
  obtain ⟨hc, pre, m, post, hold, hm, hpre, hnew⟩ := hI
  exact ⟨hc, pre, m, post, by rw [forCommunity_eq, hold], hm, hpre, by rw [forCommunity_eq, hnew]⟩

theorem transfer_community_failure_keeps_moderators (s s' : State) (n : Nat) (e : LemmyError)
    (h : solo (next d) .auth s (List.replicate n .ok) = (.done (.error e), s')) :
    s'.db.communityModerator = s.db.communityModerator ∧
      (s'.db.community = s.db.community ∨
        d.personId ∉ (moderators d.communityId s.db).map (·.personId) ∧
          s'.db.community = s.db.community.updateKey d.communityId
            ({ · with creatorId := d.personId }) (fun _ => rfl)) := by
  have hI := @inv_solo d s n
  rw [h] at hI
  exact hI

end TransferCommunity

def mainCommunity : Community :=
  ⟨1, "main", "Main", none, 2, false, false, false, ⟨"a.example", "/c/main"⟩, true, none, none⟩

def moderatorsState : State :=
  ⟨{ person := ⟨[⟨1, "admin", false, ⟨"a.example", "/u/admin"⟩, true⟩,
        ⟨2, "carol", false, ⟨"a.example", "/u/carol"⟩, true⟩,
        ⟨3, "dave", false, ⟨"a.example", "/u/dave"⟩, true⟩,
        ⟨4, "erin", false, ⟨"a.example", "/u/erin"⟩, true⟩], by decide⟩,
     localUser := ⟨[⟨1, true⟩, ⟨2, false⟩, ⟨3, false⟩, ⟨4, false⟩], by decide⟩,
     community := ⟨[mainCommunity], by decide⟩, communityFollower := Table.empty,
     communityModerator := ⟨[⟨1, 2⟩, ⟨1, 3⟩], by decide⟩, communityPersonBan := Table.empty,
     site := ⟨[⟨1, "Site", none, 1, true, true, true, none, none⟩], by decide⟩,
     activity := Table.empty, post := Table.empty, comment := Table.empty, modlog := [] }, [], []⟩

def transferToDave : TransferCommunity.Data := ⟨1, 3, 2⟩

def transferToErin : TransferCommunity.Data := ⟨1, 4, 2⟩

def transferAlone (d : TransferCommunity.Data) (faults : List Fault) : TransferCommunity.Pc × State :=
  solo (TransferCommunity.next d) .auth moderatorsState faults

theorem transfer_to_dave_moves_dave_first :
    transferAlone transferToDave (List.replicate 13 .ok) =
        (.done (.ok ()), (transferAlone transferToDave (List.replicate 13 .ok)).2) ∧
      (∃ c, (transferAlone transferToDave (List.replicate 13 .ok)).2.db.community.find? 1 = some c ∧
          c.creatorId = 3) ∧
      ∃ pre m post,
        CommunityModeratorView.forCommunity 1 moderatorsState.db =
          .ok (pre ++ m :: post, moderatorsState.db) ∧
        m.personId = 3 ∧ (∀ x ∈ pre, x.personId ≠ 3) ∧
        CommunityModeratorView.forCommunity 1
            (transferAlone transferToDave (List.replicate 13 .ok)).2.db =
          .ok (m :: (pre ++ post), (transferAlone transferToDave (List.replicate 13 .ok)).2.db) :=
  have h : transferAlone transferToDave (List.replicate 13 .ok) =
      (.done (.ok ()), (transferAlone transferToDave (List.replicate 13 .ok)).2) :=
    Prod.ext (by decide) rfl
  ⟨h, TransferCommunity.transfer_community_reorders_moderators transferToDave _ _ 13 h⟩

theorem transfer_to_erin_keeps_moderators :
    transferAlone transferToErin (List.replicate 12 .ok) =
        (.done (.error .context), (transferAlone transferToErin (List.replicate 12 .ok)).2) ∧
      (transferAlone transferToErin (List.replicate 12 .ok)).2.db.communityModerator =
          moderatorsState.db.communityModerator ∧
        ((transferAlone transferToErin (List.replicate 12 .ok)).2.db.community =
            moderatorsState.db.community ∨
          transferToErin.personId ∉
              (TransferCommunity.moderators transferToErin.communityId moderatorsState.db).map
                (·.personId) ∧
            (transferAlone transferToErin (List.replicate 12 .ok)).2.db.community =
              moderatorsState.db.community.updateKey transferToErin.communityId
                ({ · with creatorId := transferToErin.personId }) (fun _ => rfl)) :=
  have h : transferAlone transferToErin (List.replicate 12 .ok) =
      (.done (.error .context), (transferAlone transferToErin (List.replicate 12 .ok)).2) :=
    Prod.ext (by decide) rfl
  ⟨h, TransferCommunity.transfer_community_failure_keeps_moderators transferToErin _ _ 12 _ h⟩

/-- A transfer to Erin sets her as creator and then fails, finding no moderator row of hers; a
transfer to Dave whose second `join` fails leaves Carol out of the moderators. -/
theorem transfer_community_not_atomic :
    mainCommunity.creatorId = 2 ∧
      TransferCommunity.moderators 1 moderatorsState.db = [⟨1, 2⟩, ⟨1, 3⟩] ∧
      (transferAlone transferToErin (List.replicate 12 .ok)).1 = .done (.error .context) ∧
      ((transferAlone transferToErin (List.replicate 12 .ok)).2.db.community.find? 1).map
        (·.creatorId) = some 4 ∧
      TransferCommunity.moderators 1 (transferAlone transferToErin (List.replicate 12 .ok)).2.db =
        [⟨1, 2⟩, ⟨1, 3⟩] ∧
      (transferAlone transferToDave (List.replicate 8 .ok ++ [.query])).1 =
        .done (.error (.api "community_moderator_already_exists")) ∧
      TransferCommunity.moderators 1
        (transferAlone transferToDave (List.replicate 8 .ok ++ [.query])).2.db = [⟨1, 3⟩] := by
  decide

end Lemmy
