import Lemmy.Apub.Status
import Lemmy.Api.Transfer

namespace Lemmy

@[simp] theorem Community.eraseStatus_isLocal (c : Community) :
    c.eraseStatus.isLocal = c.isLocal := rfl

theorem Community.read_commutes (id : Nat) :
    Db.Commutes Community.eraseStatus (Community.read id) := fun db => by
  simp only [Community.read, Table.find?, Db.eraseStatus, Table.modify, List.find?_map]
  exact Db.found_eraseStatus _ db

theorem getLocalUserViewFromJwt_eraseStatus (auth : Nat) (f : Fault) (db : Db) :
    getLocalUserViewFromJwt auth f db.eraseStatus = getLocalUserViewFromJwt auth f db := by
  have h : Db.Commutes (fun v => v) (LocalUserView.read auth) := fun db =>
    Db.found_eraseStatus_self _ db
  simp only [getLocalUserViewFromJwt, blockingTry_eraseStatus h]
  rcases blockingTry f (LocalUserView.read auth) db with e | ⟨v, _⟩ <;> rfl

theorem checkCommunityBan_eraseStatus (personId communityId : Nat) (f : Fault) (db : Db) :
    checkCommunityBan personId communityId f db.eraseStatus =
      checkCommunityBan personId communityId f db := by
  simp only [checkCommunityBan, communityBanLookup,
    blocking_eraseStatus (CommunityPersonBanView.get_commutes personId communityId)]
  rcases blocking f (CommunityPersonBanView.get personId communityId) db with e | ⟨_ | _, _⟩ <;> rfl

namespace FollowCommunity

def Pc.eraseStatus : Pc → Pc
  | .auth => .auth
  | .readCommunity v => .readCommunity v
  | .checkBan v => .checkBan v
  | .follow v => .follow v
  | .unfollow v => .unfollow v
  | .sendFollow v c => .sendFollow v c.eraseStatus
  | .sendUnfollow v c => .sendUnfollow v c.eraseStatus
  | .readView => .readView
  | .done r => .done r

theorem next_eraseStatus (d : Data) (pc : Pc) (f : Fault) (s : State) :
    next d pc.eraseStatus f s.eraseStatus =
      ((next d pc f s).1.eraseStatus, (next d pc f s).2.eraseStatus) := by
  cases pc
  all_goals conv_lhs => dsimp only [Pc.eraseStatus]
  case auth =>
    simp only [next, State.eraseStatus, getLocalUserViewFromJwt_eraseStatus]
    split <;> rfl
  case readCommunity v =>
    simp only [next, State.eraseStatus, blockingTry_eraseStatus (Community.read_commutes _)]
    rcases blockingTry f (Community.read d.communityId) s.db with e | ⟨c, db⟩
    · rfl
    · by_cases hl : c.isLocal <;> by_cases hf : d.follow <;>
        simp [Db.eraseAnswer, hl, hf, Pc.eraseStatus]
  case checkBan v =>
    simp only [next, State.eraseStatus, checkCommunityBan_eraseStatus]
    split <;> rfl
  case follow v =>
    simp only [next, State.eraseStatus, blocking_eraseStatus (CommunityFollower.follow_commutes _)]
    rcases blocking f (CommunityFollower.follow ⟨d.communityId, v.person.id, false⟩) s.db with
      e | ⟨_ | _, db⟩ <;> rfl
  case unfollow v =>
    simp only [next, State.eraseStatus,
      blocking_eraseStatus (CommunityFollower.unfollow_commutes _)]
    rcases blocking f (CommunityFollower.unfollow ⟨d.communityId, v.person.id, false⟩) s.db with
      e | ⟨_ | _, db⟩ <;> rfl
  case sendFollow v c | sendUnfollow v c =>
    by_cases hf : f = .ok <;> simp [next, hf, Pc.eraseStatus]
  case readView =>
    simp only [next, State.eraseStatus, blockingTry_eraseStatus (Community.read_commutes _)]
    rcases blockingTry f (Community.read d.communityId) s.db with e | ⟨c, db⟩ <;> rfl
  case done r => rfl

theorem next_community (d : Data) (pc : Pc) (f : Fault) (s : State) :
    (next d pc f s).2.db.community = s.db.community := by
  cases pc <;> simp only [next] <;> (repeat' split) <;> try rfl
  · obtain ⟨-, hq⟩ := blocking_eq_ok_ok ‹_›
    rw [CommunityFollower.follow_db hq]
  · obtain ⟨-, hq⟩ := blocking_eq_ok_ok ‹_›
    cases hq
    rfl

end FollowCommunity

/-- `FollowCommunity` never reads the community's `removed` or `deleted` flag: run alone, its
calls behaving alike, from two stores that differ in those flags only, it reaches the same point
up to the flags of the community it holds and leaves stores that differ in them only; and it
writes no community, so the flags stay as they were. -/
theorem follow_ignores_community_status (d : FollowCommunity.Data) (s s' : State)
    (h : s'.eraseStatus = s.eraseStatus) (fs : List Fault) :
    (solo (FollowCommunity.next d) .auth s' fs).1.eraseStatus =
        (solo (FollowCommunity.next d) .auth s fs).1.eraseStatus ∧
      (solo (FollowCommunity.next d) .auth s' fs).2.eraseStatus =
        (solo (FollowCommunity.next d) .auth s fs).2.eraseStatus ∧
      (solo (FollowCommunity.next d) .auth s' fs).2.db.community = s'.db.community := by
  have hmap := fun t : State =>
    solo_map (FollowCommunity.next_eraseStatus d) fs FollowCommunity.Pc.auth t
  have heq := (hmap s').symm.trans (h ▸ hmap s)
  exact ⟨congrArg Prod.fst heq, congrArg Prod.snd heq,
    solo_inv (fun _ t => t.db.community = s'.db.community) (F := fun _ => True)
      (fun p t f _ ht => (FollowCommunity.next_community d p f t).trans ht)
      (fun _ _ => trivial) rfl⟩

def deletedMainState : State :=
  { moderatorsState with
    db := { moderatorsState.db with
      community := moderatorsState.db.community.modify
        (fun c => { c with removed := true, deleted := true }) fun _ => rfl } }

theorem erin_follows_deleted_main :
    deletedMainState.eraseStatus = moderatorsState.eraseStatus ∧
      (solo (FollowCommunity.next ⟨1, true, 4⟩) .auth deletedMainState
        (List.replicate 5 .ok)).1 = .done (.ok ()) ∧
      (solo (FollowCommunity.next ⟨1, true, 4⟩) .auth deletedMainState
        (List.replicate 5 .ok)).2.db.communityFollower.Has (1, 4) ∧
      (solo (FollowCommunity.next ⟨1, true, 4⟩) .auth deletedMainState
          (List.replicate 5 .ok)).1.eraseStatus =
        (solo (FollowCommunity.next ⟨1, true, 4⟩) .auth moderatorsState
          (List.replicate 5 .ok)).1.eraseStatus ∧
      (solo (FollowCommunity.next ⟨1, true, 4⟩) .auth deletedMainState
          (List.replicate 5 .ok)).2.eraseStatus =
        (solo (FollowCommunity.next ⟨1, true, 4⟩) .auth moderatorsState
          (List.replicate 5 .ok)).2.eraseStatus ∧
      (solo (FollowCommunity.next ⟨1, true, 4⟩) .auth deletedMainState
          (List.replicate 5 .ok)).2.db.community = deletedMainState.db.community :=
  have h : deletedMainState.eraseStatus = moderatorsState.eraseStatus := rfl
  ⟨h, by decide, by decide,
    follow_ignores_community_status ⟨1, true, 4⟩ moderatorsState deletedMainState h _⟩

end Lemmy
