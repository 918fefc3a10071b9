import Lemmy.Api.Transfer

namespace Lemmy

namespace BanFromCommunity

variable (d : Data)

def PostsRemoved (db : Db) : Prop :=
  ∀ p ∈ db.post.rows, p.creatorId = d.personId → p.communityId = d.communityId → p.removed = true

def CommentsRemovedBut (ids : List Nat) (db : Db) : Prop :=
  ∀ c ∈ db.comment.rows, c.creatorId = d.personId → c.inCommunity db d.communityId →
    c.removed = true ∨ c.id ∈ ids

def Inv : Pc → State → Prop
  | .listComments _, s => PostsRemoved d s.db
  | .removeComments _ cs, s => PostsRemoved d s.db ∧ CommentsRemovedBut d (cs.map (·.id)) s.db
  | .modlog _, s | .readPerson, s => PostsRemoved d s.db ∧ CommentsRemovedBut d [] s.db
  | .done r, s => r = .ok () → PostsRemoved d s.db ∧ CommentsRemovedBut d [] s.db
  | _, _ => True

variable {d}

theorem inv_done_error (e : LemmyError) (s : State) : Inv d (.done (.error e)) s := nofun

theorem postsRemoved_of_update {db db' : Db} {u : Unit}
    (h : Post.updateRemovedForCreator d.personId (some d.communityId) true db = .ok (u, db')) :
    PostsRemoved d db' := by
  cases h
  intro p hp hc hk
  obtain ⟨q, -, rfl⟩ := List.mem_map.1 hp
  split_ifs at hc hk ⊢ with hq
  · rfl
  · simp [hc, hk] at hq

theorem commentsRemovedBut_of_update {c c' : Comment} {ids : List Nat} {db db' : Db}
    (h : Comment.updateRemoved c.id true db = .ok (c', db'))
    (hc : CommentsRemovedBut d (c.id :: ids) db) : CommentsRemovedBut d ids db' := by
  unfold Comment.updateRemoved at h
  split at h
  · cases h
    intro x hx hxc hxk
    obtain ⟨y, hy, rfl⟩ := List.mem_map.1 hx
    by_cases hyc : y.id = c.id
    · simp [hyc]
    · simp only [hyc, if_false] at hxc hxk ⊢
      exact (hc y hy hxc hxk).imp_right fun h => (List.mem_cons.1 h).resolve_left hyc
  · cases h

theorem inv_next (hd : d.removeData = true) : ∀ {pc : Pc} {s : State}, Inv d pc s →
    Inv d (next d pc .ok s).1 (next d pc .ok s).2
  | .auth, s, _ | .checkMod _, s, _ | .ban _, s, _ | .unfollow _, s, _ | .unban _, s, _ => by
    simp only [next, afterBan, hd, if_true]
    repeat' split
    all_goals first | exact inv_done_error _ _ | trivial
  | .removePosts _, _, _ => postsRemoved_of_update rfl
  | .listComments _, _, hinv => ⟨hinv, fun _ hc hcr hck =>
      .inr (List.mem_map_of_mem _ (List.mem_filter.2 ⟨hc, decide_eq_true ⟨hcr, hck⟩⟩))⟩
  | .removeComments v [], s, hinv => hinv
  | .removeComments v (c :: cs), s, hinv => by
    simp only [next]
    split
    · exact inv_done_error _ _
    · rename_i db h
      have h := (blockingTry_eq_ok h).2
      refine ⟨?_, commentsRemovedBut_of_update h hinv.2⟩
      rw [Comment.updateRemoved_db h]
      exact hinv.1
  | .modlog _, _, hinv => hinv
  | .readPerson, s, hinv => by
    simp only [next]
    split
    · exact inv_done_error _ _
    · exact fun _ => hinv
  | .done r, s, hinv => hinv

variable (d)

theorem ban_remove_data_marks_removed (hd : d.removeData = true) (s s' : State) (n : Nat)
    (h : solo (next d) .auth s (List.replicate n .ok) = (.done (.ok ()), s')) :
    (∀ p ∈ s'.db.post.rows, p.creatorId = d.personId → p.communityId = d.communityId →
        p.removed = true) ∧
      ∀ c ∈ s'.db.comment.rows, c.creatorId = d.personId → c.inCommunity s'.db d.communityId →
        c.removed = true := by
  have hI := @solo_inv _ _ (Inv d) (· = .ok)
    (fun _ _ _ hf h => by subst hf; exact inv_next hd h) (List.replicate n .ok) .auth s
    (fun _ hf => List.eq_of_mem_replicate hf) trivial
  rw [h] at hI
  obtain ⟨hp, hc⟩ := hI rfl
  exact ⟨hp, fun c hm hcr hck => (hc c hm hcr hck).resolve_right (List.not_mem_nil _)⟩

end BanFromCommunity

def erinPost : Post :=
  { id := 1, name := "Hello", url := none, body := none, creatorId := 4, communityId := 1,
    removed := false, locked := false, published := ⟨0⟩, updated := none, deleted := false,
    nsfw := false, stickied := false, thumbnailUrl := none, apId := ⟨"a.example", "/post/1"⟩,
    isLocal := true }

def erinPostsState : State :=
  { moderatorsState with
    db := { moderatorsState.db with
      post := ⟨[erinPost], by decide⟩, comment := ⟨[⟨1, 4, 1, false⟩], by decide⟩ } }

def banErinRemovingData : BanFromCommunity.Data := ⟨1, 4, true, true, 2⟩

def unbanErinRestoringData : BanFromCommunity.Data := ⟨1, 4, false, true, 2⟩

def banAlone (d : BanFromCommunity.Data) (s : State) : BanFromCommunity.Pc × State :=
  solo (BanFromCommunity.next d) .auth s (List.replicate 12 .ok)

theorem ban_erin_removes_her_data :
    banErinRemovingData.removeData = true ∧
      banAlone banErinRemovingData erinPostsState =
        (.done (.ok ()), (banAlone banErinRemovingData erinPostsState).2) ∧
      (∀ p ∈ (banAlone banErinRemovingData erinPostsState).2.db.post.rows,
          p.creatorId = banErinRemovingData.personId →
          p.communityId = banErinRemovingData.communityId → p.removed = true) ∧
      ∀ c ∈ (banAlone banErinRemovingData erinPostsState).2.db.comment.rows,
        c.creatorId = banErinRemovingData.personId →
        c.inCommunity (banAlone banErinRemovingData erinPostsState).2.db
          banErinRemovingData.communityId → c.removed = true :=
  have h : banAlone banErinRemovingData erinPostsState =
      (.done (.ok ()), (banAlone banErinRemovingData erinPostsState).2) :=
    Prod.ext (by decide) rfl
  ⟨rfl, h, BanFromCommunity.ban_remove_data_marks_removed _ rfl _ _ 12 h⟩

/-- The unban with `remove_data` answers `Ok` and leaves Erin's post and comment removed. -/
theorem unban_keeps_data_removed :
    (banAlone banErinRemovingData erinPostsState).1 = .done (.ok ()) ∧
      (banAlone unbanErinRestoringData (banAlone banErinRemovingData erinPostsState).2).1 =
        .done (.ok ()) ∧
      ¬ (banAlone unbanErinRestoringData
          (banAlone banErinRemovingData erinPostsState).2).2.db.communityPersonBan.Has (1, 4) ∧
      (banAlone unbanErinRestoringData
          (banAlone banErinRemovingData erinPostsState).2).2.db.post.rows.map (·.removed) =
        [true] ∧
      (banAlone unbanErinRestoringData
          (banAlone banErinRemovingData erinPostsState).2).2.db.comment.rows.map (·.removed) =
        [true] := by
  decide

end Lemmy
