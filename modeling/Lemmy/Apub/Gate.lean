import Lemmy.Apub.Outcome

namespace Lemmy.CommunityInbox

def aliceBannedState : State :=
  { scenarioState with
    db := { scenarioDb with communityPersonBan := ⟨[⟨tech.id, alice.id⟩], by decide⟩ } }

def aliceFollowingState : State :=
  { scenarioState with
    db := { scenarioDb with communityFollower := ⟨[⟨tech.id, alice.id, some false⟩], by decide⟩ } }

def aliceUndoesFollow : Activity :=
  { id := some ⟨"b.example", "/activities/undo/1"⟩, kind := some .undo, actor := alice.actorId,
    to_ := [tech.actorId], cc := [],
    object := [.node (some "Follow") aliceFollowsTech.id (some alice.actorId) [tech.actorId]] }

/-- The follower writes fail with a storage error other than a uniqueness violation (or, for
the unfollow, not-found): the Follow is still accepted with no follower row, and the
Undo(Follow) answered `Ok` with the row left in place. -/
theorem follower_write_errors_swallowed :
    let env : Pc → Fault := fun pc => match pc with
      | .follow .. | .unfollow .. => .query
      | _ => .ok
    let r := deliver scenarioSettings aliceFollowsTech "tech" env scenarioState
    let u := deliver scenarioSettings aliceUndoesFollow "tech" env aliceFollowingState
    r.1 = .done (.ok ()) ∧ r.2.sent = [.acceptFollow tech.id aliceFollowsTech] ∧
      ¬ r.2.db.communityFollower.Has (tech.id, alice.id) ∧
    u.1 = .done (.ok ()) ∧ u.2.db.communityFollower.Has (tech.id, alice.id) := by
  decide

def aliceFollowsOther : Activity :=
  { id := some ⟨"b.example", "/activities/follow/2"⟩, kind := some .follow, actor := alice.actorId,
    to_ := [tech.actorId], cc := [], object := [.link ⟨"a.example", "/c/other"⟩] }

def aliceUndoesBobsFollow : Activity :=
  { id := some ⟨"b.example", "/activities/undo/2"⟩, kind := some .undo, actor := alice.actorId,
    to_ := [tech.actorId], cc := [],
    object := [.node (some "Follow") (some ⟨"b.example", "/activities/follow/3"⟩)
      (some ⟨"c.example", "/u/bob"⟩) [⟨"a.example", "/c/other"⟩]] }

/-- Delivered to tech's inbox, the Follow of another community makes Alice a follower of tech
and is accepted; the Undo of Bob's Follow of another community removes Alice's follow. -/
theorem follow_of_other_community_accepted :
    (deliver scenarioSettings aliceFollowsOther "tech" (fun _ => .ok) scenarioState).1 =
        .done (.ok ()) ∧
      (deliver scenarioSettings aliceFollowsOther "tech" (fun _ => .ok)
        scenarioState).2.db.communityFollower.rows = [⟨tech.id, alice.id, some false⟩] ∧
      (deliver scenarioSettings aliceFollowsOther "tech" (fun _ => .ok) scenarioState).2.sent =
        [.acceptFollow tech.id aliceFollowsOther] ∧
      (deliver scenarioSettings aliceUndoesBobsFollow "tech" (fun _ => .ok)
        aliceFollowingState).1 = .done (.ok ()) ∧
      (deliver scenarioSettings aliceUndoesBobsFollow "tech" (fun _ => .ok)
        aliceFollowingState).2.db.communityFollower.rows = [] := by
  decide

end Lemmy.CommunityInbox
