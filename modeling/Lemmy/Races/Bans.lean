import Lemmy.Races.Edits
import Lemmy.Apub.InboxSteps

namespace Lemmy

theorem communityBanLookup_eq_ok {e : LemmyError} {personId communityId : Nat} {f : Fault}
    {db : Db} (h : communityBanLookup e personId communityId f db = .ok ()) (hf : f ≠ .query) :
    ¬ db.communityPersonBan.Has (communityId, personId) := by
  cases f with
  | pool => cases h
  | query => exact absurd rfl hf
  | ok =>
    cases hb : db.communityPersonBan.find? (communityId, personId) with
    | none => exact Table.find?_eq_none_iff.1 hb
    | some b =>
      simp [communityBanLookup, blocking, CommunityPersonBanView.get, Db.found, hb, Except.isOk,
        Except.toBool] at h

def BanEffect (ins win : Option (Nat × Nat)) (check : Bool) (owes : Option (Nat × Nat))
    (owes' win' : Option (Nat × Nat)) (f : Fault) (s s' : State) : Prop :=
  (∀ k, s'.db.communityPersonBan.Has k → s.db.communityPersonBan.Has k ∨ (ins = some k ∧ owes' = some k)) ∧
    (∀ k, s'.db.communityFollower.Has k → s.db.communityFollower.Has k ∨ win = some k) ∧
    (∀ k, win' = some k → check ∧ (f ≠ .query → ¬ s.db.communityPersonBan.Has k)) ∧
    (∀ k, owes = some k → f = .ok → ¬ s'.db.communityFollower.Has k)

theorem BanEffect.keep {ins win owes owes' : Option (Nat × Nat)} {check : Bool} {f : Fault}
    {s s' : State} (hb : s'.db.communityPersonBan = s.db.communityPersonBan)
    (hf : s'.db.communityFollower = s.db.communityFollower) (howes : owes = none) :
    BanEffect ins win check owes owes' none f s s' :=
  ⟨fun _ h => .inl (hb ▸ h), fun _ h => .inl (hf ▸ h), nofun, fun _ h => nomatch howes ▸ h⟩

namespace FollowCommunity

def Pc.window (d : Data) : Pc → Option (Nat × Nat)
  | .follow v => some (d.communityId, v.person.id)
  | _ => none

def Pc.checksBan : Pc → Bool
  | .checkBan _ => true
  | _ => false

theorem next_banEffect (d : Data) (pc : Pc) (f : Fault) (s : State) :
    BanEffect none (pc.window d) pc.checksBan none none ((next d pc f s).1.window d) f s
      (next d pc f s).2 := by
  cases pc with
  | checkBan v =>
    simp only [next]
    split
    · exact .keep rfl rfl rfl
    · rename_i h
      refine ⟨fun _ h => .inl h, fun _ h => .inl h, ?_, nofun⟩
      rintro k ⟨⟩
      exact ⟨rfl, communityBanLookup_eq_ok h⟩
  | follow v =>
    simp only [next]
    split
    · exact .keep rfl rfl rfl
    · exact .keep rfl rfl rfl
    · rename_i db h
      have h := (blocking_eq_ok_ok h).2
      have hrows := CommunityFollower.follow_eq_ok h
      rw [CommunityFollower.follow_db h]
      refine ⟨fun _ h => .inl h, fun k hk => ?_, nofun, nofun⟩
      simp only [Table.Has, hrows, List.map_append, List.mem_append, List.map_cons, List.map_nil,
        List.mem_singleton] at hk
      exact hk.imp_right fun h => by rw [h]; rfl
  | unfollow v =>
    simp only [next]
    split
    · exact .keep rfl rfl rfl
    · exact .keep rfl rfl rfl
    · rename_i db h
      cases (blocking_eq_ok_ok h).2
      exact ⟨fun _ h => .inl h, fun _ h => .inl (Table.has_of_has_deleteWhere h), nofun, nofun⟩
  | _ => simp only [next]; (repeat' split) <;> exact .keep rfl rfl rfl

end FollowCommunity

namespace CommunityInbox

def Pc.window : Pc → Option (Nat × Nat)
  | .follow p c => some (c.id, p.id)
  | _ => none

def Pc.checksBan : Pc → Bool
  | .checkBan .. => true
  | _ => false

theorem has_of_followed {f : Fault} {row : CommunityFollower} {t : Table CommunityFollower.key}
    {k : Nat × Nat} (h : (followed f row t).Has k) : t.Has k ∨ k = row.key := by
  unfold followed at h
  split at h
  · exact Table.has_of_has_insert_getD h
  · exact .inl h

theorem has_of_unfollowed {f : Fault} {k k' : Nat × Nat} {t : Table CommunityFollower.key}
    (h : (unfollowed f k' t).Has k) : t.Has k := by
  unfold unfollowed at h
  split at h
  · exact Table.has_of_has_deleteWhere h
  · exact h

theorem window_dispatch {a : Activity} {actor : Url} {p : Person} {c : Community} {k : Nat × Nat}
    (h : (dispatch a actor p c).window = some k) : k = (c.id, p.id) := by
  rcases @dispatch_cases a actor p c with hd | hd | ⟨_, hd⟩ | ⟨_, hd⟩ <;> rw [hd] at h <;> cases h
  rfl

theorem Moves.banEffect {cfg : Settings} {a : Activity} {path : String} {pc pc' : Pc} {f : Fault}
    {s s' : State} (h : Moves cfg a path pc f s pc' s') :
    BanEffect none pc.window pc.checksBan none none pc'.window f s s' := by
  cases h with
  | notBanned _ hpool hban =>
    refine ⟨fun _ h => .inl h, fun _ h => .inl h, fun k hk => ⟨rfl, fun hq => ?_⟩, nofun⟩
    rw [window_dispatch hk]
    exact hban (by cases f <;> simp_all)
  | follow =>
    exact ⟨fun _ h => .inl h, fun _ h => (has_of_followed h).imp_right fun h => by rw [h]; rfl,
      nofun, nofun⟩
  | unfollow =>
    exact ⟨fun _ h => .inl h, fun _ h => .inl (has_of_unfollowed h), nofun, nofun⟩
  | resolved hr =>
    have hd := (resolveActor_persisted hr).db_eq
    exact .keep (congrArg Db.communityPersonBan hd :) (congrArg Db.communityFollower hd :) rfl
  | _ => exact .keep rfl rfl rfl

end CommunityInbox

namespace BanFromCommunity

def Pc.insertsBan (d : Data) : Pc → Option (Nat × Nat)
  | .ban _ => some (d.communityId, d.personId)
  | _ => none

def Pc.owesUnfollow (d : Data) : Pc → Option (Nat × Nat)
  | .unfollow _ => some (d.communityId, d.personId)
  | _ => none

theorem next_banEffect (d : Data) (pc : Pc) (f : Fault) (s : State) :
    BanEffect (pc.insertsBan d) none false (pc.owesUnfollow d) ((next d pc f s).1.owesUnfollow d)
      none f s (next d pc f s).2 := by
  cases pc with
  | ban v =>
    simp only [next]
    split
    · exact .keep rfl rfl rfl
    · exact .keep rfl rfl rfl
    · rename_i db h
      have h := (blocking_eq_ok_ok h).2
      unfold CommunityPersonBan.ban at h
      split at h
      · rename_i t ht
        cases h
        refine ⟨fun k hk => ?_, fun _ h => .inl h, nofun, nofun⟩
        simp only [Table.Has, (Table.insert_eq_some ht).2, List.map_append, List.mem_append,
          List.map_cons, List.map_nil, List.mem_singleton] at hk
        exact hk.imp_right fun h => by rw [h]; exact ⟨rfl, rfl⟩
      · cases h
  | unfollow v =>
    cases f with
    | ok =>
      simp only [next, blocking, CommunityFollower.unfollow]
      refine ⟨fun _ h => .inl h, fun _ h => .inl (Table.has_of_has_deleteWhere h), nofun, ?_⟩
      rintro k ⟨⟩ -
      exact Table.not_has_deleteWhere _ _
    | pool => exact ⟨fun _ h => .inl h, fun _ h => .inl h, nofun, fun _ _ => nofun⟩
    | query => exact ⟨fun _ h => .inl h, fun _ h => .inl h, nofun, fun _ _ => nofun⟩
  | unban v =>
    simp only [next]
    split
    · exact .keep rfl rfl rfl
    · exact .keep rfl rfl rfl
    · rename_i db h
      cases (blocking_eq_ok_ok h).2
      exact ⟨fun _ h => .inl (Table.has_of_has_deleteWhere h), fun _ h => .inl h, nofun, nofun⟩
  | removePosts v =>
    simp only [next]
    split
    · exact .keep rfl rfl rfl
    · rename_i db h
      obtain ⟨-, h⟩ := blockingTry_eq_ok h
      cases h
      exact .keep rfl rfl rfl
  | removeComments v cs =>
    cases cs with
    | nil => exact .keep rfl rfl rfl
    | cons c cs =>
      simp only [next]
      split
      · exact .keep rfl rfl rfl
      · rename_i db h
        rw [Comment.updateRemoved_db (blockingTry_eq_ok h).2]
        exact .keep rfl rfl rfl
  | modlog v =>
    simp only [next]
    split
    · exact .keep rfl rfl rfl
    · rename_i db h
      obtain rfl := ModlogEntry.create_db (blockingTry_eq_ok h).2
      exact .keep rfl rfl rfl
  | _ => simp only [next]; (repeat' split) <;> exact .keep rfl rfl rfl

end BanFromCommunity

namespace Request

def racesBan : Request → Bool
  | .delivery _ | .followCommunity .. | .banFromCommunity .. => true
  | _ => false

def followWindow : Request → Option (Nat × Nat)
  | .delivery d => d.pc.window
  | .followCommunity d pc => pc.window d
  | _ => none

def checksBan : Request → Bool
  | .delivery d => d.pc.checksBan
  | .followCommunity _ pc => pc.checksBan
  | _ => false

def insertsBan : Request → Option (Nat × Nat)
  | .banFromCommunity d pc => pc.insertsBan d
  | _ => none

def owesUnfollow : Request → Option (Nat × Nat)
  | .banFromCommunity d pc => pc.owesUnfollow d
  | _ => none

def finished : Request → Bool
  | .delivery ⟨_, _, .done _⟩ | .followCommunity _ (.done _) | .banFromCommunity _ (.done _) => true
  | _ => false

theorem owesUnfollow_of_finished {r : Request} (h : r.finished) : r.owesUnfollow = none := by
  cases r with
  | banFromCommunity d pc => cases pc <;> first | rfl | cases h
  | _ => rfl

theorem insertsBan_of_checksBan {r : Request} (h : r.checksBan) : r.insertsBan = none := by
  cases r <;> first | rfl | cases h

theorem step_racesBan (cfg : Config) (r : Request) (f : Fault) (s : State) :
    (r.step cfg f s).1.racesBan = r.racesBan := by
  cases r <;> rfl

theorem step_banEffect (cfg : Config) {r : Request} (hr : r.racesBan) (f : Fault) (s : State) :
    BanEffect r.insertsBan r.followWindow r.checksBan r.owesUnfollow
      (r.step cfg f s).1.owesUnfollow (r.step cfg f s).1.followWindow f s (r.step cfg f s).2 := by
  cases r with
  | delivery d =>
    exact CommunityInbox.Moves.banEffect
      (@CommunityInbox.next_moves cfg.settings d.activity d.path d.pc f s)
  | followCommunity d pc => exact FollowCommunity.next_banEffect d pc f s
  | banFromCommunity d pc => exact BanFromCommunity.next_banEffect d pc f s
  | _ => cases hr

end Request

/-- The schedules under which no ban is inserted while a follow of the same row is between its
check and its insert, no ban check reads a failed lookup as no ban, and the unfollow a ban owes
runs. -/
def NoBanInFollowWindow (n : Node Request) (i : Nat) (f : Fault) : Prop :=
  (∀ r ∈ n.threads, r.followWindow.isSome → r.followWindow ≠ n.threads[i]?.bind Request.insertsBan) ∧
    (n.threads[i]?.any Request.checksBan → f ≠ .query) ∧
    ((n.threads[i]?.bind Request.owesUnfollow).isSome → f = .ok)

instance (n : Node Request) (i : Nat) (f : Fault) : Decidable (NoBanInFollowWindow n i f) :=
  inferInstanceAs (Decidable ((∀ r ∈ n.threads, _ → _) ∧ (_ → _) ∧ (_ → _)))

def BanInv (C p : Nat) (n : Node Request) : Prop :=
  (∀ r ∈ n.threads, r.racesBan) ∧
    (∀ r ∈ n.threads, r.followWindow = some (C, p) → ¬ n.state.db.communityPersonBan.Has (C, p)) ∧
    (n.state.db.communityPersonBan.Has (C, p) → n.state.db.communityFollower.Has (C, p) →
      ∃ j : Nat, n.threads[j]?.bind Request.owesUnfollow = some (C, p))

theorem banInv_stepThread (cfg : Config) (C p : Nat) {n : Node Request} {i : Nat} {f : Fault}
    (hw : NoBanInFollowWindow n i f) (h : BanInv C p n) :
    BanInv C p (Node.stepThread (Request.step cfg) n i f) := by
  obtain ⟨hkind, hwin, howe⟩ := h
  obtain ⟨hw1, hw2, hw3⟩ := hw
  cases hi : n.threads[i]? with
  | none => rw [Node.stepThread_of_none _ hi]; exact ⟨hkind, hwin, howe⟩
  | some r =>
    rw [Node.stepThread_of_get _ hi]
    have hr := List.getElem?_mem hi
    have hlt : i < n.threads.length := (List.getElem?_eq_some_iff.1 hi).1
    obtain ⟨hban, hfol, hent, hunf⟩ := Request.step_banEffect cfg (hkind r hr) f n.state
    simp only [hi, Option.any_some, Option.some_bind] at hw1 hw2 hw3
    refine ⟨fun r' hr' => ?_, fun r' hr' hk hb => ?_, fun hb hf => ?_⟩
    · rcases List.mem_or_eq_of_mem_set hr' with hr' | rfl
      · exact hkind r' hr'
      · rw [Request.step_racesBan]; exact hkind r hr
    · rcases List.mem_or_eq_of_mem_set hr' with hr' | rfl
      · rcases hban _ hb with hb | ⟨hins, -⟩
        · exact hwin r' hr' hk hb
        · exact hw1 r' hr' (by rw [hk]; rfl) (hk.trans hins.symm)
      · obtain ⟨hc, hq⟩ := hent _ hk
        rcases hban _ hb with hb | ⟨hins, -⟩
        · exact hq (hw2 hc) hb
        · rw [Request.insertsBan_of_checksBan hc] at hins; cases hins
    · by_cases hown : r.owesUnfollow = some (C, p)
      · exact absurd hf (hunf _ hown (hw3 (by simp [hown])))
      rcases hban _ hb with hb | ⟨-, howes'⟩
      · rcases hfol _ hf with hf | hwin'
        · obtain ⟨j, hj⟩ := howe hb hf
          have hij : i ≠ j := by rintro rfl; rw [hi] at hj; exact hown hj
          exact ⟨j, by rw [List.getElem?_set_ne hij]; exact hj⟩
        · exact absurd hb (hwin r hr hwin')
      · exact ⟨i, by rw [List.getElem?_set_self hlt]; exact howes'⟩

def followMain : FollowCommunity.Data := ⟨1, true, 4⟩

def banErin : BanFromCommunity.Data := ⟨1, 4, true, false, 1⟩

def banRun (sched : List (Nat × Fault)) : Node Request :=
  Node.run (Request.step apiConfig)
    (Node.start moderatorsState [.followCommunity followMain .auth, .banFromCommunity banErin .auth])
    sched

def followThenBan : List (Nat × Fault) := List.replicate 5 (0, .ok) ++ List.replicate 6 (1, .ok)

def banInFollowWindow : List (Nat × Fault) :=
  List.replicate 3 (0, .ok) ++ List.replicate 6 (1, .ok) ++ List.replicate 2 (0, .ok)

def followCheckFails : List (Nat × Fault) :=
  List.replicate 6 (1, .ok) ++ [(0, .ok), (0, .ok), (0, .query), (0, .ok), (0, .ok)]

def banUnfollowFails : List (Nat × Fault) :=
  List.replicate 5 (0, .ok) ++ [(1, .ok), (1, .ok), (1, .ok), (1, .query), (1, .ok), (1, .ok)]

end Lemmy
