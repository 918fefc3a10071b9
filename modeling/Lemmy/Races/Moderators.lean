import Lemmy.Request
import Lemmy.Api.Transfer

namespace Lemmy

namespace AddModToCommunity

def Pc.joined : Pc → Bool
  | .modlog _ | .readMods | .done (.ok ()) => true
  | _ => false

def Pc.isJoin : Pc → Bool
  | .join _ => true
  | _ => false

def Pc.isLeave : Pc → Bool
  | .leave _ => true
  | _ => false

theorem next_mods (d : Data) (hd : d.added = true) (pc : Pc) (hl : pc.isLeave = false) (f : Fault)
    (s : State) :
    (∀ k, s.db.communityModerator.Has k → (next d pc f s).2.db.communityModerator.Has k) ∧
    (next d pc f s).1.isLeave = false ∧
    ((next d pc f s).1.joined → pc.joined = false →
      pc.isJoin ∧ (next d pc f s).2.db.communityModerator.Has (d.communityId, d.personId)) := by
  cases pc with
  | join v =>
    simp only [next]
    split
    · exact ⟨fun _ hk => hk, rfl, fun h _ => by simp [Pc.joined] at h⟩
    · exact ⟨fun _ hk => hk, rfl, fun h _ => by simp [Pc.joined] at h⟩
    · rename_i db h
      obtain ⟨hdb, hk⟩ := CommunityModerator.join_eq_ok (blocking_eq_ok_ok h).2
      exact ⟨hdb, rfl, fun _ _ => ⟨rfl, hk⟩⟩
  | leave v => cases hl
  | checkMod v =>
    simp only [next]
    split
    all_goals exact ⟨fun _ hk => hk, by simp [hd, Pc.isLeave], fun h _ => by simp [hd, Pc.joined] at h⟩
  | modlog v =>
    simp only [next]
    split
    · exact ⟨fun _ hk => hk, rfl, fun h _ => by simp [Pc.joined] at h⟩
    · rename_i db h
      obtain rfl := ModlogEntry.create_db (blockingTry_eq_ok h).2
      exact ⟨fun _ hk => hk, rfl, fun _ h => by simp [Pc.joined] at h⟩
  | done r =>
    exact ⟨fun _ hk => hk, rfl, fun h h' => by cases r <;> simp_all [next, Pc.joined]⟩
  | auth | readMods =>
    simp only [next]
    split
    all_goals exact ⟨fun _ hk => hk, rfl, fun h h' => by simp [Pc.joined] at h h'⟩

end AddModToCommunity

namespace TransferCommunity

def Pc.held : Pc → List CommunityModerator
  | .deleteMods _ ms | .rejoin _ ms => ms
  | _ => []

def Pc.inWindow : Pc → Bool
  | .deleteMods .. => true
  | _ => false

def Owed (C q : Nat) (db : Db) : Pc → Prop
  | .deleteMods _ ms => db.communityModerator.Has (C, q) ∧ ⟨C, q⟩ ∈ ms
  | .rejoin _ ms => db.communityModerator.Has (C, q) ∨ ⟨C, q⟩ ∈ ms
  | .done (.error _) => True
  | _ => db.communityModerator.Has (C, q)

theorem Owed.mono {C q : Nat} {db db' : Db} {pc : Pc}
    (hdb : ∀ k, db.communityModerator.Has k → db'.communityModerator.Has k) (h : Owed C q db pc) :
    Owed C q db' pc := by
  cases pc with
  | deleteMods _ ms => exact ⟨hdb _ h.1, h.2⟩
  | rejoin _ ms => exact h.imp_left (hdb _)
  | done r =>
    cases r with
    | error => trivial
    | ok => exact hdb _ h
  | _ => exact hdb _ h

theorem Owed.of_has {C q : Nat} {db : Db} {pc : Pc} (hw : pc.inWindow = false)
    (h : db.communityModerator.Has (C, q)) : Owed C q db pc := by
  cases pc with
  | deleteMods => cases hw
  | rejoin _ ms => exact .inl h
  | done r =>
    cases r with
    | error => trivial
    | ok => exact h
  | _ => exact h

theorem next_owed (d : Data) (pc : Pc) (f : Fault) (s : State)
    (hheld : ∀ m ∈ pc.held, m.communityId = d.communityId) :
    (∀ m ∈ (next d pc f s).1.held, m.communityId = d.communityId) ∧
    ∀ q, Owed d.communityId q s.db pc → Owed d.communityId q (next d pc f s).2.db (next d pc f s).1 := by
  cases pc with
  | auth | readCommunity _ | readSiteCreator _ _ | readAdmins _ _ _ | readView | readModerators =>
    simp only [next]
    repeat' split
    all_goals first
      | exact ⟨fun _ => nofun, fun _ _ => trivial⟩
      | exact ⟨fun _ => nofun, fun _ h => h⟩
  | updateCreator v =>
    simp only [next]
    split
    · exact ⟨fun _ => nofun, fun _ _ => trivial⟩
    · exact ⟨fun _ => nofun, fun _ _ => trivial⟩
    · rename_i db h
      have hdb : db.communityModerator = s.db.communityModerator := by
        rw [Community.set_eq_ok (blocking_eq_ok_ok h).2]
      exact ⟨fun _ => nofun, fun _ hq => show db.communityModerator.Has _ from hdb ▸ hq⟩
  | readMods v =>
    simp only [next]
    split
    · exact ⟨fun _ => nofun, fun _ _ => trivial⟩
    · rename_i mods db h
      obtain ⟨-, hq⟩ := blockingTry_eq_ok h
      simp only [CommunityModeratorView.forCommunity, Except.ok.injEq, Prod.mk.injEq] at hq
      obtain ⟨rfl, -⟩ := hq
      split
      · exact ⟨fun _ => nofun, fun _ _ => trivial⟩
      · rename_i mods' hmv
        refine ⟨fun m hm => of_decide_eq_true (List.mem_filter.1 ((mem_moveToFront hmv m).1 hm)).2,
          fun q hq => ⟨hq, (mem_moveToFront hmv _).2 (List.mem_filter.2 ⟨?_, by simp⟩)⟩⟩
        exact CommunityModerator.mem_rows_of_has hq
  | deleteMods v ms =>
    simp only [next]
    split
    · exact ⟨fun _ => nofun, fun _ _ => trivial⟩
    · exact ⟨hheld, fun _ hq => .inr hq.2⟩
  | rejoin v ms =>
    cases ms with
    | nil => exact ⟨fun _ => nofun, fun _ hq => hq.resolve_right (List.not_mem_nil _)⟩
    | cons m ms =>
      simp only [next]
      split
      · exact ⟨fun _ => nofun, fun _ _ => trivial⟩
      · exact ⟨fun _ => nofun, fun _ _ => trivial⟩
      · rename_i db h
        obtain ⟨hdb, hk⟩ := CommunityModerator.join_eq_ok (blocking_eq_ok_ok h).2
        refine ⟨fun m' hm' => hheld m' (.tail _ hm'), fun q hq => ?_⟩
        rcases hq with hq | hq
        · exact .inl (hdb _ hq)
        · rcases List.mem_cons.1 hq with rfl | hq
          · exact .inl hk
          · exact .inr hq
  | modlog v =>
    simp only [next]
    split
    · exact ⟨fun _ => nofun, fun _ _ => trivial⟩
    · rename_i db h
      obtain rfl := ModlogEntry.create_db (blockingTry_eq_ok h).2
      exact ⟨fun _ => nofun, fun _ h => h⟩
  | done r => exact ⟨hheld, fun _ h => h⟩

end TransferCommunity

namespace Request

def isJoin : Request → Bool
  | .addModToCommunity _ pc => pc.isJoin
  | _ => false

def inWindow : Request → Bool
  | .transferCommunity _ pc => pc.inWindow
  | _ => false

def transferWithAdds (dT : TransferCommunity.Data) (adds : List AddModToCommunity.Data) :
    List Request :=
  .transferCommunity dT .auth :: adds.map (.addModToCommunity · .auth)

end Request

/-- The schedules under which no moderator is added while a transfer is between its read of
the moderators and its delete. -/
def NoJoinInWindow (n : Node Request) (i : Nat) (_ : Fault) : Prop :=
  n.threads[i]?.any Request.isJoin → ∀ r ∈ n.threads, r.inWindow = false

instance (n : Node Request) (i : Nat) (f : Fault) : Decidable (NoJoinInWindow n i f) :=
  inferInstanceAs (Decidable (_ → ∀ r ∈ n.threads, r.inWindow = false))

open TransferCommunity in
def AddOk (dT : Data) (pcT : Pc) (db : Db) : Request → Prop
  | .addModToCommunity d pc => d.communityId = dT.communityId ∧ d.added = true ∧
      pc.isLeave = false ∧ (pc.joined → Owed dT.communityId d.personId db pcT)
  | _ => False

open TransferCommunity in
theorem AddOk.transfer {dT : Data} {pcT pcT' : Pc} {db db' : Db} {r : Request}
    (h : ∀ q, Owed dT.communityId q db pcT → Owed dT.communityId q db' pcT')
    (hr : AddOk dT pcT db r) : AddOk dT pcT' db' r := by
  cases r with
  | addModToCommunity d pc => exact ⟨hr.1, hr.2.1, hr.2.2.1, fun hj => h _ (hr.2.2.2 hj)⟩
  | _ => cases hr

def ModInv (dT : TransferCommunity.Data) (n : Node Request) : Prop :=
  ∃ pcT rest, n.threads = .transferCommunity dT pcT :: rest ∧
    (∀ m ∈ pcT.held, m.communityId = dT.communityId) ∧ ∀ r ∈ rest, AddOk dT pcT n.state.db r

theorem modInv_start (dT : TransferCommunity.Data) (adds : List AddModToCommunity.Data)
    (hadds : ∀ d ∈ adds, d.communityId = dT.communityId ∧ d.added = true) (s : State) :
    ModInv dT (Node.start s (Request.transferWithAdds dT adds)) := by
  refine ⟨.auth, _, rfl, fun _ => nofun, fun r hr => ?_⟩
  obtain ⟨d, hd, rfl⟩ := List.mem_map.1 hr
  exact ⟨(hadds d hd).1, (hadds d hd).2, rfl, fun h => absurd h Bool.false_ne_true⟩

theorem modInv_stepThread (cfg : Config) (dT : TransferCommunity.Data) {n : Node Request}
    {i : Nat} {f : Fault} (hw : NoJoinInWindow n i f) (h : ModInv dT n) :
    ModInv dT (Node.stepThread (Request.step cfg) n i f) := by
  obtain ⟨pcT, rest, hth, hheld, hadd⟩ := h
  cases hi : n.threads[i]? with
  | none => rw [Node.stepThread_of_none _ hi]; exact ⟨pcT, rest, hth, hheld, hadd⟩
  | some p =>
    rw [Node.stepThread_of_get _ hi]
    rw [hth] at hi
    cases i with
    | zero =>
      simp only [List.getElem?_cons_zero, Option.some.injEq] at hi
      subst hi
      obtain ⟨hheld', howed⟩ := TransferCommunity.next_owed dT pcT f n.state hheld
      exact ⟨_, rest, by simp [hth, Request.step], hheld', fun r hr => (hadd r hr).transfer howed⟩
    | succ j =>
      simp only [List.getElem?_cons_succ] at hi
      have hp := hadd p (List.getElem?_mem hi)
      cases p with
      | addModToCommunity d pc =>
        obtain ⟨hC, hd, hl, hj⟩ := hp
        obtain ⟨hmono, hl', hjoin⟩ := AddModToCommunity.next_mods d hd pc hl f n.state
        refine ⟨pcT, rest.set j (.addModToCommunity d (AddModToCommunity.next d pc f n.state).1),
          by simp [hth, Request.step], hheld, fun r hr => ?_⟩
        rcases List.mem_or_eq_of_mem_set hr with hr | rfl
        · exact (hadd r hr).transfer fun _ => TransferCommunity.Owed.mono hmono
        · refine ⟨hC, hd, hl', fun hj' => ?_⟩
          cases hpj : pc.joined
          · obtain ⟨hpj', hk⟩ := hjoin hj' hpj
            have hwin := hw (by simp [hth, hi, Request.isJoin, hpj']) (.transferCommunity dT pcT)
              (by rw [hth]; exact List.mem_cons_self _ _)
            exact TransferCommunity.Owed.of_has hwin (hC ▸ hk)
          · exact TransferCommunity.Owed.mono hmono (hj hpj)
      | _ => cases hp

/-- Under a schedule that adds no moderator inside the transfer's window, every moderator whose
request returned Ok is a moderator of the community when the transfer has returned Ok. -/
theorem transfer_keeps_added_moderators (cfg : Config) (dT : TransferCommunity.Data)
    (adds : List AddModToCommunity.Data)
    (hadds : ∀ d ∈ adds, d.communityId = dT.communityId ∧ d.added = true) (s : State)
    (sched : List (Nat × Fault))
    (hsched : Node.Allowed (Request.step cfg) NoJoinInWindow
      (Node.start s (Request.transferWithAdds dT adds)) sched)
    (hT : (Node.run (Request.step cfg) (Node.start s (Request.transferWithAdds dT adds))
      sched).threads[0]? = some (.transferCommunity dT (.done (.ok ()))))
    (d : AddModToCommunity.Data)
    (hd : .addModToCommunity d (.done (.ok ())) ∈
      (Node.run (Request.step cfg) (Node.start s (Request.transferWithAdds dT adds)) sched).threads) :
    (Node.run (Request.step cfg) (Node.start s (Request.transferWithAdds dT adds))
      sched).state.db.communityModerator.Has (dT.communityId, d.personId) := by
  obtain ⟨pcT, rest, hth, -, hadd⟩ := Node.run_inv_allowed (Request.step cfg) NoJoinInWindow
    (ModInv dT) (fun _ _ _ hw h => modInv_stepThread cfg dT hw h) sched
    (modInv_start dT adds hadds s) hsched
  rw [hth] at hT hd
  simp only [List.getElem?_cons_zero, Option.some.injEq, Request.transferCommunity.injEq,
    true_and] at hT
  subst hT
  rcases List.mem_cons.1 hd with h | h
  · cases h
  · exact (hadd _ h).2.2.2 rfl

def addErin : AddModToCommunity.Data := ⟨1, 4, true, 2⟩

def apiConfig : Config :=
  ⟨⟨"a.example", []⟩, noSlurs, noUrls, none, fun _ _ _ => .error .network⟩

def transferRun (sched : List (Nat × Fault)) : Node Request :=
  Node.run (Request.step apiConfig)
    (Node.start moderatorsState (Request.transferWithAdds transferToDave [addErin])) sched

def erinAddedFirst : List (Nat × Fault) := List.replicate 5 (1, .ok) ++ List.replicate 14 (0, .ok)

def erinAddedInWindow : List (Nat × Fault) :=
  List.replicate 6 (0, .ok) ++ List.replicate 5 (1, .ok) ++ List.replicate 7 (0, .ok)

theorem erin_added_first_kept :
    ((∀ d ∈ [addErin], d.communityId = transferToDave.communityId ∧ d.added = true) ∧
      Node.Allowed (Request.step apiConfig) NoJoinInWindow
        (Node.start moderatorsState (Request.transferWithAdds transferToDave [addErin]))
        erinAddedFirst ∧
      (transferRun erinAddedFirst).threads[0]? =
        some (.transferCommunity transferToDave (.done (.ok ()))) ∧
      .addModToCommunity addErin (.done (.ok ())) ∈ (transferRun erinAddedFirst).threads) ∧
    (transferRun erinAddedFirst).state.db.communityModerator.Has
      (transferToDave.communityId, addErin.personId) :=
  have hadds : ∀ d ∈ [addErin], d.communityId = transferToDave.communityId ∧ d.added = true := by
    decide
  have hsched : Node.Allowed (Request.step apiConfig) NoJoinInWindow
      (Node.start moderatorsState (Request.transferWithAdds transferToDave [addErin]))
      erinAddedFirst := by decide
  have hT : (transferRun erinAddedFirst).threads[0]? =
      some (.transferCommunity transferToDave (.done (.ok ()))) := by decide
  have hd : .addModToCommunity addErin (.done (.ok ())) ∈ (transferRun erinAddedFirst).threads := by
    decide
  ⟨⟨hadds, hsched, hT, hd⟩, transfer_keeps_added_moderators apiConfig transferToDave [addErin]
    hadds moderatorsState erinAddedFirst hsched hT addErin hd⟩

def transferRejoinFails : List (Nat × Fault) :=
  List.replicate 5 (1, .ok) ++ List.replicate 7 (0, .ok) ++ [(0, .pool)]

theorem transfer_drops_moderator_added_in_window :
    ¬ Node.Allowed (Request.step apiConfig) NoJoinInWindow
        (Node.start moderatorsState (Request.transferWithAdds transferToDave [addErin]))
        erinAddedInWindow ∧
      (transferRun erinAddedInWindow).threads =
        [.transferCommunity transferToDave (.done (.ok ())),
          .addModToCommunity addErin (.done (.ok ()))] ∧
      ¬ (transferRun erinAddedInWindow).state.db.communityModerator.Has
        (transferToDave.communityId, addErin.personId) ∧
    Node.Allowed (Request.step apiConfig) NoJoinInWindow
        (Node.start moderatorsState (Request.transferWithAdds transferToDave [addErin]))
        transferRejoinFails ∧
      (transferRun transferRejoinFails).threads =
        [.transferCommunity transferToDave (.done (.error .blocking)),
          .addModToCommunity addErin (.done (.ok ()))] ∧
      ¬ (transferRun transferRejoinFails).state.db.communityModerator.Has
        (transferToDave.communityId, addErin.personId) := by
  decide

end Lemmy
