import Lemmy.Api.ReadBack

namespace Lemmy

inductive AnyRequest
  | request (r : Request)
  | createCommunity (d : CreateCommunity.Data) (pc : CreateCommunity.Pc)
  | getCommunity (d : GetCommunity.Data) (pc : GetCommunity.Pc)
  | getFollowedCommunities (d : GetFollowedCommunities.Data) (pc : GetFollowedCommunities.Pc)
  | getSite (d : GetSite.Data) (pc : GetSite.Pc)
  deriving DecidableEq, Repr

namespace AnyRequest

def step (cfg : Config) : AnyRequest → Fault → State → AnyRequest × State
  | .request r, f, s => (.request (r.step cfg f s).1, (r.step cfg f s).2)
  | .createCommunity d pc, f, s =>
    (.createCommunity d (CreateCommunity.next cfg d pc f s).1, (CreateCommunity.next cfg d pc f s).2)
  | .getCommunity d pc, f, s =>
    (.getCommunity d (GetCommunity.next d pc f s).1, (GetCommunity.next d pc f s).2)
  | .getFollowedCommunities d pc, f, s =>
    (.getFollowedCommunities d (GetFollowedCommunities.next d pc f s).1,
      (GetFollowedCommunities.next d pc f s).2)
  | .getSite d pc, f, s => (.getSite d (GetSite.next cfg d pc f s).1, (GetSite.next cfg d pc f s).2)

def fresh : AnyRequest → Bool
  | .request (.delivery d) => d.pc = .verifySignature
  | .request (.followCommunity _ pc) => pc = .auth
  | .request (.banFromCommunity _ pc) => pc = .auth
  | .request (.editCommunity _ pc) => pc = .auth
  | .request (.deleteCommunity _ pc) => pc = .auth
  | .request (.removeCommunity _ pc) => pc = .auth
  | .request (.addModToCommunity _ pc) => pc = .auth
  | .request (.transferCommunity _ pc) => pc = .auth
  | .request (.createSite _ pc) => pc = .readSite
  | .request (.editSite _ pc) => pc = .auth
  | .request (.transferSite _ pc) => pc = .auth
  | .createCommunity _ pc => pc = .auth
  | .getCommunity _ pc => pc = .auth
  | .getFollowedCommunities _ pc => pc = .auth
  | .getSite _ pc => pc = .readSite

/-- The request is one of the read handlers, outside `GetSite`'s setup branch. -/
def isRead : AnyRequest → Bool
  | .getCommunity _ _ | .getFollowedCommunities _ _ => true
  | .getSite _ pc => !pc.inSetup
  | _ => false

theorem step_of_isRead {cfg : Config} (hsetup : cfg.setup = none) {r : AnyRequest} (h : r.isRead)
    (f : Fault) (s : State) : (r.step cfg f s).2 = s ∧ (r.step cfg f s).1.isRead := by
  cases r with
  | getCommunity d pc =>
    refine ⟨?_, rfl⟩
    cases pc <;> simp only [step, GetCommunity.next] <;> (repeat' split) <;> rfl
  | getFollowedCommunities d pc =>
    refine ⟨?_, rfl⟩
    cases pc <;> simp only [step, GetFollowedCommunities.next] <;> (repeat' split) <;> rfl
  | getSite d pc =>
    cases pc <;> simp only [isRead, GetSite.Pc.inSetup, Bool.not_true, Bool.false_eq_true] at h <;>
      simp only [step, GetSite.next, hsetup] <;> (repeat' split) <;> simp [isRead, GetSite.Pc.inSetup]
  | _ => cases h

def outsideSetup : AnyRequest → Bool
  | .getSite _ pc => !pc.inSetup
  | _ => true

theorem outsideSetup_of_fresh {r : AnyRequest} (h : r.fresh) : r.outsideSetup := by
  cases r with
  | getSite d pc =>
    simp only [fresh, decide_eq_true_eq] at h
    subst h
    rfl
  | _ => rfl

theorem step_outsideSetup {cfg : Config} (hsetup : cfg.setup = none) {r : AnyRequest}
    (h : r.outsideSetup) (f : Fault) (s : State) : (r.step cfg f s).1.outsideSetup := by
  cases r with
  | getSite d pc => exact (step_of_isRead hsetup (r := .getSite d pc) h f s).2
  | _ => rfl

end AnyRequest

/-- The node serving the requests `threads` from the state `s`, their steps taken as `sched`
says. -/
def serve (cfg : Config) (s : State) (threads : List AnyRequest) (sched : List (Nat × Fault)) :
    Node AnyRequest :=
  Node.run (AnyRequest.step cfg) (Node.start s threads) sched

def ReadsApart (k : Nat) (n₁ n₂ : Node AnyRequest) : Prop :=
  n₂.threads.length = k ∧ n₁.state = n₂.state ∧
    ∃ rs, n₁.threads = n₂.threads ++ rs ∧ ∀ r ∈ rs, r.isRead

theorem ReadsApart.stepThread {cfg : Config} (hsetup : cfg.setup = none) {k : Nat}
    {n₁ n₂ : Node AnyRequest} (h : ReadsApart k n₁ n₂) (i : Nat) (f : Fault) :
    ReadsApart k (Node.stepThread (AnyRequest.step cfg) n₁ i f)
      (if i < k then Node.stepThread (AnyRequest.step cfg) n₂ i f else n₂) := by
  obtain ⟨hk, hs, rs, hth, hrs⟩ := h
  split
  · rename_i hi
    have hget : n₁.threads[i]? = n₂.threads[i]? := by
      rw [hth, List.getElem?_append_left (hk ▸ hi)]
    cases hr : n₂.threads[i]? with
    | none =>
      rw [Node.stepThread_of_none _ (hget.trans hr), Node.stepThread_of_none _ hr]
      exact ⟨hk, hs, rs, hth, hrs⟩
    | some r =>
      rw [Node.stepThread_of_get _ (hget.trans hr), Node.stepThread_of_get _ hr]
      refine ⟨by rw [List.length_set, hk], by rw [hs], rs, ?_, hrs⟩
      rw [hth, hs, List.set_append_left _ _ (hk ▸ hi)]
  · rename_i hi
    cases hr : n₁.threads[i]? with
    | none => rw [Node.stepThread_of_none _ hr]; exact ⟨hk, hs, rs, hth, hrs⟩
    | some r =>
      have hle : n₂.threads.length ≤ i := hk ▸ Nat.le_of_not_lt hi
      have hread : r.isRead := hrs r (List.getElem?_mem (by
        rw [hth, List.getElem?_append_right hle] at hr; exact hr))
      obtain ⟨hst, hq⟩ := AnyRequest.step_of_isRead hsetup hread f n₁.state
      rw [Node.stepThread_of_get _ hr]
      refine ⟨hk, hst.trans hs, rs.set (i - n₂.threads.length) (r.step cfg f n₁.state).1, ?_,
        fun r' hr' => ?_⟩
      · rw [hth, List.set_append_right _ _ hle]
      · rcases List.mem_or_eq_of_mem_set hr' with hr' | rfl
        · exact hrs r' hr'
        · exact hq

theorem ReadsApart.run {cfg : Config} (hsetup : cfg.setup = none) {k : Nat} :
    ∀ (sched : List (Nat × Fault)) {n₁ n₂ : Node AnyRequest}, ReadsApart k n₁ n₂ →
      ReadsApart k (Node.run (AnyRequest.step cfg) n₁ sched)
        (Node.run (AnyRequest.step cfg) n₂ (sched.filter (·.1 < k)))
  | [], _, _, h => h
  | (i, f) :: sched, n₁, n₂, h => by
    have := ReadsApart.run hsetup sched (h.stepThread hsetup i f)
    by_cases hi : i < k
    · simpa [List.filter_cons, hi] using this
    · simpa [List.filter_cons, hi] using this

/-- On a node with no setup, the read handlers never interfere with the other requests: a run
with read requests added after the others, their steps anywhere in the schedule, ends in the
state, and with the other requests at the points, that the run without them and without their
steps ends in. -/
theorem reads_change_nothing (cfg : Config) (hsetup : cfg.setup = none) (s : State)
    (threads reads : List AnyRequest) (hreads : ∀ r ∈ reads, r.isRead) (sched : List (Nat × Fault)) :
    (serve cfg s (threads ++ reads) sched).state =
        (serve cfg s threads (sched.filter (·.1 < threads.length))).state ∧
      (serve cfg s (threads ++ reads) sched).threads.take threads.length =
        (serve cfg s threads (sched.filter (·.1 < threads.length))).threads := by
  obtain ⟨hk, hs, rs, hth, -⟩ :=
    ReadsApart.run hsetup sched (⟨rfl, rfl, reads, rfl, hreads⟩ :
      ReadsApart threads.length (Node.start s (threads ++ reads)) (Node.start s threads))
  exact ⟨hs, by rw [serve, hth, List.take_left' hk]; rfl⟩

def mainReads : List AnyRequest :=
  [.getCommunity ⟨none, some "main", none⟩ .auth, .getSite ⟨none⟩ .readSite]

def readsSched : List (Nat × Fault) := (List.replicate 6 [(1, .ok), (0, .ok), (2, .ok)]).flatten

theorem main_created_beside_reads :
    createsConfig.setup = none ∧ (∀ r ∈ mainReads, r.isRead) ∧
      (serve createsConfig twoUsersState ([.createCommunity createMain .auth] ++ mainReads)
          readsSched).state =
        (serve createsConfig twoUsersState [.createCommunity createMain .auth]
          (readsSched.filter (·.1 < 1))).state ∧
      (serve createsConfig twoUsersState ([.createCommunity createMain .auth] ++ mainReads)
          readsSched).threads.take 1 =
        (serve createsConfig twoUsersState [.createCommunity createMain .auth]
          (readsSched.filter (·.1 < 1))).threads :=
  have h : ∀ r ∈ mainReads, r.isRead := by decide
  ⟨rfl, h, reads_change_nothing createsConfig rfl twoUsersState [.createCommunity createMain .auth]
    mainReads h readsSched⟩

end Lemmy
