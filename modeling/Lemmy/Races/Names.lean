import Lemmy.Races.Frame
import Lemmy.Apub.PostWire
import Lemmy.Api.ReadBack

namespace Lemmy

theorem Community.Apart.symm {c c' : Community} (h : c.Apart c') : c'.Apart c :=
  ⟨h.1.symm, h.2.symm⟩

theorem Community.Apart.of_ident {a a' b b' : Community} (ha : a'.ident = a.ident)
    (hb : b'.ident = b.ident) (h : a.Apart b) : a'.Apart b' := by
  simp only [Community.ident, Prod.mk.injEq] at ha hb
  exact ⟨ha.1 ▸ hb.1 ▸ h.1, ha.2.2 ▸ hb.2.2 ▸ h.2⟩

theorem Community.Apart.of_mem_idents {db : Db} {c c' : Community} (hc : c.ident ∈ db.idents)
    (h : ∀ r ∈ db.community.rows, r.Apart c') : c.Apart c' := by
  obtain ⟨r, hr, he⟩ := List.mem_map.1 hc
  exact (h r hr).of_ident he.symm rfl

theorem Db.actorIds_eq (db : Db) :
    db.community.rows.map (·.actorId) = db.idents.map (·.2.2) := by
  simp [Db.idents, Community.ident]

theorem nodup_map_append_singleton {α β : Type} {k : α → β} {l : List α} {a : α}
    (hl : (l.map k).Nodup) (ha : ∀ x ∈ l, k x ≠ k a) : ((l ++ [a]).map k).Nodup := by
  rw [List.map_append, List.map_singleton]
  refine List.nodup_append.2 ⟨hl, List.nodup_singleton _, ?_⟩
  simp only [List.disjoint_singleton, List.mem_map, not_exists, not_and]
  exact ha

theorem Db.PersonsGrow.prefix {db db' : Db} (h : db.PersonsGrow db') :
    db.person.rows <+: db'.person.rows := by
  rcases h with h | ⟨p, -, h⟩
  · exact h ▸ List.prefix_refl _
  · exact h ▸ List.prefix_append _ _

theorem Frame.actorIdsUnique {w : Option Nat} {db db' : Db} (h : Frame w db db')
    (hu : db.ActorIdsUnique) : db'.ActorIdsUnique := by
  refine ⟨?_, ?_⟩
  · rcases h.person with he | ⟨p, hp, he⟩
    · exact he ▸ hu.1
    · exact he ▸ nodup_map_append_singleton hu.1 fun q hq => (hp q hq).2
  · have hc := hu.2
    rw [Db.actorIds_eq] at hc ⊢
    rcases h.idents with he | ⟨c, hcs, he⟩
    · exact he ▸ hc
    · rw [he]
      refine nodup_map_append_singleton hc fun x hx => ?_
      obtain ⟨r, hr, rfl⟩ := List.mem_map.1 hx
      exact (hcs r hr).2

namespace CreateCommunity

def Pc.created : Pc → Option Community
  | .join _ c | .follow _ c | .readView c | .done (.ok c) => some c
  | _ => none

theorem next_created (cfg : Config) (d : Data) (pc : Pc) (f : Fault) (s : State)
    (h : ∀ c ∈ pc.created, c.ident ∈ s.db.idents) :
    ∀ c ∈ (next cfg d pc f s).1.created,
      (∃ c₀ ∈ pc.created, c.ident = c₀.ident) ∨
        (c.actorId = generateApubEndpoint cfg.settings d.name ∧
          (∀ r ∈ s.db.community.rows, r.Apart c) ∧
          (next cfg d pc f s).2.db.idents = s.db.idents ++ [c.ident]) := by
  cases pc with
  | create v icon banner =>
    simp only [next]
    split
    · rintro _ ⟨⟩
    · rintro _ ⟨⟩
    · rename_i c db hq
      rintro _ ⟨⟩
      obtain ⟨ha, -, -, hnew, -, hrows⟩ := Community.create_eq_ok (blocking_eq_ok_ok hq).2
      exact .inr ⟨(Option.some.inj ha).symm, hnew, by simp [Db.idents, hrows]⟩
  | join v c | follow v c =>
    simp only [next]
    split
    · rintro _ ⟨⟩
    · rintro _ ⟨⟩
    · rintro _ ⟨⟩; exact .inl ⟨c, rfl, rfl⟩
  | readView c =>
    simp only [next]
    split
    · rintro _ ⟨⟩
    · rename_i view db hq
      rintro _ ⟨⟩
      obtain ⟨hv, -⟩ := Db.found_eq_ok.1 (blockingTry_eq_ok hq).2
      obtain ⟨hm, hid⟩ := Table.find?_eq_some hv
      exact .inl ⟨c, rfl, ident_eq_of_mem (h c rfl) hm hid⟩
  | done r => rintro c hc; exact .inl ⟨c, hc, rfl⟩
  | _ => simp only [next]; (repeat' split) <;> rintro _ ⟨⟩

end CreateCommunity

namespace EditCommunity

theorem next_held (sf : SlurFilter) (parse : String → Option Url) (d : Data) (pc : Pc) (f : Fault)
    (s : State) :
    ∀ c i b, (next sf parse d pc f s).1 = .update c i b →
      c.id = d.communityId ∧ c.ident ∈ (next sf parse d pc f s).2.db.idents := by
  cases pc with
  | readCommunity =>
    simp only [next]
    split
    · rintro _ _ _ ⟨⟩
    · rename_i c' db hq
      have ⟨hm, hid⟩ := Table.find?_eq_some (Db.found_eq_ok.1 (blockingTry_eq_ok hq).2).1
      split <;> rintro c _ _ ⟨⟩
      exact ⟨hid, List.mem_map_of_mem _ hm⟩
  | _ => simp only [next]; (repeat' split) <;> rintro _ _ _ ⟨⟩

end EditCommunity

namespace AnyRequest

def created : AnyRequest → Option (CreateCommunity.Data × Community)
  | .createCommunity d pc => pc.created.map (d, ·)
  | _ => none

/-- The rows a request holds are stored: the row an edit will write back is the stored row of
its id, and a community the request created is stored, under the actor id of the request's
name. The request is not in the setup branch. -/
def Current (settings : Settings) (db : Db) (r : AnyRequest) : Prop :=
  (∀ k c, r.held = some (k, c) → c.id = k ∧ c.ident ∈ db.idents) ∧
    (∀ d c, r.created = some (d, c) →
      c.ident ∈ db.idents ∧ c.actorId = generateApubEndpoint settings d.name) ∧
    r.outsideSetup

variable {settings : Settings}

theorem Current.mono {db db' : Db} (h : db.idents <+: db'.idents) {r : AnyRequest}
    (hr : r.Current settings db) : r.Current settings db' :=
  ⟨fun k c hc => ⟨(hr.1 k c hc).1, h.subset (hr.1 k c hc).2⟩,
    fun d c hc => ⟨h.subset (hr.2.1 d c hc).1, (hr.2.1 d c hc).2⟩, hr.2.2⟩

theorem held_of_fresh {r : AnyRequest} (h : r.fresh) : r.held = none := by
  cases r with
  | request r =>
    cases r with
    | editCommunity d pc =>
      simp only [fresh, decide_eq_true_eq] at h
      subst h
      rfl
    | _ => rfl
  | _ => rfl

theorem created_of_fresh {r : AnyRequest} (h : r.fresh) : r.created = none := by
  cases r with
  | createCommunity d pc =>
    simp only [fresh, decide_eq_true_eq] at h
    subst h
    rfl
  | _ => rfl

theorem current_of_fresh {r : AnyRequest} (h : r.fresh) (db : Db) : r.Current settings db :=
  ⟨fun _ _ hc => (by rw [held_of_fresh h] at hc; cases hc),
    fun _ _ hc => (by rw [created_of_fresh h] at hc; cases hc), outsideSetup_of_fresh h⟩

theorem step_held (cfg : Config) (r : AnyRequest) (f : Fault) (s : State) {k : Nat}
    {c : Community} (h : (r.step cfg f s).1.held = some (k, c)) :
    ∃ d pc i b, r = .request (.editCommunity d pc) ∧ k = d.communityId ∧
      (EditCommunity.next cfg.slurs cfg.urlParse d pc f s).1 = .update c i b ∧
      (r.step cfg f s).2 = (EditCommunity.next cfg.slurs cfg.urlParse d pc f s).2 := by
  cases r with
  | request r =>
    cases r with
    | editCommunity d pc =>
      simp only [step, Request.step] at h ⊢
      cases hp : (EditCommunity.next cfg.slurs cfg.urlParse d pc f s).1 <;> rw [hp] at h <;>
        simp [held] at h
      obtain ⟨rfl, rfl⟩ := h
      exact ⟨d, pc, _, _, rfl, rfl, hp, rfl⟩
    | _ => simp [step, Request.step, held] at h
  | _ => simp [step, held] at h

theorem step_created (cfg : Config) (r : AnyRequest) (f : Fault) (s : State)
    (h : r.Current cfg.settings s.db) :
    ∀ d c, (r.step cfg f s).1.created = some (d, c) →
      (∃ c₀, r.created = some (d, c₀) ∧ c.ident = c₀.ident) ∨
        (c.actorId = generateApubEndpoint cfg.settings d.name ∧
          (∀ x ∈ s.db.community.rows, x.Apart c) ∧
          (r.step cfg f s).2.db.idents = s.db.idents ++ [c.ident]) := by
  intro d' c hc
  cases r with
  | createCommunity d pc =>
    simp only [step, created, Option.map_eq_some', Prod.mk.injEq] at hc
    obtain ⟨c', hc', rfl, rfl⟩ := hc
    have hpc : ∀ x ∈ pc.created, x.ident ∈ s.db.idents := fun x hx =>
      (h.2.1 d x (by simp only [created, Option.mem_def] at hx ⊢; simp [hx])).1
    rcases CreateCommunity.next_created cfg d pc f s hpc c' hc' with ⟨c₀, hc₀, he⟩ | hnew
    · exact .inl ⟨c₀, by simp only [Option.mem_def] at hc₀; simp [created, hc₀], he⟩
    · exact .inr hnew
  | request r => simp [step, created] at hc
  | getCommunity => simp [step, created] at hc
  | getFollowedCommunities => simp [step, created] at hc
  | getSite => simp [step, created] at hc

theorem step_current {cfg : Config} (hsetup : cfg.setup = none) (r : AnyRequest) (f : Fault)
    (s : State) (h : r.Current cfg.settings s.db) {w : Option Nat}
    (hfr : Frame w s.db (r.step cfg f s).2.db) :
    (r.step cfg f s).1.Current cfg.settings (r.step cfg f s).2.db := by
  refine ⟨fun k c hc => ?_, fun d c hc => ?_, step_outsideSetup hsetup h.2.2 f s⟩
  · obtain ⟨d, pc, i, b, rfl, rfl, hpc, hs⟩ := step_held cfg r f s hc
    rw [hs]
    exact EditCommunity.next_held _ _ d pc f s c i b hpc
  · rcases step_created cfg r f s h d c hc with ⟨c₀, hc₀, he⟩ | ⟨ha, -, he⟩
    · have := h.2.1 d c₀ hc₀
      refine ⟨he ▸ hfr.idents_prefix.subset this.1, ?_⟩
      simp only [Community.ident, Prod.mk.injEq] at he
      exact he.2.2.trans this.2
    · exact ⟨by rw [he]; exact List.mem_append_right _ (.head _), ha⟩

end AnyRequest

/-- What holds after every step of a run from the store `db₀`: the persons of `db₀` are a prefix
of the persons, the local users are those of `db₀`, the identities of `db₀` are kept, every
request holds stored rows, and two requests that have created communities created communities
apart. -/
structure RunInv (settings : Settings) (db₀ : Db) (n : Node AnyRequest) : Prop where
  person : db₀.person.rows <+: n.state.db.person.rows
  localUser : n.state.db.localUser = db₀.localUser
  idents : db₀.idents <+: n.state.db.idents
  current : ∀ r ∈ n.threads, r.Current settings n.state.db
  apart : ∀ i j : Nat, i ≠ j → ∀ d c d' c',
    n.threads[i]?.bind AnyRequest.created = some (d, c) →
    n.threads[j]?.bind AnyRequest.created = some (d', c') → c.Apart c'

section Runs

variable {cfg : Config} (hsetup : cfg.setup = none)
include hsetup

theorem stepThread_frame {n : Node AnyRequest}
    (h : ∀ r ∈ n.threads, r.Current cfg.settings n.state.db) (i : Nat) (f : Fault) :
    Frame (n.threads[i]?.bind AnyRequest.writesCreator) n.state.db
      (Node.stepThread (AnyRequest.step cfg) n i f).state.db := by
  cases hi : n.threads[i]? with
  | none => rw [Node.stepThread_of_none _ hi]; exact .refl _
  | some r =>
    rw [Node.stepThread_of_get _ hi]
    have hr := h r (List.getElem?_mem hi)
    exact r.step_frame hsetup f n.state hr.2.2 hr.1

theorem runInv_stepThread {db₀ : Db} {n : Node AnyRequest} (h : RunInv cfg.settings db₀ n)
    (i : Nat) (f : Fault) :
    RunInv cfg.settings db₀ (Node.stepThread (AnyRequest.step cfg) n i f) := by
  have hfr := stepThread_frame hsetup h.current i f
  cases hi : n.threads[i]? with
  | none => rw [Node.stepThread_of_none _ hi]; exact h
  | some r =>
    have hlt : i < n.threads.length := (List.getElem?_eq_some_iff.1 hi).1
    have hcur := h.current r (List.getElem?_mem hi)
    rw [Node.stepThread_of_get _ hi] at hfr ⊢
    -- the community thread `i` holds after its step is apart from those the others hold
    have hnew : ∀ j d c d' c', j ≠ i → (r.step cfg f n.state).1.created = some (d, c) →
        n.threads[j]?.bind AnyRequest.created = some (d', c') → c.Apart c' := by
      intro j d c d' c' hji hc hc'
      rcases r.step_created cfg f n.state hcur d c hc with ⟨c₀, hc₀, he⟩ | ⟨-, hall, -⟩
      · exact (h.apart i j (Ne.symm hji) d c₀ d' c' (by simp [hi, hc₀]) hc').of_ident he rfl
      · obtain ⟨rj, hrj, hcj⟩ := Option.bind_eq_some.1 hc'
        exact (Community.Apart.of_mem_idents
          ((h.current rj (List.getElem?_mem hrj)).2.1 d' c' hcj).1 hall).symm
    refine ⟨h.person.trans hfr.person.prefix, hfr.localUser.trans h.localUser,
      h.idents.trans hfr.idents_prefix, fun r' hr' => ?_, fun j k hjk d c d' c' hj hk => ?_⟩
    · rcases List.mem_or_eq_of_mem_set hr' with hr' | rfl
      · exact (h.current r' hr').mono hfr.idents_prefix
      · exact r.step_current hsetup f n.state hcur hfr
    · obtain ⟨rj, hrj, hcj⟩ := Option.bind_eq_some.1 hj
      obtain ⟨rk, hrk, hck⟩ := Option.bind_eq_some.1 hk
      rcases Node.getElem?_set_eq_some hlt hrj with ⟨rfl, rfl⟩ | ⟨hji, hj'⟩ <;>
        rcases Node.getElem?_set_eq_some hlt hrk with ⟨rfl, rfl⟩ | ⟨hki, hk'⟩
      · exact absurd rfl hjk
      · exact hnew k d c d' c' hki hcj (by rw [hk']; exact hck)
      · exact (hnew j d' c' d c hji hck (by rw [hj']; exact hcj)).symm
      · exact h.apart j k hjk d c d' c' (by rw [hj']; exact hcj) (by rw [hk']; exact hck)

omit hsetup in
theorem runInv_start (s : State) (threads : List AnyRequest) (h : ∀ r ∈ threads, r.fresh) :
    RunInv cfg.settings s.db (Node.start s threads) := by
  refine ⟨List.prefix_refl _, rfl, List.prefix_refl _,
    fun r hr => AnyRequest.current_of_fresh (h r hr) _, fun i _ _ d c _ _ hi _ => ?_⟩
  obtain ⟨r, hr, hc⟩ := Option.bind_eq_some.1 hi
  rw [AnyRequest.created_of_fresh (h r (List.getElem?_mem hr))] at hc
  cases hc

theorem runInv_run (s : State) (threads : List AnyRequest) (h : ∀ r ∈ threads, r.fresh)
    (sched : List (Nat × Fault)) : RunInv cfg.settings s.db (serve cfg s threads sched) :=
  Node.run_inv _ (RunInv cfg.settings s.db) (fun _ i f h => runInv_stepThread hsetup h i f)
    (runInv_start s threads h) sched

end Runs

/-- In every run of requests that start fresh, on a node with no setup, two `CreateCommunity`
requests that have answered `Ok` asked for different names and created different communities:
two that both passed the read for the actor id are told apart by the unique constraint of the
insert. -/
theorem created_communities_differ (cfg : Config) (hsetup : cfg.setup = none) (s : State)
    (threads : List AnyRequest) (hthreads : ∀ r ∈ threads, r.fresh) (sched : List (Nat × Fault))
    {i j : Nat} (hij : i ≠ j) {d d' : CreateCommunity.Data} {c c' : Community}
    (hi : (serve cfg s threads sched).threads[i]? =
      some (.createCommunity d (.done (.ok c))))
    (hj : (serve cfg s threads sched).threads[j]? =
      some (.createCommunity d' (.done (.ok c')))) :
    d.name ≠ d'.name ∧ c.id ≠ c'.id := by
  have h := runInv_run hsetup s threads hthreads sched
  have hci := (h.current _ (List.getElem?_mem hi)).2.1 d c rfl
  have hcj := (h.current _ (List.getElem?_mem hj)).2.1 d' c' rfl
  have hap := h.apart i j hij d c d' c' (by rw [hi]; rfl) (by rw [hj]; rfl)
  exact ⟨fun he => hap.2 (hci.2.trans (he ▸ hcj.2.symm)), hap.1⟩

def createTech : CreateCommunity.Data := ⟨"tech", "Tech", none, none, none, false, 2⟩

def createsThreads : List AnyRequest :=
  [.createCommunity createMain .auth, .createCommunity createTech .auth]

def createsInterleaved : List (Nat × Fault) := (List.replicate 6 [(0, .ok), (1, .ok)]).flatten

def createsRun : Node AnyRequest :=
  serve createsConfig twoUsersState createsThreads createsInterleaved

def createdRow (d : CreateCommunity.Data) (id creatorId : Nat) : Community :=
  { id, name := d.name, title := d.title, description := d.description, creatorId,
    removed := false, deleted := false, nsfw := d.nsfw,
    actorId := generateApubEndpoint createsConfig.settings d.name, isLocal := true, icon := none,
    banner := none }

theorem main_and_tech_created_apart :
    createsConfig.setup = none ∧ (∀ r ∈ createsThreads, r.fresh) ∧ (0 : Nat) ≠ 1 ∧
      createsRun.threads[0]? =
        some (.createCommunity createMain (.done (.ok (createdRow createMain 1 1)))) ∧
      createsRun.threads[1]? =
        some (.createCommunity createTech (.done (.ok (createdRow createTech 2 2)))) ∧
      createMain.name ≠ createTech.name ∧
      (createdRow createMain 1 1).id ≠ (createdRow createTech 2 2).id :=
  have hf : ∀ r ∈ createsThreads, r.fresh := by decide
  have hi : createsRun.threads[0]? =
      some (.createCommunity createMain (.done (.ok (createdRow createMain 1 1)))) := by decide
  have hj : createsRun.threads[1]? =
      some (.createCommunity createTech (.done (.ok (createdRow createTech 2 2)))) := by decide
  ⟨rfl, hf, by decide, hi, hj, created_communities_differ createsConfig rfl twoUsersState
    createsThreads hf createsInterleaved (by decide) hi hj⟩

end Lemmy
