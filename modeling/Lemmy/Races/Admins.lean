import Lemmy.Races.Names

namespace Lemmy

def Db.admins (db : Db) : List Person :=
  db.person.rows.filter fun x => (db.localUser.find? x.id).any (·.admin)

def Db.IsAdmin (db : Db) (p : Nat) : Prop := ∃ x ∈ db.admins, x.id = p

instance isAdminDecidable (db : Db) (p : Nat) : Decidable (db.IsAdmin p) :=
  inferInstanceAs (Decidable (∃ x ∈ _, _))

def Db.CreatorsAdmin (db : Db) : Prop := ∀ p ∈ db.siteCreators, db.IsAdmin p

instance creatorsAdminDecidable (db : Db) : Decidable db.CreatorsAdmin :=
  inferInstanceAs (Decidable (∀ p ∈ db.siteCreators, _))

/-- The foreign key of `local_user.person_id`: every local user is a person of the table. -/
def Db.UsersArePersons (db : Db) : Prop := ∀ u ∈ db.localUser.rows, db.person.Has u.personId

instance usersArePersonsDecidable (db : Db) : Decidable db.UsersArePersons :=
  inferInstanceAs (Decidable (∀ u ∈ db.localUser.rows, _))

theorem Db.IsAdmin.congr {db db' : Db} (h : db'.admins = db.admins) {p : Nat} (hp : db.IsAdmin p) :
    db'.IsAdmin p := by
  unfold Db.IsAdmin
  rwa [h]

theorem Frame.admins_eq {w : Option Nat} {db db' : Db} (h : Frame w db db')
    (hu : db.UsersArePersons) : db'.admins = db.admins := by
  unfold Db.admins
  rw [h.localUser]
  rcases h.person with he | ⟨p, hp, he⟩
  · rw [he]
  · have hnone : db.localUser.find? p.id = none := by
      cases hf : db.localUser.find? p.id with
      | none => rfl
      | some u =>
        obtain ⟨hm, hid⟩ := Table.find?_eq_some hf
        obtain ⟨q, hq, hqid⟩ := (Table.has_iff _ _).1 (hu u hm)
        exact absurd (hqid.trans hid) (hp q hq).1
    simp [he, List.filter_append, hnone]

theorem Frame.usersArePersons {w : Option Nat} {db db' : Db} (h : Frame w db db')
    (hu : db.UsersArePersons) : db'.UsersArePersons := fun u hm => by
  rw [h.localUser] at hm
  exact (Table.has_iff _ _).2 (by
    obtain ⟨q, hq, hqid⟩ := (Table.has_iff _ _).1 (hu u hm)
    exact ⟨q, h.person.prefix.subset hq, hqid⟩)

theorem Db.isAdmin_of_token {auth : Nat} {f : Fault} {db : Db} {v : LocalUserView}
    (h : getLocalUserViewFromJwt auth f db = .ok v) (ha : isAdmin v = .ok ()) :
    db.IsAdmin v.person.id := by
  obtain ⟨hp, hu⟩ := getLocalUserViewFromJwt_eq_ok h
  obtain ⟨hmem, hid⟩ := Table.find?_eq_some hp
  have hadmin : v.localUser.admin = true := by
    unfold isAdmin at ha
    split at ha
    · assumption
    · cases ha
  exact ⟨v.person, List.mem_filter.2 ⟨hmem, by simp [hid, hu, hadmin]⟩, rfl⟩

namespace CreateSite

def Held (db : Db) : Pc → Prop
  | .create v => db.IsAdmin v.person.id
  | _ => True

theorem next_held (sf : SlurFilter) (d : Data) (pc : Pc) (f : Fault) (s : State) :
    ∀ v, (next sf d pc f s).1 = .create v → s.db.IsAdmin v.person.id := by
  cases pc with
  | auth =>
    simp only [next]
    split
    · rintro _ ⟨⟩
    · rename_i v hv
      split <;> rintro _ ⟨⟩
      exact Db.isAdmin_of_token hv ‹_›
  | _ => simp only [next]; (repeat' split) <;> rintro _ ⟨⟩

end CreateSite

namespace EditSite

def Held (db : Db) : Pc → Prop
  | .update found _ _ => db.IsAdmin found.creatorId
  | _ => True

theorem next_held (sf : SlurFilter) (parse : String → Option Url) (d : Data) (pc : Pc) (f : Fault)
    (s : State) :
    ∀ found i b, (next sf parse d pc f s).1 = .update found i b → found ∈ s.db.site.rows := by
  cases pc with
  | readSite =>
    simp only [next]
    split
    · rintro _ _ _ ⟨⟩
    · rename_i found db hq
      have hm := List.mem_of_mem_head? (Db.found_eq_ok.1 (blockingTry_eq_ok hq).2).1
      split <;> rintro _ _ _ ⟨⟩
      exact hm
  | _ => simp only [next]; (repeat' split) <;> rintro _ _ _ ⟨⟩

end EditSite

namespace GetSite

def CreatorHeads (sv : Option SiteView) (admins : List Person) : Prop :=
  ∀ x ∈ sv, admins.head?.map (·.id) = some x.creator.id

def Held (db : Db) : Pc → Prop
  | .readAdmins sv => ∀ x ∈ sv, db.IsAdmin x.creator.id
  | .readBanned sv admins | .myUser sv admins _ => CreatorHeads sv admins ∧ admins.Perm db.admins
  | .federated r | .done (.ok r) => CreatorHeads r.siteView r.admins ∧ r.admins.Perm db.admins
  | _ => True

theorem creator_admin_of_read {db db' : Db} {sv : SiteView} {db₀ : Db}
    (hc : ∀ p ∈ db.siteCreators, db₀.IsAdmin p) (hsv : SiteView.read db = .ok (sv, db')) :
    db₀.IsAdmin sv.creator.id := by
  simp only [SiteView.read, Db.found_eq_ok, Option.pure_def, Option.bind_eq_bind,
    Option.bind_eq_some, Option.some.injEq] at hsv
  obtain ⟨⟨site, hsite, c, hcr, rfl⟩, -⟩ := hsv
  rw [(Table.find?_eq_some hcr).2]
  exact hc _ (List.mem_map_of_mem _ (List.mem_of_mem_head? hsite))

theorem next_held (cfg : Config) (d : Data) (pc : Pc) (f : Fault) (s : State) {db₀ : Db}
    (ha : s.db.admins = db₀.admins) (hc : ∀ p ∈ s.db.siteCreators, db₀.IsAdmin p)
    (h : Held db₀ pc) : Held db₀ (next cfg d pc f s).1 := by
  cases pc with
  | readSite =>
    simp only [next]
    split
    · trivial
    · rintro x ⟨⟩
      exact creator_admin_of_read hc (blocking_eq_ok_ok ‹_›).2
    · split
      · trivial
      · rintro _ ⟨⟩
  | readCreated =>
    simp only [next]
    split
    · trivial
    · rintro x ⟨⟩
      exact creator_admin_of_read hc (blockingTry_eq_ok ‹_›).2
  | readAdmins sv =>
    simp only [next]
    split
    · trivial
    · rename_i admins db hq
      obtain ⟨rfl, -⟩ := Prod.mk.inj (Except.ok.inj (blockingTry_eq_ok hq).2)
      refine ⟨fun x hx => ?_, ?_⟩
      · cases hx
        exact creatorFirst_head ((h x rfl).congr ha)
      · rw [← ha]
        exact creatorFirst_perm sv _
  | readBanned sv admins | myUser sv admins banned | federated r =>
    simp only [next]
    split
    · trivial
    · exact h
  | done r => exact h
  | register _ | createSite _ _ => simp only [next]; (repeat' split) <;> trivial

end GetSite

namespace AnyRequest

def SiteHeld (db : Db) : AnyRequest → Prop
  | .request (.createSite _ pc) => CreateSite.Held db pc
  | .request (.editSite _ pc) => EditSite.Held db pc
  | .request (.transferSite d _) => db.IsAdmin d.personId
  | .getSite _ pc => GetSite.Held db pc
  | _ => True

theorem writesCreator_admin {db : Db} {r : AnyRequest} (h : r.SiteHeld db) :
    ∀ p, r.writesCreator = some p → db.IsAdmin p := by
  intro p hp
  cases r with
  | request r =>
    cases r with
    | createSite d pc => cases pc <;> cases hp; exact h
    | editSite d pc => cases pc <;> cases hp; exact h
    | transferSite d pc => cases pc <;> cases hp; exact h
    | _ => cases hp
  | _ => cases hp

theorem siteHeld_of_fresh {db : Db} {r : AnyRequest} (h : r.fresh)
    (ht : ∀ d pc, r = .request (.transferSite d pc) → db.IsAdmin d.personId) : r.SiteHeld db := by
  cases r with
  | request r =>
    cases r with
    | createSite d pc | editSite d pc =>
      simp only [fresh, decide_eq_true_eq] at h
      subst h
      trivial
    | transferSite d pc => exact ht d pc rfl
    | _ => trivial
  | getSite d pc =>
    simp only [fresh, decide_eq_true_eq] at h
    subst h
    trivial
  | _ => trivial

theorem step_siteHeld (cfg : Config) (r : AnyRequest) (f : Fault) (s : State) {db₀ : Db}
    (ha : s.db.admins = db₀.admins) (hc : ∀ p ∈ s.db.siteCreators, db₀.IsAdmin p)
    (h : r.SiteHeld db₀) : (r.step cfg f s).1.SiteHeld db₀ := by
  cases r with
  | request r =>
    cases r with
    | createSite d pc =>
      show CreateSite.Held db₀ (CreateSite.next cfg.slurs d pc f s).1
      cases hpc : (CreateSite.next cfg.slurs d pc f s).1 with
      | create v => exact (CreateSite.next_held cfg.slurs d pc f s v hpc).congr ha.symm
      | _ => trivial
    | editSite d pc =>
      show EditSite.Held db₀ (EditSite.next cfg.slurs cfg.urlParse d pc f s).1
      cases hpc : (EditSite.next cfg.slurs cfg.urlParse d pc f s).1 with
      | update found i b =>
        exact hc _ (List.mem_map_of_mem _ (EditSite.next_held _ _ d pc f s found i b hpc))
      | _ => trivial
    | transferSite d pc => exact h
    | _ => trivial
  | getSite d pc => exact GetSite.next_held cfg d pc f s ha hc h
  | _ => trivial

end AnyRequest

/-- What holds after every step of a run from the store `db₀` in which every transfer of the site
names an admin: the admins are those of `db₀`, every local user is a person, every site's
creator is an admin, and every request holds what `SiteHeld` says. -/
structure AdminInv (db₀ : Db) (n : Node AnyRequest) : Prop where
  admins : n.state.db.admins = db₀.admins
  users : n.state.db.UsersArePersons
  creators : ∀ p ∈ n.state.db.siteCreators, db₀.IsAdmin p
  held : ∀ r ∈ n.threads, r.SiteHeld db₀

theorem adminInv_stepThread {cfg : Config} (hsetup : cfg.setup = none) {db₀ : Db}
    {n : Node AnyRequest} (hrun : RunInv cfg.settings db₀ n) (h : AdminInv db₀ n) (i : Nat)
    (f : Fault) : AdminInv db₀ (Node.stepThread (AnyRequest.step cfg) n i f) := by
  have hfr := stepThread_frame hsetup hrun.current i f
  cases hi : n.threads[i]? with
  | none => rw [Node.stepThread_of_none _ hi]; exact h
  | some r =>
    have hr := h.held r (List.getElem?_mem hi)
    rw [hi] at hfr
    rw [Node.stepThread_of_get _ hi] at hfr ⊢
    refine ⟨(hfr.admins_eq h.users).trans h.admins, hfr.usersArePersons h.users,
      fun p hp => ?_, fun r' hr' => ?_⟩
    · rcases hfr.creators p hp with hp | hw
      · exact h.creators p hp
      · exact r.writesCreator_admin hr p hw
    · rcases List.mem_or_eq_of_mem_set hr' with hr' | rfl
      · exact h.held r' hr'
      · exact r.step_siteHeld cfg f n.state h.admins h.creators hr

theorem adminInv_start (s : State) (threads : List AnyRequest) (hc : s.db.CreatorsAdmin)
    (hu : s.db.UsersArePersons) (h : ∀ r ∈ threads, r.fresh)
    (ht : ∀ d pc, .request (.transferSite d pc) ∈ threads → s.db.IsAdmin d.personId) :
    AdminInv s.db (Node.start s threads) :=
  ⟨rfl, hu, hc, fun r hr => AnyRequest.siteHeld_of_fresh (h r hr) fun d pc he =>
    ht d pc (he ▸ hr)⟩

/-- In every run of requests that start fresh, on a node with no setup and a store where every
local user is a person and every site's creator is an admin, if every `TransferSite` names an
admin then every site's creator stays an admin, and every `GetSite` that has answered `Ok` lists
all the admins, each once, with the creator of the site it read first. -/
theorem site_creator_stays_admin (cfg : Config) (hsetup : cfg.setup = none) (s : State)
    (threads : List AnyRequest) (hthreads : ∀ r ∈ threads, r.fresh) (hu : s.db.UsersArePersons)
    (hc : s.db.CreatorsAdmin)
    (ht : ∀ d pc, .request (.transferSite d pc) ∈ threads → s.db.IsAdmin d.personId)
    (sched : List (Nat × Fault)) :
    (serve cfg s threads sched).state.db.CreatorsAdmin ∧
      ∀ d r, .getSite d (.done (.ok r)) ∈ (serve cfg s threads sched).threads →
        (∀ sv ∈ r.siteView, r.admins.head?.map (·.id) = some sv.creator.id) ∧
        r.admins.Perm (serve cfg s threads sched).state.db.admins := by
  have h := Node.run_inv (AnyRequest.step cfg)
    (fun n => RunInv cfg.settings s.db n ∧ AdminInv s.db n)
    (fun _ i f h => ⟨runInv_stepThread hsetup h.1 i f, adminInv_stepThread hsetup h.1 h.2 i f⟩)
    ⟨runInv_start s threads hthreads, adminInv_start s threads hc hu hthreads ht⟩ sched
  obtain ⟨-, ha, -, hcr, hheld⟩ := h
  refine ⟨fun p hp' => (hcr p hp').congr ha, fun d r hr => ?_⟩
  rw [serve, ha]
  exact hheld _ hr

def siteThreads : List AnyRequest :=
  [.request (.createSite ⟨"Site", none, none, none, true, true, true, 1⟩ .readSite),
    .getSite ⟨none⟩ .readSite]

def siteSched : List (Nat × Fault) := List.replicate 4 (0, .ok) ++ List.replicate 5 (1, .ok)

def siteRun : Node AnyRequest := serve createsConfig twoUsersState siteThreads siteSched

def aliceSite : Site := ⟨1, "Site", none, 1, true, true, true, none, none⟩

theorem alice_heads_admins :
    createsConfig.setup = none ∧ (∀ r ∈ siteThreads, r.fresh) ∧
      twoUsersState.db.UsersArePersons ∧ twoUsersState.db.CreatorsAdmin ∧
      (∀ d pc, .request (.transferSite d pc) ∈ siteThreads →
        twoUsersState.db.IsAdmin d.personId) ∧
      siteRun.threads[1]? =
        some (.getSite ⟨none⟩ (.done (.ok ⟨some ⟨aliceSite, siteAlice⟩, [siteAlice], [], none⟩))) ∧
      siteRun.state.db.CreatorsAdmin ∧
      ∀ d r, .getSite d (.done (.ok r)) ∈ siteRun.threads →
        (∀ sv ∈ r.siteView, r.admins.head?.map (·.id) = some sv.creator.id) ∧
        r.admins.Perm siteRun.state.db.admins :=
  have hf : ∀ r ∈ siteThreads, r.fresh := by decide
  have hu : twoUsersState.db.UsersArePersons := by decide
  have hc : twoUsersState.db.CreatorsAdmin := by decide
  have ht : ∀ d pc, .request (.transferSite d pc) ∈ siteThreads →
      twoUsersState.db.IsAdmin d.personId := fun d pc h => by simp [siteThreads] at h
  ⟨rfl, hf, hu, hc, ht, by decide,
    site_creator_stays_admin createsConfig rfl twoUsersState siteThreads hf hu hc ht siteSched⟩

end Lemmy
