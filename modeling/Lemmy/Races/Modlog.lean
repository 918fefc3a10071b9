import Lemmy.Races.Names

namespace Lemmy

theorem getLocalUserViewFromJwt_person {auth : Nat} {f : Fault} {db : Db} {v : LocalUserView}
    (h : getLocalUserViewFromJwt auth f db = .ok v) : v.person.id = auth :=
  (Table.find?_eq_some (getLocalUserViewFromJwt_eq_ok h).1).2

theorem mem_modlog_of_create {e x : ModlogEntry} {f : Fault} {db db' : Db}
    (h : blockingTry f (ModlogEntry.create e) db = .ok (x, db')) : e ∈ db'.modlog := by
  rw [ModlogEntry.create_db (blockingTry_eq_ok h).2]
  exact List.mem_append_right _ (.head _)

namespace BanFromCommunity

def entry (d : Data) : ModlogEntry := .banFromCommunity d.auth d.personId d.communityId d.ban

def Logged (d : Data) (log : List ModlogEntry) : Pc → Prop
  | .checkMod v | .ban v | .unfollow v | .unban v | .removePosts v | .listComments v
  | .removeComments v _ | .modlog v => v.person.id = d.auth
  | .readPerson | .done (.ok ()) => entry d ∈ log
  | _ => True

theorem Logged.mono {d : Data} {log log' : List ModlogEntry} (hp : log <+: log') {pc : Pc}
    (h : Logged d log pc) : Logged d log' pc := by
  cases pc with
  | readPerson => exact hp.subset h
  | done r => rcases r with _ | ⟨⟨⟩⟩; trivial; exact hp.subset h
  | _ => exact h

theorem next_logged (d : Data) (pc : Pc) (f : Fault) (s : State) (h : Logged d s.db.modlog pc) :
    Logged d (next d pc f s).2.db.modlog (next d pc f s).1 := by
  cases pc with
  | auth =>
    simp only [next]
    split
    · trivial
    · exact getLocalUserViewFromJwt_person ‹_›
  | modlog v =>
    simp only [next]
    split
    · trivial
    · have hm := mem_modlog_of_create ‹_›
      rwa [h] at hm
  | readPerson =>
    simp only [next]
    split
    · trivial
    · exact h
  | done r => exact h
  | ban v | unban v | checkMod v | unfollow v | removePosts v | listComments v =>
    simp only [next, afterBan]
    (repeat' split) <;> trivial
  | removeComments v cs =>
    cases cs with
    | nil => exact h
    | cons c cs => simp only [next]; split <;> trivial

end BanFromCommunity

namespace RemoveCommunity

def entry (d : Data) : ModlogEntry := .removeCommunity d.auth d.communityId d.removed

def Logged (d : Data) (log : List ModlogEntry) : Pc → Prop
  | .update v | .modlog v => v.person.id = d.auth
  | .send | .readView | .done (.ok ()) => entry d ∈ log
  | _ => True

theorem Logged.mono {d : Data} {log log' : List ModlogEntry} (hp : log <+: log') {pc : Pc}
    (h : Logged d log pc) : Logged d log' pc := by
  cases pc with
  | send | readView => exact hp.subset h
  | done r => rcases r with _ | ⟨⟨⟩⟩; trivial; exact hp.subset h
  | _ => exact h

theorem next_logged (d : Data) (pc : Pc) (f : Fault) (s : State) (h : Logged d s.db.modlog pc) :
    Logged d (next d pc f s).2.db.modlog (next d pc f s).1 := by
  cases pc with
  | auth =>
    simp only [next]
    split
    · trivial
    · split
      · trivial
      · exact getLocalUserViewFromJwt_person ‹_›
  | modlog v =>
    simp only [next]
    split
    · trivial
    · have hm := mem_modlog_of_create ‹_›
      rwa [h] at hm
  | send => simp only [next]; split <;> trivial
  | readView | update v => simp only [next]; (repeat' split) <;> trivial
  | done r => exact h

end RemoveCommunity

namespace AddModToCommunity

def entry (d : Data) : ModlogEntry := .addCommunity d.auth d.personId d.communityId !d.added

def Logged (d : Data) (log : List ModlogEntry) : Pc → Prop
  | .checkMod v | .join v | .leave v | .modlog v => v.person.id = d.auth
  | .readMods | .done (.ok ()) => entry d ∈ log
  | _ => True

theorem Logged.mono {d : Data} {log log' : List ModlogEntry} (hp : log <+: log') {pc : Pc}
    (h : Logged d log pc) : Logged d log' pc := by
  cases pc with
  | readMods => exact hp.subset h
  | done r => rcases r with _ | ⟨⟨⟩⟩; trivial; exact hp.subset h
  | _ => exact h

theorem next_logged (d : Data) (pc : Pc) (f : Fault) (s : State) (h : Logged d s.db.modlog pc) :
    Logged d (next d pc f s).2.db.modlog (next d pc f s).1 := by
  cases pc with
  | auth =>
    simp only [next]
    split
    · trivial
    · exact getLocalUserViewFromJwt_person ‹_›
  | modlog v =>
    simp only [next]
    split
    · trivial
    · have hm := mem_modlog_of_create ‹_›
      rwa [h] at hm
  | done r => exact h
  | _ => simp only [next]; (repeat' split) <;> trivial

end AddModToCommunity

namespace TransferCommunity

def entry (d : Data) : ModlogEntry := .addCommunity d.auth d.personId d.communityId false

def Logged (d : Data) (log : List ModlogEntry) : Pc → Prop
  | .readCommunity v | .readSiteCreator v _ | .readAdmins v _ _ | .updateCreator v | .readMods v
  | .deleteMods v _ | .rejoin v _ | .modlog v => v.person.id = d.auth
  | .readView | .readModerators | .done (.ok ()) => entry d ∈ log
  | _ => True

theorem Logged.mono {d : Data} {log log' : List ModlogEntry} (hp : log <+: log') {pc : Pc}
    (h : Logged d log pc) : Logged d log' pc := by
  cases pc with
  | readView | readModerators => exact hp.subset h
  | done r => rcases r with _ | ⟨⟨⟩⟩; trivial; exact hp.subset h
  | _ => exact h

theorem next_logged (d : Data) (pc : Pc) (f : Fault) (s : State) (h : Logged d s.db.modlog pc) :
    Logged d (next d pc f s).2.db.modlog (next d pc f s).1 := by
  cases pc with
  | auth =>
    simp only [next]
    split
    · trivial
    · exact getLocalUserViewFromJwt_person ‹_›
  | modlog v =>
    simp only [next]
    split
    · trivial
    · have hm := mem_modlog_of_create ‹_›
      rwa [h] at hm
  | rejoin v ms =>
    cases ms with
    | nil => exact h
    | cons m ms => simp only [next]; split <;> trivial
  | done r => exact h
  | _ => simp only [next]; (repeat' split) <;> trivial

end TransferCommunity

namespace TransferSite

def entry (d : Data) : ModlogEntry := .add d.auth d.personId false

def Logged (d : Data) (log : List ModlogEntry) : Pc → Prop
  | .readSite v | .transfer v | .modlog v => v.person.id = d.auth
  | .readView | .readAdmins _ | .readRest | .done (.ok ()) => entry d ∈ log
  | _ => True

theorem Logged.mono {d : Data} {log log' : List ModlogEntry} (hp : log <+: log') {pc : Pc}
    (h : Logged d log pc) : Logged d log' pc := by
  cases pc with
  | readView | readAdmins _ | readRest => exact hp.subset h
  | done r => rcases r with _ | ⟨⟨⟩⟩; trivial; exact hp.subset h
  | _ => exact h

theorem next_logged (d : Data) (pc : Pc) (f : Fault) (s : State) (h : Logged d s.db.modlog pc) :
    Logged d (next d pc f s).2.db.modlog (next d pc f s).1 := by
  cases pc with
  | auth =>
    simp only [next]
    split
    · trivial
    · split
      · trivial
      · exact getLocalUserViewFromJwt_person ‹_›
  | modlog v =>
    simp only [next]
    split
    · trivial
    · have hm := mem_modlog_of_create ‹_›
      rwa [h] at hm
  | done r => exact h
  | _ => simp only [next]; (repeat' split) <;> trivial

end TransferSite

namespace AnyRequest

def Logged (log : List ModlogEntry) : AnyRequest → Prop
  | .request (.banFromCommunity d pc) => BanFromCommunity.Logged d log pc
  | .request (.removeCommunity d pc) => RemoveCommunity.Logged d log pc
  | .request (.addModToCommunity d pc) => AddModToCommunity.Logged d log pc
  | .request (.transferCommunity d pc) => TransferCommunity.Logged d log pc
  | .request (.transferSite d pc) => TransferSite.Logged d log pc
  | _ => True

theorem Logged.mono {log log' : List ModlogEntry} (hp : log <+: log') {r : AnyRequest}
    (h : r.Logged log) : r.Logged log' := by
  cases r with
  | request r =>
    cases r with
    | banFromCommunity d pc => exact BanFromCommunity.Logged.mono hp h
    | removeCommunity d pc => exact RemoveCommunity.Logged.mono hp h
    | addModToCommunity d pc => exact AddModToCommunity.Logged.mono hp h
    | transferCommunity d pc => exact TransferCommunity.Logged.mono hp h
    | transferSite d pc => exact TransferSite.Logged.mono hp h
    | _ => trivial
  | _ => trivial

theorem logged_of_fresh {r : AnyRequest} (h : r.fresh) (log : List ModlogEntry) : r.Logged log := by
  cases r with
  | request r =>
    cases r with
    | banFromCommunity d pc | removeCommunity d pc | addModToCommunity d pc
    | transferCommunity d pc | transferSite d pc =>
      simp only [fresh, decide_eq_true_eq] at h
      subst h
      trivial
    | _ => trivial
  | _ => trivial

theorem step_logged (cfg : Config) (r : AnyRequest) (f : Fault) (s : State)
    (h : r.Logged s.db.modlog) : (r.step cfg f s).1.Logged (r.step cfg f s).2.db.modlog := by
  cases r with
  | request r =>
    cases r with
    | banFromCommunity d pc => exact BanFromCommunity.next_logged d pc f s h
    | removeCommunity d pc => exact RemoveCommunity.next_logged d pc f s h
    | addModToCommunity d pc => exact AddModToCommunity.next_logged d pc f s h
    | transferCommunity d pc => exact TransferCommunity.next_logged d pc f s h
    | transferSite d pc => exact TransferSite.next_logged d pc f s h
    | _ => trivial
  | _ => trivial

end AnyRequest

structure LogInv (settings : Settings) (db₀ : Db) (n : Node AnyRequest) : Prop where
  run : RunInv settings db₀ n
  log : db₀.modlog <+: n.state.db.modlog
  logged : ∀ r ∈ n.threads, r.Logged n.state.db.modlog

theorem logInv_stepThread {cfg : Config} (hsetup : cfg.setup = none) {db₀ : Db}
    {n : Node AnyRequest} (h : LogInv cfg.settings db₀ n) (i : Nat) (f : Fault) :
    LogInv cfg.settings db₀ (Node.stepThread (AnyRequest.step cfg) n i f) := by
  have hfr := stepThread_frame hsetup h.run.current i f
  refine ⟨runInv_stepThread hsetup h.run i f, h.log.trans hfr.modlog, ?_⟩
  cases hi : n.threads[i]? with
  | none => rw [Node.stepThread_of_none _ hi]; exact h.logged
  | some r =>
    rw [Node.stepThread_of_get _ hi] at hfr ⊢
    intro r' hr'
    rcases List.mem_or_eq_of_mem_set hr' with hr' | rfl
    · exact (h.logged r' hr').mono hfr.modlog
    · exact r.step_logged cfg f n.state (h.logged r (List.getElem?_mem hi))

/-- In every run of requests that start fresh on a node with no setup, the moderation log only
grows, and each moderation request that has answered `Ok` has its entry in it, naming the person
of its token as the moderator. -/
theorem ok_moderation_logged (cfg : Config) (hsetup : cfg.setup = none) (s : State)
    (threads : List AnyRequest) (hthreads : ∀ r ∈ threads, r.fresh) (sched : List (Nat × Fault)) :
    s.db.modlog <+: (serve cfg s threads sched).state.db.modlog ∧
      (∀ d, .request (.banFromCommunity d (.done (.ok ()))) ∈ (serve cfg s threads sched).threads →
        BanFromCommunity.entry d ∈ (serve cfg s threads sched).state.db.modlog) ∧
      (∀ d, .request (.removeCommunity d (.done (.ok ()))) ∈ (serve cfg s threads sched).threads →
        RemoveCommunity.entry d ∈ (serve cfg s threads sched).state.db.modlog) ∧
      (∀ d, .request (.addModToCommunity d (.done (.ok ()))) ∈
          (serve cfg s threads sched).threads →
        AddModToCommunity.entry d ∈ (serve cfg s threads sched).state.db.modlog) ∧
      (∀ d, .request (.transferCommunity d (.done (.ok ()))) ∈
          (serve cfg s threads sched).threads →
        TransferCommunity.entry d ∈ (serve cfg s threads sched).state.db.modlog) ∧
      ∀ d, .request (.transferSite d (.done (.ok ()))) ∈ (serve cfg s threads sched).threads →
        TransferSite.entry d ∈ (serve cfg s threads sched).state.db.modlog := by
  have h : LogInv cfg.settings s.db (serve cfg s threads sched) :=
    Node.run_inv _ (LogInv cfg.settings s.db) (fun _ i f h => logInv_stepThread hsetup h i f)
      ⟨runInv_start s threads hthreads, List.prefix_refl _,
        fun r hr => AnyRequest.logged_of_fresh (hthreads r hr) _⟩ sched
  exact ⟨h.log, fun d hd => h.logged _ hd, fun d hd => h.logged _ hd, fun d hd => h.logged _ hd,
    fun d hd => h.logged _ hd, fun d hd => h.logged _ hd⟩

def banBobFromMain : BanFromCommunity.Data := ⟨1, 2, true, false, 1⟩

def banBobRun : Node AnyRequest :=
  serve createsConfig createsRun.state [.request (.banFromCommunity banBobFromMain .auth)]
    (List.replicate 6 (0, .ok))

theorem ban_bob_logged :
    createsConfig.setup = none ∧
      (∀ r ∈ [AnyRequest.request (.banFromCommunity banBobFromMain .auth)], r.fresh) ∧
      .request (.banFromCommunity banBobFromMain (.done (.ok ()))) ∈ banBobRun.threads ∧
      BanFromCommunity.entry banBobFromMain ∈ banBobRun.state.db.modlog :=
  have hf : ∀ r ∈ [AnyRequest.request (.banFromCommunity banBobFromMain .auth)], r.fresh := by
    decide
  have hd : .request (.banFromCommunity banBobFromMain (.done (.ok ()))) ∈ banBobRun.threads := by
    decide
  ⟨rfl, hf, hd, (ok_moderation_logged createsConfig rfl createsRun.state _ hf _).2.1 _ hd⟩

end Lemmy
