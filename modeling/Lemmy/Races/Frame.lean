import Lemmy.Serve
import Lemmy.Apub.InboxSteps

namespace Lemmy

def Community.ident (c : Community) : Nat × String × Url := (c.id, c.name, c.actorId)

def Community.Apart (c c' : Community) : Prop := c.id ≠ c'.id ∧ c.actorId ≠ c'.actorId

def Db.idents (db : Db) : List (Nat × String × Url) := db.community.rows.map Community.ident

def Db.PersonsGrow (db db' : Db) : Prop :=
  db'.person.rows = db.person.rows ∨
    ∃ p, (∀ q ∈ db.person.rows, q.id ≠ p.id ∧ q.actorId ≠ p.actorId) ∧
      db'.person.rows = db.person.rows ++ [p]

theorem blocking_db {α : Type} {f : Fault} {q : Db → Except DbError (α × Db)} {db db' : Db}
    {r : Except DbError α} (h : blocking f q db = .ok (r, db')) :
    db' = db ∨ ∃ a, q db = .ok (a, db') := by
  rcases @blocking_cases α q db f with h' | ⟨e, h'⟩ | ⟨a, db'', hq, h'⟩
  · rw [h'] at h; cases h
  · rw [h'] at h; cases h; exact .inl rfl
  · rw [h'] at h; cases h; exact .inr ⟨a, hq⟩

def Db.siteCreators (db : Db) : List Nat := db.site.rows.map (·.creatorId)

def Db.watched (db : Db) :
    Table Person.id × Table LocalUser.personId × Table Community.id × Table Site.id ×
      List ModlogEntry :=
  (db.person, db.localUser, db.community, db.site, db.modlog)

/-- A step from `db` to `db'` that may write `w` as a site's creator: the persons grow by at most
one new person, the local users are kept, the communities' identities are kept or one community
apart from all is appended, every site's creator is one the store had or `w`, and the log only
grows. -/
structure Frame (w : Option Nat) (db db' : Db) : Prop where
  person : db.PersonsGrow db'
  localUser : db'.localUser = db.localUser
  idents : db'.idents = db.idents ∨
    ∃ c, (∀ r ∈ db.community.rows, r.Apart c) ∧ db'.idents = db.idents ++ [c.ident]
  creators : ∀ p ∈ db'.siteCreators, p ∈ db.siteCreators ∨ w = some p
  modlog : db.modlog <+: db'.modlog

namespace Frame

variable {w : Option Nat}

theorem refl (db : Db) : Frame w db db :=
  ⟨.inl rfl, rfl, .inl rfl, fun _ h => .inl h, List.prefix_refl _⟩

theorem keep {db db' : Db} (h : db'.watched = db.watched) : Frame w db db' := by
  simp only [Db.watched, Prod.mk.injEq] at h
  obtain ⟨hp, hl, hc, hs, hm⟩ := h
  refine ⟨.inl (by rw [hp]), hl, .inl (by rw [Db.idents, hc]; rfl), fun p hp' => .inl ?_,
    hm ▸ List.prefix_refl _⟩
  rwa [Db.siteCreators, hs] at hp'

theorem idents_prefix {db db' : Db} (h : Frame w db db') : db.idents <+: db'.idents := by
  rcases h.idents with h | ⟨c, -, h⟩
  · exact h ▸ List.prefix_refl _
  · exact h ▸ List.prefix_append _ _

theorem of_blocking {α : Type} {f : Fault} {q : Db → Except DbError (α × Db)} {db db' : Db}
    {r : Except DbError α} (hq : ∀ a db', q db = .ok (a, db') → Frame w db db')
    (h : blocking f q db = .ok (r, db')) : Frame w db db' := by
  rcases blocking_db h with rfl | ⟨a, h⟩
  · exact refl _
  · exact hq a _ h

theorem of_blockingTry {α : Type} {f : Fault} {q : Db → Except DbError (α × Db)} {db db' : Db}
    {a : α} (hq : ∀ a db', q db = .ok (a, db') → Frame w db db')
    (h : blockingTry f q db = .ok (a, db')) : Frame w db db' :=
  hq a _ (blockingTry_eq_ok h).2

theorem of_modlog {e : ModlogEntry} {db : Db} :
    ∀ x db', ModlogEntry.create e db = .ok (x, db') → Frame w db db' := by
  rintro x db' h
  obtain rfl := ModlogEntry.create_db h
  exact ⟨.inl rfl, rfl, .inl rfl, fun _ h => .inl h, List.prefix_append _ _⟩

theorem of_set {k : Nat} {g : Community → Community} {hg : ∀ c, (g c).id = c.id} {db : Db}
    (hkeep : ∀ r ∈ db.community.rows, r.id = k → (g r).ident = r.ident) :
    ∀ c db', Community.set k g hg db = .ok (c, db') → Frame w db db' := by
  rintro c db' h
  rw [Community.set_eq_ok h]
  exact ⟨.inl rfl, rfl, .inl (@Table.map_updateKey _ _ _ _ _ _ _ _ hg _ hkeep), fun _ h => .inl h,
    List.prefix_refl _⟩

theorem of_set_status {k : Nat} {g : Community → Community} {hg : ∀ c, (g c).id = c.id}
    {db : Db} (hkeep : ∀ r, (g r).name = r.name ∧ (g r).actorId = r.actorId) :
    ∀ c db', Community.set k g hg db = .ok (c, db') → Frame w db db' :=
  of_set fun r _ _ => by simp [Community.ident, hg, hkeep]

theorem of_updateDeleted {k : Nat} {b : Bool} {db : Db} :
    ∀ c db', Community.updateDeleted k b db = .ok (c, db') → Frame w db db' :=
  of_set_status fun _ => ⟨rfl, rfl⟩

theorem of_updateRemoved {k : Nat} {b : Bool} {db : Db} :
    ∀ c db', Community.updateRemoved k b db = .ok (c, db') → Frame w db db' :=
  of_set_status fun _ => ⟨rfl, rfl⟩

theorem of_updateCreator {k p : Nat} {db : Db} :
    ∀ c db', Community.updateCreator k p db = .ok (c, db') → Frame w db db' :=
  of_set_status fun _ => ⟨rfl, rfl⟩

theorem of_create {form : CommunityForm} {db : Db} :
    ∀ c db', Community.create form db = .ok (c, db') → Frame w db db' := by
  rintro c db' h
  obtain ⟨-, -, -, hnew, hdb, hrows⟩ := Community.create_eq_ok h
  rw [hdb]
  exact ⟨.inl rfl, rfl, .inr ⟨c, hnew, by simp [Db.idents, hrows]⟩, fun _ h => .inl h,
    List.prefix_refl _⟩

theorem of_persisted {x : Url} {db db' : Db} (h : Persisted x db db') : Frame w db db' := by
  cases h with
  | cached => exact refl _
  | person hid hp _ hx hrows =>
    refine ⟨.inr ⟨_, fun q hq => ⟨hid q hq, hx ▸ hp q hq⟩, hrows⟩, rfl, .inl rfl,
      fun _ h => .inl h, List.prefix_refl _⟩
  | community hid _ hc hx hrows =>
    refine ⟨.inl rfl, rfl, .inr ⟨_, fun r hr => ⟨hid r hr, hx ▸ hc r hr⟩, ?_⟩, fun _ h => .inl h,
      List.prefix_refl _⟩
    simp [Db.idents, hrows]

theorem of_keep {α : Type} {q : Db → Except DbError (α × Db)} {db : Db}
    (hq : ∀ a db', q db = .ok (a, db') → db'.watched = db.watched) :
    ∀ a db', q db = .ok (a, db') → Frame w db db' := fun a db' h =>
  keep (hq a db' h)

theorem of_follow {form : CommunityFollowerForm} {db : Db} :
    ∀ r db', CommunityFollower.follow form db = .ok (r, db') → Frame w db db' :=
  of_keep fun _ _ h => by rw [CommunityFollower.follow_db h]; rfl

theorem of_join {form : CommunityModerator} {db : Db} :
    ∀ r db', CommunityModerator.join form db = .ok (r, db') → Frame w db db' :=
  of_keep fun _ _ h => by rw [CommunityModerator.join_db h]; rfl

theorem of_unfollow {form : CommunityFollowerForm} {db : Db} :
    ∀ r db', CommunityFollower.unfollow form db = .ok (r, db') → Frame w db db' :=
  of_keep fun _ _ h => by cases h; rfl

theorem of_leave {form : CommunityModerator} {db : Db} :
    ∀ r db', CommunityModerator.leave form db = .ok (r, db') → Frame w db db' :=
  of_keep fun _ _ h => by cases h; rfl

theorem of_deleteForCommunity {k : Nat} {db : Db} :
    ∀ r db', CommunityModerator.deleteForCommunity k db = .ok (r, db') → Frame w db db' :=
  of_keep fun _ _ h => by cases h; rfl

theorem of_ban {form : CommunityPersonBan} {db : Db} :
    ∀ r db', CommunityPersonBan.ban form db = .ok (r, db') → Frame w db db' :=
  of_keep fun _ _ h => by
    unfold CommunityPersonBan.ban at h
    split at h <;> cases h
    rfl

theorem of_unban {form : CommunityPersonBan} {db : Db} :
    ∀ r db', CommunityPersonBan.unban form db = .ok (r, db') → Frame w db db' :=
  of_keep fun _ _ h => by cases h; rfl

theorem of_updateRemovedForCreator {p : Nat} {k : Option Nat} {b : Bool} {db : Db} :
    ∀ r db', Post.updateRemovedForCreator p k b db = .ok (r, db') → Frame w db db' :=
  of_keep fun _ _ h => by cases h; rfl

theorem of_commentUpdateRemoved {id : Nat} {b : Bool} {db : Db} :
    ∀ r db', Comment.updateRemoved id b db = .ok (r, db') → Frame w db db' :=
  of_keep fun _ _ h => by rw [Comment.updateRemoved_db h]; rfl

theorem of_siteCreate {form : SiteForm} {db : Db} :
    ∀ r db', Site.create form db = .ok (r, db') → Frame (some form.creatorId) db db' := by
  rintro r db' h
  unfold Site.create at h
  dsimp only at h
  split at h <;> cases h
  rename_i t ht
  refine ⟨.inl rfl, rfl, .inl rfl, fun p hp => ?_, List.prefix_refl _⟩
  simp only [Db.siteCreators, (Table.insert_eq_some ht).2, List.map_append, List.mem_append,
    List.map_cons, List.map_nil, List.mem_singleton] at hp
  exact hp.imp_right fun h => congrArg some h.symm

theorem of_siteSet {k c : Nat} {g : Site → Site} {hg : ∀ s, (g s).id = s.id} {db : Db}
    (hc : ∀ s, (g s).creatorId = c) :
    ∀ r db', Site.set k g hg db = .ok (r, db') → Frame (some c) db db' := by
  rintro r db' h
  rw [Site.set_eq_ok h]
  refine ⟨.inl rfl, rfl, .inl rfl, fun p hp => ?_, List.prefix_refl _⟩
  simp only [Db.siteCreators, Table.updateKey_rows, List.map_map, List.mem_map,
    Function.comp] at hp
  obtain ⟨x, hx, rfl⟩ := hp
  split
  · exact .inr (by rw [hc])
  · exact .inl (List.mem_map_of_mem _ hx)

theorem of_siteUpdate {k : Nat} {form : SiteForm} {db : Db} :
    ∀ r db', Site.update k form db = .ok (r, db') → Frame (some form.creatorId) db db' :=
  of_siteSet fun _ => rfl

theorem of_siteTransfer {p : Nat} {db : Db} :
    ∀ r db', Site.transfer p db = .ok (r, db') → Frame (some p) db db' := fun r db' h => by
  unfold Site.transfer at h
  split at h
  · exact of_siteSet (g := ({ · with creatorId := p })) (fun _ => rfl) r db' h
  · cases h

end Frame

theorem ident_eq_of_mem {db : Db} {c r : Community} (hc : c.ident ∈ db.idents)
    (hr : r ∈ db.community.rows) (hid : r.id = c.id) : r.ident = c.ident := by
  obtain ⟨r', hr', he⟩ := List.mem_map.1 hc
  rw [← Table.eq_of_key_eq hr' hr ((congrArg Prod.fst he).trans hid.symm), he]

section Steps

variable {w : Option Nat}

namespace FollowCommunity

theorem next_frame (d : Data) (pc : Pc) (f : Fault) (s : State) :
    Frame w s.db (next d pc f s).2.db := by
  cases pc with
  | follow v =>
    simp only [next]
    split
    · exact .refl _
    · exact .refl _
    · exact .of_blocking .of_follow ‹_›
  | unfollow v =>
    simp only [next]
    split
    · exact .refl _
    · exact .refl _
    · exact .of_blocking .of_unfollow ‹_›
  | _ => simp only [next]; (repeat' split) <;> exact .refl _

end FollowCommunity

namespace BanFromCommunity

theorem next_frame (d : Data) (pc : Pc) (f : Fault) (s : State) :
    Frame w s.db (next d pc f s).2.db := by
  cases pc with
  | ban v =>
    simp only [next]
    split
    · exact .refl _
    · exact .refl _
    · exact .of_blocking .of_ban ‹_›
  | unfollow v =>
    simp only [next]
    split
    · exact .refl _
    · exact .of_blocking .of_unfollow ‹_›
  | unban v =>
    simp only [next]
    split
    · exact .refl _
    · exact .refl _
    · exact .of_blocking .of_unban ‹_›
  | removePosts v =>
    simp only [next]
    split
    · exact .refl _
    · exact .of_blockingTry .of_updateRemovedForCreator ‹_›
  | removeComments v cs =>
    cases cs with
    | nil => exact .refl _
    | cons c cs =>
      simp only [next]
      split
      · exact .refl _
      · exact .of_blockingTry .of_commentUpdateRemoved ‹_›
  | modlog v =>
    simp only [next]
    split
    · exact .refl _
    · exact .of_blockingTry .of_modlog ‹_›
  | _ => simp only [next]; (repeat' split) <;> exact .refl _

end BanFromCommunity

namespace EditCommunity

theorem next_frame (sf : SlurFilter) (parse : String → Option Url) (d : Data) (pc : Pc) (f : Fault)
    (s : State)
    (hheld : ∀ c i b, pc = .update c i b → c.id = d.communityId ∧ c.ident ∈ s.db.idents) :
    Frame w s.db (next sf parse d pc f s).2.db := by
  cases pc with
  | update c i b =>
    obtain ⟨hid, hc⟩ := hheld c i b rfl
    simp only [next]
    split
    · exact .refl _
    · exact .refl _
    · refine .of_blocking (.of_set fun r hr hk => ?_) ‹_›
      have he := ident_eq_of_mem hc hr (hk.trans hid.symm)
      simp only [Community.ident, Prod.mk.injEq] at he ⊢
      simp [Community.applyForm, form, he]
  | _ => simp only [next]; (repeat' split) <;> exact .refl _

end EditCommunity

namespace DeleteCommunity

theorem next_frame (d : Data) (pc : Pc) (f : Fault) (s : State) :
    Frame w s.db (next d pc f s).2.db := by
  cases pc with
  | update =>
    simp only [next]
    split
    · exact .refl _
    · exact .refl _
    · exact .of_blocking .of_updateDeleted ‹_›
  | _ => simp only [next]; (repeat' split) <;> exact .refl _

end DeleteCommunity

namespace RemoveCommunity

theorem next_frame (d : Data) (pc : Pc) (f : Fault) (s : State) :
    Frame w s.db (next d pc f s).2.db := by
  cases pc with
  | update v =>
    simp only [next]
    split
    · exact .refl _
    · exact .refl _
    · exact .of_blocking .of_updateRemoved ‹_›
  | modlog v =>
    simp only [next]
    split
    · exact .refl _
    · exact .of_blockingTry .of_modlog ‹_›
  | _ => simp only [next]; (repeat' split) <;> exact .refl _

end RemoveCommunity

namespace AddModToCommunity

theorem next_frame (d : Data) (pc : Pc) (f : Fault) (s : State) :
    Frame w s.db (next d pc f s).2.db := by
  cases pc with
  | join v =>
    simp only [next]
    split
    · exact .refl _
    · exact .refl _
    · exact .of_blocking .of_join ‹_›
  | leave v =>
    simp only [next]
    split
    · exact .refl _
    · exact .refl _
    · exact .of_blocking .of_leave ‹_›
  | modlog v =>
    simp only [next]
    split
    · exact .refl _
    · exact .of_blockingTry .of_modlog ‹_›
  | _ => simp only [next]; (repeat' split) <;> exact .refl _

end AddModToCommunity

namespace TransferCommunity

theorem next_frame (d : Data) (pc : Pc) (f : Fault) (s : State) :
    Frame w s.db (next d pc f s).2.db := by
  cases pc with
  | updateCreator v =>
    simp only [next]
    split
    · exact .refl _
    · exact .refl _
    · exact .of_blocking .of_updateCreator ‹_›
  | deleteMods v ms =>
    simp only [next]
    split
    · exact .refl _
    · exact .of_blockingTry .of_deleteForCommunity ‹_›
  | rejoin v ms =>
    cases ms with
    | nil => exact .refl _
    | cons m ms =>
      simp only [next]
      split
      · exact .refl _
      · exact .refl _
      · exact .of_blocking .of_join ‹_›
  | modlog v =>
    simp only [next]
    split
    · exact .refl _
    · exact .of_blockingTry .of_modlog ‹_›
  | _ => simp only [next]; (repeat' split) <;> exact .refl _

end TransferCommunity

namespace CreateSite

theorem next_frame (sf : SlurFilter) (d : Data) (pc : Pc) (f : Fault) (s : State)
    (hw : ∀ v, pc = .create v → w = some v.person.id) :
    Frame w s.db (next sf d pc f s).2.db := by
  cases pc with
  | create v =>
    obtain rfl := hw v rfl
    simp only [next]
    split
    · exact .refl _
    · exact .refl _
    · exact .of_blocking .of_siteCreate ‹_›
  | _ => simp only [next]; (repeat' split) <;> exact .refl _

end CreateSite

namespace EditSite

theorem next_frame (sf : SlurFilter) (parse : String → Option Url) (d : Data) (pc : Pc) (f : Fault)
    (s : State) (hw : ∀ found i b, pc = .update found i b → w = some found.creatorId) :
    Frame w s.db (next sf parse d pc f s).2.db := by
  cases pc with
  | update found i b =>
    obtain rfl := hw found i b rfl
    simp only [next]
    split
    · exact .refl _
    · exact .refl _
    · exact .of_blocking .of_siteUpdate ‹_›
  | _ => simp only [next]; (repeat' split) <;> exact .refl _

end EditSite

namespace TransferSite

theorem next_frame (d : Data) (pc : Pc) (f : Fault) (s : State)
    (hw : ∀ v, pc = .transfer v → w = some d.personId) :
    Frame w s.db (next d pc f s).2.db := by
  cases pc with
  | transfer v =>
    obtain rfl := hw v rfl
    simp only [next]
    split
    · exact .refl _
    · exact .refl _
    · exact .of_blocking .of_siteTransfer ‹_›
  | modlog v =>
    simp only [next]
    split
    · exact .refl _
    · exact .of_blockingTry .of_modlog ‹_›
  | _ => simp only [next]; (repeat' split) <;> exact .refl _

end TransferSite

namespace CommunityInbox

theorem Moves.frame {cfg : Settings} {a : Activity} {path : String} {pc pc' : Pc} {f : Fault}
    {s s' : State} (h : Moves cfg a path pc f s pc' s') : Frame w s.db s'.db := by
  cases h with
  | resolved hr => exact .of_persisted (resolveActor_persisted hr)
  | _ => exact .keep rfl

end CommunityInbox

namespace CreateCommunity

theorem next_frame (cfg : Config) (d : Data) (pc : Pc) (f : Fault) (s : State) :
    Frame w s.db (next cfg d pc f s).2.db := by
  cases pc with
  | create v =>
    simp only [next]
    split
    · exact .refl _
    · exact .refl _
    · exact .of_blocking .of_create ‹_›
  | join v c =>
    simp only [next]
    split
    · exact .refl _
    · exact .refl _
    · exact .of_blocking .of_join ‹_›
  | follow v c =>
    simp only [next]
    split
    · exact .refl _
    · exact .refl _
    · exact .of_blocking .of_follow ‹_›
  | _ => simp only [next]; (repeat' split) <;> exact .refl _

end CreateCommunity

end Steps

namespace AnyRequest

def held : AnyRequest → Option (Nat × Community)
  | .request (.editCommunity d (.update c _ _)) => some (d.communityId, c)
  | _ => none

def writesCreator : AnyRequest → Option Nat
  | .request (.createSite _ (.create v)) => some v.person.id
  | .request (.editSite _ (.update found _ _)) => some found.creatorId
  | .request (.transferSite d (.transfer _)) => some d.personId
  | _ => none

theorem step_frame {cfg : Config} (hsetup : cfg.setup = none) (r : AnyRequest) (f : Fault)
    (s : State) (hout : r.outsideSetup)
    (hheld : ∀ k c, r.held = some (k, c) → c.id = k ∧ c.ident ∈ s.db.idents) :
    Frame r.writesCreator s.db (r.step cfg f s).2.db := by
  cases r with
  | request r =>
    cases r with
    | delivery d => exact CommunityInbox.Moves.frame (CommunityInbox.next_moves d.pc f s)
    | followCommunity d pc => exact FollowCommunity.next_frame d pc f s
    | banFromCommunity d pc => exact BanFromCommunity.next_frame d pc f s
    | editCommunity d pc =>
      exact EditCommunity.next_frame _ _ d pc f s fun c _ _ hc => hheld _ c (by subst hc; rfl)
    | deleteCommunity d pc => exact DeleteCommunity.next_frame d pc f s
    | removeCommunity d pc => exact RemoveCommunity.next_frame d pc f s
    | addModToCommunity d pc => exact AddModToCommunity.next_frame d pc f s
    | transferCommunity d pc => exact TransferCommunity.next_frame d pc f s
    | createSite d pc => exact CreateSite.next_frame _ d pc f s fun v hv => by subst hv; rfl
    | editSite d pc => exact EditSite.next_frame _ _ d pc f s fun c _ _ hc => by subst hc; rfl
    | transferSite d pc => exact TransferSite.next_frame d pc f s fun v hv => by subst hv; rfl
  | createCommunity d pc => exact CreateCommunity.next_frame cfg d pc f s
  | getCommunity d pc =>
    rw [(step_of_isRead hsetup (r := .getCommunity d pc) rfl f s).1]; exact .refl _
  | getFollowedCommunities d pc =>
    rw [(step_of_isRead hsetup (r := .getFollowedCommunities d pc) rfl f s).1]; exact .refl _
  | getSite d pc => rw [(step_of_isRead hsetup (r := .getSite d pc) hout f s).1]; exact .refl _

end AnyRequest

end Lemmy
