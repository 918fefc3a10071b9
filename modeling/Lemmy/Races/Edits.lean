import Lemmy.Races.Moderators

namespace Lemmy

def Community.status (c : Community) : Nat × Bool × Bool × Nat :=
  (c.id, c.removed, c.deleted, c.creatorId)

def Site.owner (s : Site) : Nat × Nat := (s.id, s.creatorId)

def Effect (wc : Option Nat) (ws : Bool) (s s' : State) : Prop :=
  (∀ k, wc ≠ some k → ∀ x' ∈ s'.db.community.rows, x'.id = k →
      ∃ x ∈ s.db.community.rows, x.status = x'.status) ∧
    (ws = false → ∀ x' ∈ s'.db.site.rows, ∃ x ∈ s.db.site.rows, x.owner = x'.owner) ∧
    s'.db.site.rows.map Site.id = s.db.site.rows.map Site.id

theorem exists_mem_of_map_eq {α β : Type} {g : α → β} {l l' : List α} (h : l'.map g = l.map g)
    {x' : α} (hx : x' ∈ l') : ∃ x ∈ l, g x = g x' :=
  List.mem_map.1 (h ▸ List.mem_map_of_mem g hx)

theorem Effect.of_columns {s s' : State}
    (hc : s'.db.community.rows.map Community.status = s.db.community.rows.map Community.status)
    (hs : s'.db.site.rows.map Site.owner = s.db.site.rows.map Site.owner) : Effect none false s s' :=
  ⟨fun _ _ _ hx _ => exists_mem_of_map_eq hc hx, fun _ _ hx => exists_mem_of_map_eq hs hx, by
    simpa only [List.map_map] using congrArg (List.map Prod.fst) hs⟩

def WritesOnly (k : Nat) (w : Bool) (s s' : State) : Prop :=
  s'.db.site = s.db.site ∧ (∀ x ∈ s'.db.community.rows, x.id ≠ k → x ∈ s.db.community.rows) ∧
    (w = false → s'.db.community = s.db.community)

theorem WritesOnly.of_frame {k : Nat} {w : Bool} {s s' : State} (hs : s'.db.site = s.db.site)
    (hc : s'.db.community = s.db.community) : WritesOnly k w s s' :=
  ⟨hs, fun _ hx _ => hc ▸ hx, fun _ => hc⟩

theorem WritesOnly.of_set {k : Nat} {g : Community → Community} {hg : ∀ c, (g c).id = c.id}
    {s : State} {c : Community} {db : Db} (h : Community.set k g hg s.db = .ok (c, db)) :
    WritesOnly k true s { s with db } := by
  rw [Community.set_eq_ok h]
  refine ⟨rfl, fun _ hx hk => ?_, nofun⟩
  dsimp only at hx
  exact Table.mem_of_mem_updateKey hx hk

theorem WritesOnly.effect {k : Nat} {w : Bool} {s s' : State} (h : WritesOnly k w s s') :
    Effect (if w then some k else none) false s s' := by
  obtain ⟨hs, hk, hc⟩ := h
  refine ⟨fun k' hne x' hx' hid => ⟨x', ?_, rfl⟩, fun _ x' hx' => ⟨x', hs ▸ hx', rfl⟩, by rw [hs]⟩
  cases w with
  | false => exact hc rfl ▸ hx'
  | true => exact hk x' hx' fun h => hne (by rw [if_pos rfl, ← hid, h])

namespace EditCommunity

theorem next_columns (sf : SlurFilter) (parse : String → Option Url) (d : Data) (pc : Pc)
    (f : Fault) (s : State)
    (hfresh : ∀ c i b, pc = .update c i b →
      ∀ x ∈ s.db.community.rows, x.id = d.communityId → x.status = c.status) :
    (next sf parse d pc f s).2.db.community.rows.map Community.status =
        s.db.community.rows.map Community.status ∧
      (next sf parse d pc f s).2.db.site = s.db.site := by
  cases pc with
  | update c icon banner =>
    simp only [next]
    split
    · exact ⟨rfl, rfl⟩
    · exact ⟨rfl, rfl⟩
    · rename_i db h
      rw [Community.set_eq_ok (blocking_eq_ok_ok h).2]
      dsimp only
      refine ⟨Table.map_updateKey _ fun x hx hk => ?_, rfl⟩
      have hx := hfresh c icon banner rfl x hx hk
      simp only [Community.status, Prod.mk.injEq] at hx ⊢
      simp [Community.applyForm, form, hx]
  | _ => simp only [next]; (repeat' split) <;> trivial

theorem next_fresh (sf : SlurFilter) (parse : String → Option Url) (d : Data) (pc : Pc)
    (f : Fault) (s : State) :
    ∀ c i b, (next sf parse d pc f s).1 = .update c i b →
      ∀ x ∈ (next sf parse d pc f s).2.db.community.rows, x.id = d.communityId →
        x.status = c.status := by
  cases pc with
  | readCommunity =>
    simp only [next]
    split
    · rintro _ _ _ ⟨⟩
    · rename_i c' _ hr
      split
      · rintro _ _ _ ⟨⟩
      · rintro _ _ _ ⟨⟩
      · rintro c _ _ ⟨⟩ x hx hk
        obtain ⟨hc, hck⟩ := Table.find?_eq_some (Db.found_eq_ok.1 (blockingTry_eq_ok hr).2).1
        rw [Table.eq_of_key_eq hx hc (hk.trans hck.symm)]
  | _ => simp only [next]; (repeat' split) <;> rintro _ _ _ ⟨⟩

end EditCommunity

namespace EditSite

theorem next_columns (sf : SlurFilter) (parse : String → Option Url) (d : Data) (pc : Pc)
    (f : Fault) (s : State)
    (hfresh : ∀ found i b, pc = .update found i b →
      ∀ x ∈ s.db.site.rows, x.id = 1 → x.creatorId = found.creatorId) :
    (next sf parse d pc f s).2.db.community = s.db.community ∧
      (next sf parse d pc f s).2.db.site.rows.map Site.owner = s.db.site.rows.map Site.owner := by
  cases pc with
  | update found icon banner =>
    simp only [next]
    split
    · exact ⟨rfl, rfl⟩
    · exact ⟨rfl, rfl⟩
    · rename_i db h
      rw [Site.set_eq_ok (blocking_eq_ok_ok h).2]
      dsimp only
      exact ⟨rfl, Table.map_updateKey _ fun x hx hk => by
        simp [Site.owner, Site.applyForm, form, hfresh found icon banner rfl x hx hk]⟩
  | _ => simp only [next]; (repeat' split) <;> trivial

theorem next_fresh (sf : SlurFilter) (parse : String → Option Url) (d : Data) (pc : Pc)
    (f : Fault) (s : State) (hhead : ∀ x ∈ s.db.site.rows.head?, x.id = 1) :
    ∀ found i b, (next sf parse d pc f s).1 = .update found i b →
      ∀ x ∈ (next sf parse d pc f s).2.db.site.rows, x.id = 1 → x.creatorId = found.creatorId := by
  cases pc with
  | readSite =>
    simp only [next]
    split
    · rintro _ _ _ ⟨⟩
    · rename_i found' _ hr
      split
      · rintro _ _ _ ⟨⟩
      · rintro _ _ _ ⟨⟩
      · rintro found _ _ ⟨⟩ x hx hk
        have hh := (Db.found_eq_ok.1 (blockingTry_eq_ok hr).2).1
        rw [Table.eq_of_key_eq hx (List.mem_of_mem_head? hh) (hk.trans (hhead _ hh).symm)]
  | _ => simp only [next]; (repeat' split) <;> rintro _ _ _ ⟨⟩

end EditSite

namespace DeleteCommunity

def Pc.writes : Pc → Bool
  | .update => true
  | _ => false

theorem next_writesOnly (d : Data) (pc : Pc) (f : Fault) (s : State) :
    WritesOnly d.communityId pc.writes s (next d pc f s).2 := by
  cases pc with
  | update =>
    simp only [next]
    split
    · exact .of_frame rfl rfl
    · exact .of_frame rfl rfl
    · exact .of_set (blocking_eq_ok_ok ‹_›).2
  | _ => simp only [next]; (repeat' split) <;> exact .of_frame rfl rfl

end DeleteCommunity

namespace RemoveCommunity

def Pc.writes : Pc → Bool
  | .update _ => true
  | _ => false

theorem next_writesOnly (d : Data) (pc : Pc) (f : Fault) (s : State) :
    WritesOnly d.communityId pc.writes s (next d pc f s).2 := by
  cases pc with
  | update v =>
    simp only [next]
    split
    · exact .of_frame rfl rfl
    · exact .of_frame rfl rfl
    · exact .of_set (blocking_eq_ok_ok ‹_›).2
  | modlog v =>
    simp only [next]
    split
    · exact .of_frame rfl rfl
    · rename_i db h
      obtain rfl := ModlogEntry.create_db (blockingTry_eq_ok h).2
      exact .of_frame rfl rfl
  | _ => simp only [next]; (repeat' split) <;> exact .of_frame rfl rfl

end RemoveCommunity

namespace TransferCommunity

def Pc.writes : Pc → Bool
  | .updateCreator _ => true
  | _ => false

theorem next_writesOnly (d : Data) (pc : Pc) (f : Fault) (s : State) :
    WritesOnly d.communityId pc.writes s (next d pc f s).2 := by
  cases pc with
  | updateCreator v =>
    simp only [next]
    split
    · exact .of_frame rfl rfl
    · exact .of_frame rfl rfl
    · exact .of_set (blocking_eq_ok_ok ‹_›).2
  | deleteMods v ms =>
    simp only [next]
    split
    · exact .of_frame rfl rfl
    · rename_i db h
      obtain ⟨-, h⟩ := blockingTry_eq_ok h
      cases h
      exact .of_frame rfl rfl
  | rejoin v ms =>
    cases ms with
    | nil => exact .of_frame rfl rfl
    | cons m ms =>
      simp only [next]
      split
      · exact .of_frame rfl rfl
      · exact .of_frame rfl rfl
      · rename_i db h
        rw [CommunityModerator.join_db (blocking_eq_ok_ok h).2]
        exact .of_frame rfl rfl
  | modlog v =>
    simp only [next]
    split
    · exact .of_frame rfl rfl
    · rename_i db h
      obtain rfl := ModlogEntry.create_db (blockingTry_eq_ok h).2
      exact .of_frame rfl rfl
  | _ => simp only [next]; (repeat' split) <;> exact .of_frame rfl rfl

end TransferCommunity

namespace TransferSite

def Pc.writes : Pc → Bool
  | .transfer _ => true
  | _ => false

theorem next_effect (d : Data) (pc : Pc) (f : Fault) (s : State) :
    Effect none pc.writes s (next d pc f s).2 := by
  have keep : Effect none pc.writes s s :=
    ⟨fun _ _ x' hx' _ => ⟨x', hx', rfl⟩, fun _ x' hx' => ⟨x', hx', rfl⟩, rfl⟩
  cases pc with
  | transfer v =>
    simp only [next]
    split
    · exact keep
    · exact keep
    · rename_i db h
      have h := (blocking_eq_ok_ok h).2
      unfold Site.transfer at h
      split at h
      · rw [Site.set_eq_ok h]
        refine ⟨fun _ _ x' hx' _ => ⟨x', hx', rfl⟩, nofun, ?_⟩
        dsimp only
        exact Table.map_updateKey _ fun _ _ _ => rfl
      · cases h
  | modlog v =>
    simp only [next]
    split
    · exact keep
    · rename_i db h
      obtain rfl := ModlogEntry.create_db (blockingTry_eq_ok h).2
      exact keep
  | _ => simp only [next]; (repeat' split) <;> exact keep

end TransferSite

namespace Request

def racesEdit : Request → Bool
  | .editCommunity .. | .deleteCommunity .. | .removeCommunity .. | .transferCommunity ..
  | .editSite .. | .transferSite .. => true
  | _ => false

def isEdit : Request → Bool
  | .editCommunity .. | .editSite .. => true
  | _ => false

def editsCommunity : Request → Option Nat
  | .editCommunity d (.update ..) => some d.communityId
  | _ => none

def editsSite : Request → Bool
  | .editSite _ (.update ..) => true
  | _ => false

def writesCommunity : Request → Option Nat
  | .deleteCommunity d pc => if pc.writes then some d.communityId else none
  | .removeCommunity d pc => if pc.writes then some d.communityId else none
  | .transferCommunity d pc => if pc.writes then some d.communityId else none
  | _ => none

def writesSite : Request → Bool
  | .transferSite _ pc => pc.writes
  | _ => false

def clashes (r w : Request) : Bool :=
  (r.editsCommunity.isSome && r.editsCommunity == w.writesCommunity) ||
    (r.editsSite && w.writesSite)

theorem clashes_eq_false {r w : Request} (h : r.clashes w = false) :
    (∀ k, r.editsCommunity = some k → w.writesCommunity ≠ some k) ∧
      (r.editsSite = true → w.writesSite = false) := by
  refine ⟨fun k hr hw => ?_, fun hr => ?_⟩ <;> simp_all [clashes]

def Fresh (db : Db) : Request → Prop
  | .editCommunity d pc => ∀ c i b, pc = .update c i b →
      ∀ x ∈ db.community.rows, x.id = d.communityId → x.status = c.status
  | .editSite _ pc => ∀ found i b, pc = .update found i b →
      ∀ x ∈ db.site.rows, x.id = 1 → x.creatorId = found.creatorId
  | _ => True

theorem Fresh.of_effect {wc : Option Nat} {ws : Bool} {s s' : State} {r : Request}
    (he : Effect wc ws s s') (hw : ∀ k, r.editsCommunity = some k → wc ≠ some k)
    (hs : r.editsSite = true → ws = false) (h : r.Fresh s.db) : r.Fresh s'.db := by
  cases r with
  | editCommunity d pc =>
    rintro c i b rfl x' hx' hk
    obtain ⟨x, hx, hxs⟩ := he.1 _ (hw _ rfl) x' hx' hk
    rw [← hxs]
    exact h c i b rfl x hx ((congrArg Prod.fst hxs).trans hk)
  | editSite _ pc =>
    rintro found i b rfl x' hx' hk
    obtain ⟨x, hx, hxo⟩ := he.2.1 (hs rfl) x' hx'
    simp only [Site.owner, Prod.mk.injEq] at hxo
    rw [← hxo.2]
    exact h found i b rfl x hx (hxo.1.trans hk)
  | _ => trivial

theorem step_racesEdit (cfg : Config) (p : Request) (f : Fault) (s : State) :
    (p.step cfg f s).1.racesEdit = p.racesEdit := by
  cases p <;> rfl

theorem step_effect (cfg : Config) {p : Request} (hp : p.racesEdit) {s : State}
    (hf : p.Fresh s.db) (f : Fault) :
    Effect p.writesCommunity p.writesSite s (p.step cfg f s).2 := by
  cases p with
  | editCommunity d pc =>
    obtain ⟨hc, hs⟩ := EditCommunity.next_columns cfg.slurs cfg.urlParse d pc f s hf
    exact .of_columns hc (congrArg (·.rows.map Site.owner) hs)
  | editSite d pc =>
    obtain ⟨hc, hs⟩ := EditSite.next_columns cfg.slurs cfg.urlParse d pc f s hf
    exact .of_columns (congrArg (·.rows.map Community.status) hc) hs
  | deleteCommunity d pc => exact (DeleteCommunity.next_writesOnly d pc f s).effect
  | removeCommunity d pc => exact (RemoveCommunity.next_writesOnly d pc f s).effect
  | transferCommunity d pc => exact (TransferCommunity.next_writesOnly d pc f s).effect
  | transferSite d pc => exact TransferSite.next_effect d pc f s
  | _ => cases hp

theorem step_fresh (cfg : Config) (p : Request) {s : State}
    (hhead : ∀ x ∈ s.db.site.rows.head?, x.id = 1) (f : Fault) :
    (p.step cfg f s).1.Fresh (p.step cfg f s).2.db := by
  cases p with
  | editCommunity d pc => exact EditCommunity.next_fresh cfg.slurs cfg.urlParse d pc f s
  | editSite d pc => exact EditSite.next_fresh cfg.slurs cfg.urlParse d pc f s hhead
  | _ => trivial

end Request

/-- The schedules under which no request writes a column an edit has read and not yet
written back. -/
def NoWriteInEditWindow (n : Node Request) (i : Nat) (_ : Fault) : Prop :=
  ∀ r ∈ n.threads, n.threads[i]?.any r.clashes = false

instance (n : Node Request) (i : Nat) (f : Fault) : Decidable (NoWriteInEditWindow n i f) :=
  inferInstanceAs (Decidable (∀ r ∈ n.threads, n.threads[i]?.any r.clashes = false))

def EditInv (n : Node Request) : Prop :=
  (∀ r ∈ n.threads, r.racesEdit) ∧ (∀ x ∈ n.state.db.site.rows.head?, x.id = 1) ∧
    ∀ r ∈ n.threads, r.Fresh n.state.db

theorem head_id_of_ids {db db' : Db} (h : db'.site.rows.map Site.id = db.site.rows.map Site.id)
    (hhead : ∀ x ∈ db.site.rows.head?, x.id = 1) : ∀ x ∈ db'.site.rows.head?, x.id = 1 := by
  intro x hx
  have := congrArg List.head? h
  rw [List.head?_map, List.head?_map, Option.mem_def.1 hx] at this
  obtain ⟨y, hy, hxy⟩ := Option.map_eq_some'.1 this.symm
  rw [← hxy]
  exact hhead y hy

theorem editInv_stepThread (cfg : Config) {n : Node Request} {i : Nat} {f : Fault}
    (hw : NoWriteInEditWindow n i f) (h : EditInv n) :
    EditInv (Node.stepThread (Request.step cfg) n i f) := by
  obtain ⟨hkind, hhead, hfresh⟩ := h
  cases hi : n.threads[i]? with
  | none => rw [Node.stepThread_of_none _ hi]; exact ⟨hkind, hhead, hfresh⟩
  | some p =>
    rw [Node.stepThread_of_get _ hi]
    have hp := List.getElem?_mem hi
    have he := Request.step_effect cfg (hkind p hp) (hfresh p hp) f
    refine ⟨fun r hr => ?_, head_id_of_ids he.2.2 hhead, fun r hr => ?_⟩
    · rcases List.mem_or_eq_of_mem_set hr with hr | rfl
      · exact hkind r hr
      · rw [Request.step_racesEdit]; exact hkind p hp
    · rcases List.mem_or_eq_of_mem_set hr with hr | rfl
      · have hc := hw r hr
        rw [hi] at hc
        obtain ⟨hc, hs⟩ := Request.clashes_eq_false hc
        exact (hfresh r hr).of_effect he hc hs
      · exact Request.step_fresh cfg p hhead f

/-- Under a schedule that writes no column an edit has read and not yet written back, no step
of an edit changes the removed, deleted and creator columns of the communities or the creator
of the site. -/
theorem edit_steps_keep_status (cfg : Config) (s : State) (threads : List Request)
    (hthreads : ∀ r ∈ threads, r.racesEdit ∧ r.editsCommunity = none ∧ r.editsSite = false)
    (hsite : ∀ x ∈ s.db.site.rows.head?, x.id = 1) (sched : List (Nat × Fault))
    (hsched : Node.Allowed (Request.step cfg) NoWriteInEditWindow (Node.start s threads) sched)
    (i : Nat)
    (hi : (Node.run (Request.step cfg) (Node.start s threads) sched).threads[i]?.any Request.isEdit)
    (f : Fault) :
    (Node.stepThread (Request.step cfg) (Node.run (Request.step cfg) (Node.start s threads) sched)
        i f).state.db.community.rows.map Community.status =
      (Node.run (Request.step cfg) (Node.start s threads) sched).state.db.community.rows.map
        Community.status ∧
    (Node.stepThread (Request.step cfg) (Node.run (Request.step cfg) (Node.start s threads) sched)
        i f).state.db.site.rows.map Site.owner =
      (Node.run (Request.step cfg) (Node.start s threads) sched).state.db.site.rows.map
        Site.owner := by
  have hstart : EditInv (Node.start s threads) := by
    refine ⟨fun r hr => (hthreads r hr).1, hsite, fun r hr => ?_⟩
    obtain ⟨-, hc, hs⟩ := hthreads r hr
    cases r with
    | editCommunity d pc => rintro c _ _ rfl; cases hc
    | editSite d pc => rintro c _ _ rfl; cases hs
    | _ => trivial
  obtain ⟨-, -, hfresh⟩ := Node.run_inv_allowed (Request.step cfg) NoWriteInEditWindow EditInv
    (fun _ _ _ hw h => editInv_stepThread cfg hw h) sched hstart hsched
  cases hp : (Node.run (Request.step cfg) (Node.start s threads) sched).threads[i]? with
  | none => rw [hp] at hi; cases hi
  | some p =>
    rw [Node.stepThread_of_get _ hp]
    have hf := hfresh p (List.getElem?_mem hp)
    rw [hp] at hi
    cases p with
    | editCommunity d pc =>
      obtain ⟨hc, hs⟩ := EditCommunity.next_columns cfg.slurs cfg.urlParse d pc f _ hf
      exact ⟨hc, congrArg (·.rows.map Site.owner) hs⟩
    | editSite d pc =>
      obtain ⟨hc, hs⟩ := EditSite.next_columns cfg.slurs cfg.urlParse d pc f _ hf
      exact ⟨congrArg (·.rows.map Community.status) hc, hs⟩
    | _ => cases hi

def editsState : State :=
  ⟨{ person := ⟨[⟨1, "admin", false, ⟨"a.example", "/u/admin"⟩, true⟩,
        ⟨2, "carol", false, ⟨"a.example", "/u/carol"⟩, true⟩], by decide⟩,
     localUser := ⟨[⟨1, true⟩, ⟨2, true⟩], by decide⟩,
     community := ⟨[mainCommunity], by decide⟩, communityFollower := Table.empty,
     communityModerator := ⟨[⟨1, 2⟩], by decide⟩, communityPersonBan := Table.empty,
     site := ⟨[⟨1, "Site", none, 1, true, true, true, none, none⟩], by decide⟩,
     activity := Table.empty, post := Table.empty, comment := Table.empty, modlog := [] }, [], []⟩

def editMain : EditCommunity.Data := ⟨1, "Main street", none, none, none, false, 2⟩

def removeMain : RemoveCommunity.Data := ⟨1, true, 1⟩

def editSiteByCarol : EditSite.Data := ⟨"Site", some "Run by Carol", none, none, true, true, true, 2⟩

def transferSiteToCarol : TransferSite.Data := ⟨2, 1⟩

def editRun (threads : List Request) (sched : List (Nat × Fault)) : Node Request :=
  Node.run (Request.step apiConfig) (Node.start editsState threads) sched

def removeInEditWindow : List (Nat × Fault) :=
  List.replicate 3 (0, .ok) ++ List.replicate 5 (1, .ok) ++ List.replicate 2 (0, .ok)

def transferInEditWindow : List (Nat × Fault) :=
  List.replicate 2 (0, .ok) ++ List.replicate 7 (1, .ok) ++ List.replicate 2 (0, .ok)

def removeBeforeEditRead : List (Nat × Fault) :=
  List.replicate 5 (1, .ok) ++ List.replicate 3 (0, .ok)

theorem edit_update_keeps_status :
    ((∀ r ∈ [Request.editCommunity editMain .auth, .removeCommunity removeMain .auth],
        r.racesEdit ∧ r.editsCommunity = none ∧ r.editsSite = false) ∧
      (∀ x ∈ editsState.db.site.rows.head?, x.id = 1) ∧
      Node.Allowed (Request.step apiConfig) NoWriteInEditWindow
        (Node.start editsState [.editCommunity editMain .auth, .removeCommunity removeMain .auth])
        removeBeforeEditRead ∧
      (editRun [.editCommunity editMain .auth, .removeCommunity removeMain .auth]
        removeBeforeEditRead).threads[0]?.any Request.isEdit) ∧
    (Node.stepThread (Request.step apiConfig)
        (editRun [.editCommunity editMain .auth, .removeCommunity removeMain .auth]
          removeBeforeEditRead) 0 .ok).state.db.community.rows.map Community.status =
      (editRun [.editCommunity editMain .auth, .removeCommunity removeMain .auth]
          removeBeforeEditRead).state.db.community.rows.map Community.status ∧
    (Node.stepThread (Request.step apiConfig)
        (editRun [.editCommunity editMain .auth, .removeCommunity removeMain .auth]
          removeBeforeEditRead) 0 .ok).state.db.site.rows.map Site.owner =
      (editRun [.editCommunity editMain .auth, .removeCommunity removeMain .auth]
          removeBeforeEditRead).state.db.site.rows.map Site.owner :=
  have hthreads : ∀ r ∈ [Request.editCommunity editMain .auth, .removeCommunity removeMain .auth],
      r.racesEdit ∧ r.editsCommunity = none ∧ r.editsSite = false := by decide
  have hsite : ∀ x ∈ editsState.db.site.rows.head?, x.id = 1 := by decide
  have hsched : Node.Allowed (Request.step apiConfig) NoWriteInEditWindow
      (Node.start editsState [.editCommunity editMain .auth, .removeCommunity removeMain .auth])
      removeBeforeEditRead := by decide
  have hi : (editRun [.editCommunity editMain .auth, .removeCommunity removeMain .auth]
      removeBeforeEditRead).threads[0]?.any Request.isEdit := by decide
  ⟨⟨hthreads, hsite, hsched, hi⟩, edit_steps_keep_status apiConfig editsState _ hthreads hsite
    _ hsched 0 hi .ok⟩

theorem edits_undo_concurrent_writes :
    ¬ Node.Allowed (Request.step apiConfig) NoWriteInEditWindow
        (Node.start editsState [.editCommunity editMain .auth, .removeCommunity removeMain .auth])
        removeInEditWindow ∧
      (editRun [.editCommunity editMain .auth, .removeCommunity removeMain .auth]
        removeInEditWindow).threads =
        [.editCommunity editMain (.done (.ok ())), .removeCommunity removeMain (.done (.ok ()))] ∧
      ((editRun [.editCommunity editMain .auth, .removeCommunity removeMain .auth]
        removeInEditWindow).state.db.community.find? 1).map (·.removed) = some false ∧
    ¬ Node.Allowed (Request.step apiConfig) NoWriteInEditWindow
        (Node.start editsState [.editSite editSiteByCarol .auth,
          .transferSite transferSiteToCarol .auth]) transferInEditWindow ∧
      (editRun [.editSite editSiteByCarol .auth, .transferSite transferSiteToCarol .auth]
        transferInEditWindow).threads =
        [.editSite editSiteByCarol (.done (.ok ())),
          .transferSite transferSiteToCarol (.done (.ok ()))] ∧
      ((editRun [.editSite editSiteByCarol .auth, .transferSite transferSiteToCarol .auth]
        transferInEditWindow).state.db.site.find? 1).map (·.creatorId) = some 1 := by
  decide

end Lemmy
