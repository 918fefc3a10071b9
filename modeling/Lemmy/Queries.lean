import Mathlib.Data.List.Sort
import Mathlib.Data.String.Basic
import Lemmy.Schema

/-! The calls to the store that the handlers make (`lemmy_db_queries` and the views of
`lemmy_db_views*`). Their code is not in the sources; each is modelled from the spec's
storage collaborator as the one statement it issues on the tables of `Schema`. -/

namespace Lemmy

def Db.found {α : Type} (o : Option α) (db : Db) : Except DbError (α × Db) :=
  match o with
  | some a => .ok (a, db)
  | none => .error .notFound

@[simp] theorem Db.found_eq_ok {α : Type} {o : Option α} {db db' : Db} {a : α} :
    db.found o = .ok (a, db') ↔ o = some a ∧ db' = db := by
  cases o <;> simp [Db.found, eq_comm]

structure LocalUserView where
  person : Person
  localUser : LocalUser
  deriving DecidableEq, Repr

theorem lt_foldr_max_succ {x : Nat} : ∀ {l : List Nat}, x ∈ l → x < l.foldr max 0 + 1
  | _ :: _, .head _ => Nat.lt_succ_of_le (Nat.le_max_left _ _)
  | _ :: _, .tail _ h => (lt_foldr_max_succ h).trans_le (Nat.succ_le_succ (Nat.le_max_right _ _))

namespace Person

def readFromApubId (actorId : Url) (db : Db) : Except DbError (Person × Db) :=
  db.found (db.person.rows.find? (·.actorId = actorId))

def nextId (db : Db) : Nat := (db.person.rows.map (·.id)).foldr max 0 + 1

end Person

namespace LocalUserView

def read (personId : Nat) (db : Db) : Except DbError (LocalUserView × Db) :=
  db.found do
    let p ← db.person.find? personId
    let u ← db.localUser.find? personId
    pure ⟨p, u⟩

end LocalUserView

namespace PersonViewSafe

def admins (db : Db) : Except DbError (List Person × Db) :=
  .ok (db.person.rows.filter (fun p => (db.localUser.find? p.id).any (·.admin)), db)

end PersonViewSafe

namespace Community

def read (id : Nat) (db : Db) : Except DbError (Community × Db) := db.found (db.community.find? id)

def readFromName (name : String) (db : Db) : Except DbError (Community × Db) :=
  db.found (db.community.rows.find? (·.name = name))

def readFromApubId (actorId : Url) (db : Db) : Except DbError (Community × Db) :=
  db.found (db.community.rows.find? (·.actorId = actorId))

def nextId (db : Db) : Nat := (db.community.rows.map (·.id)).foldr max 0 + 1

theorem id_lt_nextId {db : Db} {c : Community} (hc : c ∈ db.community.rows) : c.id < nextId db :=
  lt_foldr_max_succ (List.mem_map_of_mem _ hc)

/-- Modelled from the spec: `Community::create`, an insert under the unique constraint on
`actor_id` (actor ids are unique, §3); the row gets the next serial id. A form without
`actor_id`, which the column default fills with a random one, is left out and fails. -/
def create (form : CommunityForm) (db : Db) : Except DbError (Community × Db) :=
  match form.actorId with
  | none => .error .other
  | some actorId =>
    let c : Community :=
      { id := nextId db, name := form.name, title := form.title, description := form.description,
        creatorId := form.creatorId, removed := form.removed.getD false,
        deleted := form.deleted.getD false, nsfw := form.nsfw, actorId, isLocal := form.isLocal,
        icon := form.icon.getD none, banner := form.banner.getD none }
    if db.community.rows.any (fun r => decide (r.actorId = actorId)) then .error .uniqueViolation
    else
      match db.community.insert c with
      | some t => .ok (c, { db with community := t })
      | none => .error .uniqueViolation

theorem create_eq_ok {form : CommunityForm} {db db' : Db} {c : Community}
    (h : create form db = .ok (c, db')) :
    form.actorId = some c.actorId ∧ c.name = form.name ∧ c.creatorId = form.creatorId ∧
      (∀ r ∈ db.community.rows, r.id ≠ c.id ∧ r.actorId ≠ c.actorId) ∧
      db' = { db with community := db'.community } ∧ db'.community.rows = db.community.rows ++ [c] := by
  unfold create at h
  split at h
  · cases h
  · rename_i a ha
    split at h
    · cases h
    · rename_i hany
      dsimp only at h
      split at h
      · rename_i t ht
        cases h
        refine ⟨ha, rfl, rfl, fun r hr => ⟨(id_lt_nextId hr).ne, ?_⟩, rfl, (Table.insert_eq_some ht).2⟩
        exact fun he => List.any_eq_false.1 (Bool.not_eq_true _ ▸ hany) r hr (by simpa using he)
      · cases h

theorem create_eq_ok_of_fresh {form : CommunityForm} {db : Db} {a : Url}
    (ha : form.actorId = some a) (hfresh : ∀ r ∈ db.community.rows, r.actorId ≠ a) :
    ∃ c db', create form db = .ok (c, db') := by
  have hany : db.community.rows.any (fun r => decide (r.actorId = a)) = false :=
    List.any_eq_false.2 fun r hr => by simp [hfresh r hr]
  simp only [create, ha, hany, Bool.false_eq_true, ↓reduceIte]
  split
  · exact ⟨_, _, rfl⟩
  · rename_i ht
    have := Table.insert_eq_none_iff.1 ht
    simp only [Table.has_iff] at this
    obtain ⟨r, hr, hid⟩ := this
    exact absurd hid (id_lt_nextId hr).ne

def set (id : Nat) (f : Community → Community) (hf : ∀ c, (f c).id = c.id) (db : Db) :
    Except DbError (Community × Db) :=
  match db.community.find? id with
  | some c => .ok (f c, { db with community := db.community.updateKey id f hf })
  | none => .error .notFound

theorem set_eq_ok {id : Nat} {f : Community → Community} {hf : ∀ c, (f c).id = c.id}
    {db db' : Db} {c : Community} (h : set id f hf db = .ok (c, db')) :
    db' = { db with community := db.community.updateKey id f hf } := by
  unfold set at h
  split at h <;> cases h; rfl

theorem find?_of_set_eq_ok {id : Nat} {f : Community → Community} {hf : ∀ c, (f c).id = c.id}
    {db db' : Db} {c : Community} (h : set id f hf db = .ok (c, db')) :
    ∃ c₀, db'.community.find? id = some (f c₀) := by
  unfold set at h
  split at h
  · rename_i c₀ hc; cases h; exact ⟨c₀, by simp [Table.find?_updateKey, hc]⟩
  · cases h

def update (id : Nat) (form : CommunityForm) : Db → Except DbError (Community × Db) :=
  set id (·.applyForm form) (fun _ => rfl)

def updateDeleted (id : Nat) (deleted : Bool) : Db → Except DbError (Community × Db) :=
  set id ({ · with deleted }) (fun _ => rfl)

def updateRemoved (id : Nat) (removed : Bool) : Db → Except DbError (Community × Db) :=
  set id ({ · with removed }) (fun _ => rfl)

def updateCreator (id : Nat) (creatorId : Nat) : Db → Except DbError (Community × Db) :=
  set id ({ · with creatorId }) (fun _ => rfl)

end Community

namespace CommunityFollower

def follow (form : CommunityFollowerForm) (db : Db) : Except DbError (CommunityFollower × Db) :=
  let row : CommunityFollower := ⟨form.communityId, form.personId, some form.pending⟩
  match db.communityFollower.insert row with
  | some t => .ok (row, { db with communityFollower := t })
  | none => .error .uniqueViolation

def unfollow (form : CommunityFollowerForm) (db : Db) : Except DbError (Unit × Db) :=
  let rows := db.communityFollower.deleteWhere (·.key = (form.communityId, form.personId))
  .ok ((), { db with communityFollower := rows })

theorem follow_db {form : CommunityFollowerForm} {db db' : Db} {r : CommunityFollower}
    (h : follow form db = .ok (r, db')) :
    db' = { db with communityFollower := db'.communityFollower } := by
  unfold follow at h
  dsimp only at h
  split at h <;> cases h; rfl

theorem follow_eq_ok {form : CommunityFollowerForm} {db db' : Db} {r : CommunityFollower}
    (h : follow form db = .ok (r, db')) :
    db'.communityFollower.rows = db.communityFollower.rows ++ [⟨form.communityId, form.personId, some form.pending⟩] := by
  unfold follow at h
  dsimp only at h
  split at h
  · rename_i t ht
    cases h
    exact (Table.insert_eq_some ht).2
  · cases h

end CommunityFollower

def CommunityFollower.title (db : Db) (r : CommunityFollower) : String :=
  ((db.community.find? r.communityId).map (·.title)).getD ""

/-- Modelled from the spec: `CommunityFollowerView::for_person`, the person's follows ordered
by the title of their community. -/
def CommunityFollowerView.forPerson (personId : Nat) (db : Db) :
    Except DbError (List CommunityFollower × Db) :=
  .ok ((db.communityFollower.rows.filter (·.personId = personId)).insertionSort
    (fun a b => a.title db ≤ b.title db), db)

namespace CommunityModerator

def join (form : CommunityModerator) (db : Db) : Except DbError (CommunityModerator × Db) :=
  match db.communityModerator.insert form with
  | some t => .ok (form, { db with communityModerator := t })
  | none => .error .uniqueViolation

theorem join_eq_ok {form r : CommunityModerator} {db db' : Db} (h : join form db = .ok (r, db')) :
    (∀ k, db.communityModerator.Has k → db'.communityModerator.Has k) ∧
      db'.communityModerator.Has form.key := by
  unfold join at h
  split at h
  · rename_i t ht
    cases h
    exact ⟨fun _ => Table.has_of_insert ht, Table.has_key_of_insert ht⟩
  · cases h

theorem join_db {form r : CommunityModerator} {db db' : Db} (h : join form db = .ok (r, db')) :
    db' = { db with communityModerator := db'.communityModerator } := by
  unfold join at h
  split at h <;> cases h; rfl

theorem join_eq_ok_of_not_has {form : CommunityModerator} {db : Db}
    (h : ¬ db.communityModerator.Has form.key) :
    ∃ t, db.communityModerator.insert form = some t ∧
      join form db = .ok (form, { db with communityModerator := t }) := by
  cases ht : db.communityModerator.insert form with
  | none => exact absurd (Table.insert_eq_none_iff.1 ht) h
  | some t => exact ⟨t, rfl, by simp [join, ht]⟩

theorem mem_rows_of_has {db : Db} {c q : Nat} (h : db.communityModerator.Has (c, q)) :
    ⟨c, q⟩ ∈ db.communityModerator.rows := by
  obtain ⟨⟨c', q'⟩, hr, hk⟩ := List.mem_map.1 h
  cases hk
  exact hr

def leave (form : CommunityModerator) (db : Db) : Except DbError (Unit × Db) :=
  .ok ((), { db with communityModerator := db.communityModerator.deleteWhere (·.key = form.key) })

def deleteForCommunity (communityId : Nat) (db : Db) : Except DbError (Unit × Db) :=
  .ok ((), { db with
    communityModerator := db.communityModerator.deleteWhere (·.communityId = communityId) })

end CommunityModerator

namespace CommunityModeratorView

def forCommunity (communityId : Nat) (db : Db) : Except DbError (List CommunityModerator × Db) :=
  .ok (db.communityModerator.rows.filter (·.communityId = communityId), db)

end CommunityModeratorView

namespace CommunityPersonBan

def ban (form : CommunityPersonBan) (db : Db) : Except DbError (CommunityPersonBan × Db) :=
  match db.communityPersonBan.insert form with
  | some t => .ok (form, { db with communityPersonBan := t })
  | none => .error .uniqueViolation

def unban (form : CommunityPersonBan) (db : Db) : Except DbError (Unit × Db) :=
  .ok ((), { db with communityPersonBan := db.communityPersonBan.deleteWhere (·.key = form.key) })

end CommunityPersonBan

namespace CommunityPersonBanView

def get (personId communityId : Nat) (db : Db) : Except DbError (CommunityPersonBan × Db) :=
  db.found (db.communityPersonBan.find? (communityId, personId))

end CommunityPersonBanView

namespace CommunityView

def isModOrAdmin (personId communityId : Nat) (db : Db) : Except DbError (Bool × Db) :=
  .ok (decide (personId ∈ (db.communityModerator.rows.filter (·.communityId = communityId)).map
    (·.personId) ∨ (db.localUser.find? personId).any (·.admin)), db)

end CommunityView

namespace Site

def readSimple (db : Db) : Except DbError (Site × Db) := db.found db.site.rows.head?

def create (form : SiteForm) (db : Db) : Except DbError (Site × Db) :=
  let s : Site :=
    { id := db.site.rows.length + 1, name := form.name, description := form.description,
      creatorId := form.creatorId, enableDownvotes := form.enableDownvotes,
      openRegistration := form.openRegistration, enableNsfw := form.enableNsfw,
      icon := form.icon.getD none, banner := form.banner.getD none }
  match db.site.insert s with
  | some t => .ok (s, { db with site := t })
  | none => .error .uniqueViolation

def set (id : Nat) (f : Site → Site) (hf : ∀ s, (f s).id = s.id) (db : Db) :
    Except DbError (Site × Db) :=
  match db.site.find? id with
  | some s => .ok (f s, { db with site := db.site.updateKey id f hf })
  | none => .error .notFound

theorem set_eq_ok {id : Nat} {f : Site → Site} {hf : ∀ s, (f s).id = s.id} {db db' : Db}
    {s : Site} (h : set id f hf db = .ok (s, db')) :
    db' = { db with site := db.site.updateKey id f hf } := by
  unfold set at h
  split at h <;> cases h; rfl

def update (id : Nat) (form : SiteForm) : Db → Except DbError (Site × Db) :=
  set id (·.applyForm form) (fun _ => rfl)

def transfer (creatorId : Nat) (db : Db) : Except DbError (Site × Db) :=
  if (db.person.find? creatorId).isSome then set 1 ({ · with creatorId }) (fun _ => rfl) db
  else .error .foreignKeyViolation

end Site

namespace Activity

def readFromApubId (apId : Url) (db : Db) : Except DbError (ActivityRow × Db) :=
  db.found (db.activity.find? apId)

end Activity

def insertActivity (apId : Url) (isLocal sensitive : Bool) (db : Db) :
    Except DbError (ActivityRow × Db) :=
  let row : ActivityRow := ⟨apId, isLocal, sensitive⟩
  match db.activity.insert row with
  | some t => .ok (row, { db with activity := t })
  | none => .error .uniqueViolation

theorem insertActivity_db {id : Url} {l s : Bool} {db db' : Db} {r : ActivityRow}
    (h : insertActivity id l s db = .ok (r, db')) :
    ¬ db.activity.Has id ∧ db'.activity.rows = db.activity.rows ++ [⟨id, l, s⟩] ∧
      db' = { db with activity := db'.activity } := by
  unfold insertActivity at h
  dsimp only at h
  split at h
  · rename_i t ht
    cases h
    exact ⟨(Table.insert_eq_some ht).1, (Table.insert_eq_some ht).2, rfl⟩
  · cases h

def ModlogEntry.create (e : ModlogEntry) (db : Db) : Except DbError (ModlogEntry × Db) :=
  .ok (e, { db with modlog := db.modlog ++ [e] })

theorem ModlogEntry.create_db {e x : ModlogEntry} {db db' : Db} (h : create e db = .ok (x, db')) :
    db' = { db with modlog := db.modlog ++ [e] } := by
  cases h; rfl

end Lemmy
