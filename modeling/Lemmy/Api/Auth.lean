import Lemmy.Apub.CommunityInbox

/-! The checks the API handlers open with (`crate::get_local_user_view_from_jwt`, `is_admin`,
`is_mod_or_admin`, `check_community_ban`, `check_slurs`) and `diesel_option_overwrite_to_url`.
They are not in the sources; each is modelled from the spec as the one read it makes, the slur
list and the url crate's parser left as parameters. -/

namespace Lemmy

def getLocalUserViewFromJwt (auth : Nat) (f : Fault) (db : Db) : Except LemmyError LocalUserView :=
  match blockingTry f (LocalUserView.read auth) db with
  | .error e => .error e
  | .ok (v, _) => if v.person.banned then .error (.api "site_ban") else .ok v

def isAdmin (v : LocalUserView) : Except LemmyError Unit :=
  if v.localUser.admin then .ok () else .error (.api "not_an_admin")

def isModOrAdmin (personId communityId : Nat) (f : Fault) (db : Db) : Except LemmyError Unit :=
  match blocking f (CommunityView.isModOrAdmin personId communityId) db with
  | .error e => .error e
  | .ok (.ok true, _) => .ok ()
  | .ok _ => .error (.api "not_a_mod_or_admin")

def checkCommunityBan (personId communityId : Nat) (f : Fault) (db : Db) : Except LemmyError Unit :=
  communityBanLookup (.api "community_ban") personId communityId f db

/-- `check_slurs` of `lemmy_utils`, whose word list is configuration. -/
structure SlurFilter where
  checkSlurs : String → Except LemmyError Unit

def SlurFilter.checkSlursOpt (sf : SlurFilter) : Option String → Except LemmyError Unit
  | none => .ok ()
  | some s => sf.checkSlurs s

/-- `diesel_option_overwrite_to_url` (`lemmy_db_queries`, not in the sources): no value leaves
the column as it is, an empty string clears it, and any other string must parse as a url, or the
request fails with `invalid_url`. `parse` is the url crate's `Url::parse`, left abstract. -/
def dieselOptionOverwriteToUrl (parse : String → Option Url) :
    Option String → Except LemmyError (Option (Option Url))
  | none => .ok none
  | some "" => .ok (some none)
  | some s =>
    match parse s with
    | some u => .ok (some (some u))
    | none => .error (.api "invalid_url")

def moveToFront {α : Type} (p : α → Bool) : List α → Option (List α)
  | [] => none
  | x :: xs =>
    if p x then some (x :: xs)
    else
      match moveToFront p xs with
      | some (y :: ys) => some (y :: x :: ys)
      | _ => none

theorem mem_moveToFront {α : Type} {p : α → Bool} :
    ∀ {l l' : List α}, moveToFront p l = some l' → ∀ a, a ∈ l' ↔ a ∈ l
  | [], _, h, _ => nomatch h
  | x :: xs, l', h, a => by
    unfold moveToFront at h
    split at h
    · cases h; rfl
    · split at h
      · rename_i y ys hys
        cases h
        have := mem_moveToFront hys a
        simp only [List.mem_cons] at this ⊢
        rw [← this]
        exact or_left_comm
      · cases h

theorem moveToFront_eq_some {α : Type} {p : α → Bool} :
    ∀ {l l' : List α}, moveToFront p l = some l' →
      ∃ pre x post, l = pre ++ x :: post ∧ p x ∧ (∀ y ∈ pre, p y = false) ∧
        l' = x :: (pre ++ post)
  | [], _, h => nomatch h
  | x :: xs, l', h => by
    unfold moveToFront at h
    split at h
    · cases h; exact ⟨[], x, xs, rfl, ‹_›, fun _ => nofun, rfl⟩
    · rename_i hx
      split at h
      · rename_i hys
        cases h
        obtain ⟨pre, z, post, rfl, hz, hpre, hl⟩ := moveToFront_eq_some hys
        cases hl
        refine ⟨x :: pre, _, post, rfl, hz, ?_, rfl⟩
        simpa [hx] using hpre
      · cases h

theorem moveToFront_eq_none {α : Type} {p : α → Bool} :
    ∀ {l : List α}, moveToFront p l = none → ∀ y ∈ l, p y = false
  | [], _, _, hy => nomatch hy
  | x :: xs, h, y, hy => by
    unfold moveToFront at h
    split at h
    · cases h
    · rename_i hx
      cases hxs : moveToFront p xs with
      | none =>
        rcases List.mem_cons.1 hy with rfl | hy
        · simpa using hx
        · exact moveToFront_eq_none hxs y hy
      | some l' =>
        obtain ⟨_, _, _, -, -, -, rfl⟩ := moveToFront_eq_some hxs
        simp [hxs] at h

end Lemmy
