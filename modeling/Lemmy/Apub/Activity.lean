import Lemmy.Schema

/-! The activity envelope a community inbox receives (`CommunityAcceptedActivities`) and the
checks of `crate::inbox` and `verify_activity_domains_valid` that read it. Those helpers are
not in the sources; they are modelled from the spec (§4.2, §4.3, §4.5). -/

namespace Lemmy

inductive CommunityValidTypes
  | follow
  | undo
  | create
  | update
  | like
  | dislike
  | delete
  | remove
  deriving DecidableEq, Repr

inductive AnyBase
  | link (u : Url)
  | node (kind : Option String) (id : Option Url) (actor : Option Url) (object : List Url)
  deriving DecidableEq, Repr

structure Activity where
  id : Option Url
  kind : Option CommunityValidTypes
  actor : Url
  to_ : List Url
  cc : List Url
  object : List AnyBase
  deriving DecidableEq, Repr

/-- The node's configuration (`Settings`) as the inbox reads it, and the actor documents the
other instances serve, which the actor resolver fetches. -/
structure Settings where
  hostname : String
  remote : List Actor
  deriving DecidableEq, Repr

def public : Url := ⟨"www.w3.org", "/ns/activitystreams#Public"⟩

def checkedId (id : Option Url) (domain : String) : Except LemmyError (Option Url) :=
  match id with
  | some u => if u.host = domain then .ok (some u) else .error .domain
  | none => .ok none

def getActivityId (a : Activity) (creatorUri : Url) : Except LemmyError Url :=
  match checkedId a.id creatorUri.host with
  | .ok (some u) => .ok u
  | .ok none => .error .context
  | .error e => .error e

theorem getActivityId_eq_ok {a : Activity} {u id : Url} (h : getActivityId a u = .ok id) :
    a.id = some id := by
  unfold getActivityId checkedId at h
  cases hid : a.id with
  | none => simp [hid] at h
  | some v => by_cases hv : v.host = u.host <;> simp_all

def getActivityToAndCc (a : Activity) : List Url := a.to_ ++ a.cc

def assertActivityNotLocal (cfg : Settings) (a : Activity) : Except LemmyError Unit :=
  match a.id with
  | none => .error .context
  | some u =>
    if u.host = cfg.hostname then
      .error (.anyhow "Error: received activity which was sent by local instance")
    else .ok ()

def isAddressedToPublic (a : Activity) : Except LemmyError Unit :=
  if public ∈ getActivityToAndCc a then .ok ()
  else .error (.anyhow "Activity is not addressed to public")

def isSingleKind (object : List AnyBase) (kind : String) : Bool :=
  match object with
  | [.node (some k) _ _ _] => k = kind
  | _ => false

def objectId (object : List AnyBase) : Except LemmyError Url :=
  match object with
  | [.link u] => .ok u
  | [.node _ (some u) _ _] => .ok u
  | _ => .error .context

def verifyActivityDomainsValid (id : Option Url) (object : List AnyBase) (actorId : Url)
    (objectDomainMustMatch : Bool) : Except LemmyError Unit :=
  match checkedId id actorId.host, objectId object with
  | .error e, _ => .error e
  | .ok _, .error e => .error e
  | .ok _, .ok o => if objectDomainMustMatch ∧ o.host ≠ actorId.host then .error .domain else .ok ()

def followOfUndo (object : List AnyBase) : Except LemmyError (Option Url × List Url) :=
  match object with
  | [.node (some "Follow") id (some _) (o :: os)] => .ok (id, o :: os)
  | _ => .error .context

end Lemmy
