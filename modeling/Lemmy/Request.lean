import Lemmy.Api.Community
import Lemmy.Api.Site

/-! The requests the node serves concurrently: inbound deliveries to community inboxes and the
API handlers that write the store, as threads of one kind. -/

namespace Lemmy

inductive Request
  | delivery (d : CommunityInbox.Delivery)
  | followCommunity (d : FollowCommunity.Data) (pc : FollowCommunity.Pc)
  | banFromCommunity (d : BanFromCommunity.Data) (pc : BanFromCommunity.Pc)
  | editCommunity (d : EditCommunity.Data) (pc : EditCommunity.Pc)
  | deleteCommunity (d : DeleteCommunity.Data) (pc : DeleteCommunity.Pc)
  | removeCommunity (d : RemoveCommunity.Data) (pc : RemoveCommunity.Pc)
  | addModToCommunity (d : AddModToCommunity.Data) (pc : AddModToCommunity.Pc)
  | transferCommunity (d : TransferCommunity.Data) (pc : TransferCommunity.Pc)
  | createSite (d : CreateSite.Data) (pc : CreateSite.Pc)
  | editSite (d : EditSite.Data) (pc : EditSite.Pc)
  | transferSite (d : TransferSite.Data) (pc : TransferSite.Pc)
  deriving DecidableEq, Repr

structure Setup where
  adminUsername : String
  adminPassword : String
  adminEmail : Option String
  siteName : String
  deriving DecidableEq, Repr

structure Register where
  username : String
  email : Option String
  password : String
  passwordVerify : String
  showNsfw : Bool
  captchaUuid : Option String
  captchaAnswer : Option String
  deriving DecidableEq, Repr

/-- The node's configuration as the handlers read it, with the collaborators left abstract:
the url crate's parser, and `Register::perform` (its handler is not in the sources), which
answers the token of the user it registers and leaves the store as it has written it. -/
structure Config where
  settings : Settings
  slurs : SlurFilter
  urlParse : String → Option Url
  setup : Option Setup
  register : Register → Fault → Db → Except LemmyError (Nat × Db)

namespace Request

def step (cfg : Config) : Request → Fault → State → Request × State
  | .delivery d, f, s =>
    (.delivery (d.step cfg.settings f s).1, (d.step cfg.settings f s).2)
  | .followCommunity d pc, f, s =>
    (.followCommunity d (FollowCommunity.next d pc f s).1, (FollowCommunity.next d pc f s).2)
  | .banFromCommunity d pc, f, s =>
    (.banFromCommunity d (BanFromCommunity.next d pc f s).1, (BanFromCommunity.next d pc f s).2)
  | .editCommunity d pc, f, s =>
    (.editCommunity d (EditCommunity.next cfg.slurs cfg.urlParse d pc f s).1,
      (EditCommunity.next cfg.slurs cfg.urlParse d pc f s).2)
  | .deleteCommunity d pc, f, s =>
    (.deleteCommunity d (DeleteCommunity.next d pc f s).1, (DeleteCommunity.next d pc f s).2)
  | .removeCommunity d pc, f, s =>
    (.removeCommunity d (RemoveCommunity.next d pc f s).1, (RemoveCommunity.next d pc f s).2)
  | .addModToCommunity d pc, f, s =>
    (.addModToCommunity d (AddModToCommunity.next d pc f s).1,
      (AddModToCommunity.next d pc f s).2)
  | .transferCommunity d pc, f, s =>
    (.transferCommunity d (TransferCommunity.next d pc f s).1,
      (TransferCommunity.next d pc f s).2)
  | .createSite d pc, f, s =>
    (.createSite d (CreateSite.next cfg.slurs d pc f s).1, (CreateSite.next cfg.slurs d pc f s).2)
  | .editSite d pc, f, s =>
    (.editSite d (EditSite.next cfg.slurs cfg.urlParse d pc f s).1,
      (EditSite.next cfg.slurs cfg.urlParse d pc f s).2)
  | .transferSite d pc, f, s =>
    (.transferSite d (TransferSite.next d pc f s).1, (TransferSite.next d pc f s).2)

end Request

end Lemmy
