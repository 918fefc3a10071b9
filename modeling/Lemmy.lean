import Lemmy.Table
import Lemmy.Schema
import Lemmy.Queries
import Lemmy.Apub.Activity
import Lemmy.Node
import Lemmy.Apub.CommunityInbox
import Lemmy.Apub.InboxSteps
import Lemmy.Apub.Replay
import Lemmy.Apub.Outcome
import Lemmy.Apub.Gate
import Lemmy.Apub.Handshake
import Lemmy.Apub.Status
import Lemmy.Apub.Post
import Lemmy.Apub.PostWire
import Lemmy.Api.Auth
import Lemmy.Api.Community
import Lemmy.Api.Site
import Lemmy.Api.Transfer
import Lemmy.Api.Status
import Lemmy.Api.Ban
import Lemmy.Request
import Lemmy.Races.Moderators
import Lemmy.Races.Edits
import Lemmy.Races.Bans
import Lemmy.Api.Create
import Lemmy.Api.Read
import Lemmy.Api.ReadBack
import Lemmy.Serve
import Lemmy.Races.Frame
import Lemmy.Races.Names
import Lemmy.Races.Modlog
import Lemmy.Races.Admins
