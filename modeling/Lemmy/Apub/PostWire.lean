import Lemmy.Apub.Post

namespace Lemmy

/-- Modelled from the spec: `convert_datetime` (`lemmy_utils`, not in the sources), a naive
date-time read as UTC and written with offset 0, as the spec words it. Upstream writes it at the
server's local offset, which is 0 only on a server that runs in UTC. -/
def convertDatetime (n : NaiveDateTime) : DateTime := ⟨n, 0⟩

@[simp] theorem naiveLocal_convertDatetime (n : NaiveDateTime) :
    (convertDatetime n).naiveLocal = n := by
  simp [convertDatetime, DateTime.naiveLocal]

@[simp] theorem naiveLocal_comp_convertDatetime : DateTime.naiveLocal ∘ convertDatetime = id :=
  funext naiveLocal_convertDatetime

def Post.toApub (p : Post) (db : Db) : Except LemmyError PageExt :=
  match db.person.find? p.creatorId, db.community.find? p.communityId with
  | some creator, some community =>
    .ok { id := some p.apId, attributedTo := some creator.actorId,
          to_ := [community.actorId, public], name := some p.name, summary := some p.name,
          url := p.url, image := p.thumbnailUrl, source := p.body,
          published := some (convertDatetime p.published),
          updated := p.updated.map convertDatetime, commentsEnabled := some (!p.locked),
          sensitive := some p.nsfw, stickied := some p.stickied }
  | _, _ => .error (.diesel .notFound)

/-- The unique constraints on `person.actor_id` and `community.actor_id`, which the tables of
the model, keyed by `id`, do not carry. -/
def Db.ActorIdsUnique (db : Db) : Prop :=
  (db.person.rows.map (·.actorId)).Nodup ∧ (db.community.rows.map (·.actorId)).Nodup

instance actorIdsUniqueDecidable (db : Db) : Decidable db.ActorIdsUnique :=
  inferInstanceAs (Decidable (_ ∧ _))

theorem find?_actorId_of_nodup {α : Type} {l : List α} {actorId : α → Url}
    (h : (l.map actorId).Nodup) {x : α} (hx : x ∈ l) :
    l.find? (fun y => actorId y = actorId x) = some x := by
  obtain ⟨y, hy⟩ := Option.isSome_iff_exists.1
    ((List.find?_isSome (p := fun y => decide (actorId y = actorId x))).2 ⟨x, hx, by simp⟩)
  have hya := List.find?_some hy
  simp only [decide_eq_true_eq] at hya
  rw [hy, List.inj_on_of_nodup_map h (List.mem_of_find?_eq_some hy) hx hya]

section Resolve

variable (col : Collaborators) {db : Db} (hu : db.ActorIdsUnique)
include hu

theorem getOrFetchAndUpsertPerson_stored {p : Person} (hp : p ∈ db.person.rows) :
    getOrFetchAndUpsertPerson col p.actorId db = (.ok p, db) := by
  simp [getOrFetchAndUpsertPerson, Person.readFromApubId, Db.found,
    find?_actorId_of_nodup hu.1 hp]

theorem getToCommunity_stored {c : Community} (hc : c ∈ db.community.rows) (us : List Url) :
    getToCommunity col (c.actorId :: us) db = (.ok c, db) := by
  simp [getToCommunity, getOrFetchAndUpsertCommunity, find?_actorId_of_nodup hu.2 hc]

end Resolve

theorem post_page_round_trip (col : Collaborators) (p : Post) (db : Db) (expectedDomain : Url)
    (hu : db.ActorIdsUnique) (hcreator : (db.person.find? p.creatorId).isSome)
    (hcommunity : (db.community.find? p.communityId).isSome) (hurl : p.url = none)
    (hname : col.checkSlurs p.name = .ok ()) (hbody : ∀ b ∈ p.body, col.removeSlurs b = b)
    (hdomain : expectedDomain.host = p.apId.host) :
    ∃ page form, p.toApub db = .ok page ∧
      PostForm.fromApub col page expectedDomain db = (.ok form, db) ∧
      form.name = p.name ∧ form.body = p.body ∧ form.url = p.url ∧
      form.thumbnailUrl = p.thumbnailUrl ∧ form.creatorId = p.creatorId ∧
      form.communityId = p.communityId ∧ form.nsfw = p.nsfw ∧ form.apId = some p.apId ∧
      form.published = some p.published ∧ form.updated = p.updated ∧
      form.locked = some p.locked ∧ form.stickied = some p.stickied := by
  obtain ⟨creator, hc⟩ := Option.isSome_iff_exists.1 hcreator
  obtain ⟨community, hm⟩ := Option.isSome_iff_exists.1 hcommunity
  obtain ⟨hcm, hcid⟩ := Table.find?_eq_some hc
  obtain ⟨hmm, hmid⟩ := Table.find?_eq_some hm
  have hb : p.body.map col.removeSlurs = p.body := by
    cases h : p.body with
    | none => rfl
    | some b => rw [Option.map_some', hbody b (h ▸ rfl)]
  simp only [Post.toApub, hc, hm, Except.ok.injEq, exists_and_left, exists_eq_left',
    PostForm.fromApub,
    getOrFetchAndUpsertPerson_stored col hu hcm, getToCommunity_stored col hu hmm, hurl, hname,
    checkObjectDomain, checkedId, hdomain]
  simp [hb, hcid, hmid, hname]

section Scenario

open CommunityInbox

def alicePost : Post :=
  { id := 1, name := "Hello", url := none, body := some "Hi all", creatorId := alice.id,
    communityId := tech.id, removed := false, locked := true, published := ⟨1000⟩,
    updated := some ⟨2000⟩, deleted := false, nsfw := false, stickied := true,
    thumbnailUrl := some ⟨"b.example", "/pictrs/1.png"⟩, apId := ⟨"b.example", "/post/1"⟩,
    isLocal := false }

theorem alice_post_round_trip :
    ∃ page form, alicePost.toApub scenarioDb = .ok page ∧
      PostForm.fromApub noCollaborators page ⟨"b.example", "/"⟩ scenarioDb = (.ok form, scenarioDb) ∧
      form.name = alicePost.name ∧ form.body = alicePost.body ∧ form.url = alicePost.url ∧
      form.thumbnailUrl = alicePost.thumbnailUrl ∧ form.creatorId = alicePost.creatorId ∧
      form.communityId = alicePost.communityId ∧ form.nsfw = alicePost.nsfw ∧
      form.apId = some alicePost.apId ∧ form.published = some alicePost.published ∧
      form.updated = alicePost.updated ∧ form.locked = some alicePost.locked ∧
      form.stickied = some alicePost.stickied :=
  post_page_round_trip noCollaborators alicePost scenarioDb ⟨"b.example", "/"⟩ (by decide) rfl rfl
    rfl rfl (fun _ _ => rfl) rfl

def alicePageAt (t : DateTime) : PageExt := { alicePage with published := some t }

/-- 01:00 UTC written at offset 0 and written as 03:00+02:00 is one instant, stored as two
different date-times. -/
theorem one_instant_stored_apart :
    (⟨⟨3600⟩, 0⟩ : DateTime).utc = (⟨⟨3600⟩, 7200⟩ : DateTime).utc ∧
      ((PostForm.fromApub noCollaborators (alicePageAt ⟨⟨3600⟩, 0⟩) ⟨"b.example", "/"⟩
        scenarioDb).1.toOption.bind (·.published)) = some ⟨3600⟩ ∧
      ((PostForm.fromApub noCollaborators (alicePageAt ⟨⟨3600⟩, 7200⟩) ⟨"b.example", "/"⟩
        scenarioDb).1.toOption.bind (·.published)) = some ⟨10800⟩ := by
  decide

end Scenario

end Lemmy
