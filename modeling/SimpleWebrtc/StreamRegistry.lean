import SimpleWebrtc.Library.AssocMap
import SimpleWebrtc.SdpSummary

/-!
# The stream registry

The sessions of the server: publishers by stream and by session id, subscribers
by session id. A subscriber belongs to a stream and not to its publisher, so it
stays when the publisher is removed.
-/
namespace SimpleWebrtc.StreamRegistry
open Library SdpSummary

inductive StreamRegistryError where
  | streamAlreadyHasPublisher
  | publisherNotFound
  | publisherSessionNotFound
  | subscriberSessionNotFound
deriving Repr, DecidableEq

inductive StreamSessionKind where
  | publisher
  | subscriber
deriving Repr, DecidableEq

/-- A session, with the transport it is to own. -/
structure StreamSession where
  sessionId : Text
  streamId : Text
  remoteOfferSummary : WebrtcOfferSummary
  transport : ℕ
deriving DecidableEq

/-- What `random_string` may return. -/
def RandomString (length : ℕ) : Type := { text : Text // text.length = length }

structure Registry where
  publishersByStreamId : AssocMap Text StreamSession := AssocMap.empty
  publishersBySessionId : AssocMap Text StreamSession := AssocMap.empty
  subscribersBySessionId : AssocMap Text StreamSession := AssocMap.empty
deriving DecidableEq

namespace Registry
variable (r : Registry)

def isUnused (id : Text) : Bool :=
  (r.publishersBySessionId.find? id).isNone && (r.subscribersBySessionId.find? id).isNone

/-- The first unused one of the ids drawn. No value means that more are to be drawn. -/
def makeUniqueSessionId (drawn : List (RandomString 24)) : Option Text :=
  (drawn.map Subtype.val).find? r.isUnused

/-- The outer `none` means that no unused session id was drawn yet. -/
def createPublisherSession (streamId : Text) (remoteOfferSummary : WebrtcOfferSummary)
    (transport : ℕ) (drawn : List (RandomString 24)) :
    Option (Except StreamRegistryError (Registry × StreamSession)) :=
  if (r.publishersByStreamId.find? streamId).isSome then
    some (.error .streamAlreadyHasPublisher)
  else
    (r.makeUniqueSessionId drawn).map fun sessionId =>
      let session : StreamSession := { sessionId, streamId, remoteOfferSummary, transport }
      .ok ({ r with
        publishersBySessionId := r.publishersBySessionId.insertOrAssign sessionId session
        publishersByStreamId := r.publishersByStreamId.insertOrAssign streamId session }, session)

def createSubscriberSession (streamId : Text) (remoteOfferSummary : WebrtcOfferSummary)
    (transport : ℕ) (drawn : List (RandomString 24)) :
    Option (Except StreamRegistryError (Registry × StreamSession)) :=
  if (r.publishersByStreamId.find? streamId).isNone then some (.error .publisherNotFound)
  else
    (r.makeUniqueSessionId drawn).map fun sessionId =>
      let session : StreamSession := { sessionId, streamId, remoteOfferSummary, transport }
      .ok ({ r with
        subscribersBySessionId := r.subscribersBySessionId.insertOrAssign sessionId session },
        session)

def removePublisherSession (sessionId : Text) : Except StreamRegistryError Registry :=
  match r.publishersBySessionId.find? sessionId with
  | none => .error .publisherSessionNotFound
  | some publisher =>
      .ok { r with
        publishersByStreamId := r.publishersByStreamId.erase publisher.streamId
        publishersBySessionId := r.publishersBySessionId.erase sessionId }

def removeSubscriberSession (sessionId : Text) : Except StreamRegistryError Registry :=
  match r.subscribersBySessionId.find? sessionId with
  | none => .error .subscriberSessionNotFound
  | some _ =>
      .ok { r with subscribersBySessionId := r.subscribersBySessionId.erase sessionId }

def removeSubscriberSessionsByStreamId (streamId : Text) : Registry × List StreamSession :=
  ({ r with
    subscribersBySessionId :=
      r.subscribersBySessionId.filter fun _ session => decide (session.streamId ≠ streamId) },
    r.subscribersBySessionId.values.filter fun session => decide (session.streamId = streamId))

structure StreamSessionLifecycleSnapshot where
  kind : StreamSessionKind
  streamId : Text
  sessionId : Text
deriving DecidableEq

def sessionLifecycleSnapshots : List StreamSessionLifecycleSnapshot :=
  r.publishersBySessionId.values.map (fun s => ⟨.publisher, s.streamId, s.sessionId⟩) ++
    r.subscribersBySessionId.values.map fun s => ⟨.subscriber, s.streamId, s.sessionId⟩

theorem isUnused_iff {r : Registry} {id : Text} :
    r.isUnused id = true ↔
      r.publishersBySessionId.find? id = none ∧ r.subscribersBySessionId.find? id = none := by
  simp [isUnused]

theorem makeUniqueSessionId_some {r : Registry} {drawn : List (RandomString 24)} {id : Text}
    (h : r.makeUniqueSessionId drawn = some id) : r.isUnused id = true ∧ id ≠ [] := by
  refine ⟨List.find?_some h, ?_⟩
  obtain ⟨⟨text, hlength⟩, -, rfl⟩ := List.mem_map.mp (List.mem_of_find?_eq_some h)
  rintro rfl
  simp at hlength

/-- What is known of a session the registry has just created. -/
structure Fresh (r : Registry) (streamId : Text) (offer : WebrtcOfferSummary) (transport : ℕ)
    (s : StreamSession) : Prop where
  streamId : s.streamId = streamId
  offer : s.remoteOfferSummary = offer
  transport : s.transport = transport
  sessionId_ne : s.sessionId ≠ []
  not_publisher : r.publishersBySessionId.find? s.sessionId = none
  not_subscriber : r.subscribersBySessionId.find? s.sessionId = none

theorem createPublisherSession_ok {r r' : Registry} {streamId : Text} {offer : WebrtcOfferSummary}
    {transport : ℕ} {drawn : List (RandomString 24)} {s : StreamSession}
    (h : r.createPublisherSession streamId offer transport drawn = some (.ok (r', s))) :
    r.Fresh streamId offer transport s ∧ r.publishersByStreamId.find? streamId = none ∧
      r' = { r with
        publishersBySessionId := r.publishersBySessionId.insertOrAssign s.sessionId s
        publishersByStreamId := r.publishersByStreamId.insertOrAssign streamId s } := by
  unfold createPublisherSession at h
  split_ifs at h with hfree
  · cases h
  · obtain ⟨id, hunique, hcreated⟩ := Option.map_eq_some_iff.mp h
    simp only [Except.ok.injEq, Prod.mk.injEq] at hcreated
    obtain ⟨rfl, rfl⟩ := hcreated
    obtain ⟨hunused, hid⟩ := makeUniqueSessionId_some hunique
    obtain ⟨hpublisher, hsubscriber⟩ := isUnused_iff.mp hunused
    exact ⟨⟨rfl, rfl, rfl, hid, hpublisher, hsubscriber⟩, by simpa using hfree, rfl⟩

theorem createSubscriberSession_ok {r r' : Registry} {streamId : Text}
    {offer : WebrtcOfferSummary} {transport : ℕ} {drawn : List (RandomString 24)}
    {s : StreamSession}
    (h : r.createSubscriberSession streamId offer transport drawn = some (.ok (r', s))) :
    r.Fresh streamId offer transport s ∧
      r' = { r with
        subscribersBySessionId := r.subscribersBySessionId.insertOrAssign s.sessionId s } := by
  unfold createSubscriberSession at h
  split_ifs at h
  · cases h
  · obtain ⟨id, hunique, hcreated⟩ := Option.map_eq_some_iff.mp h
    simp only [Except.ok.injEq, Prod.mk.injEq] at hcreated
    obtain ⟨rfl, rfl⟩ := hcreated
    obtain ⟨hunused, hid⟩ := makeUniqueSessionId_some hunique
    obtain ⟨hpublisher, hsubscriber⟩ := isUnused_iff.mp hunused
    exact ⟨⟨rfl, rfl, rfl, hid, hpublisher, hsubscriber⟩, rfl⟩

end Registry
end SimpleWebrtc.StreamRegistry
