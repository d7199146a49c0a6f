import MessageSync.Keyed
import MessageSync.Time.Span
import MessageSync.Wire.Bodies

/-!
# The subscription registry

A subscribe is pending until it is acknowledged, with a deadline and the callers that wait for it.
An acknowledged conversation is active. A pending one whose connection is lost is interrupted:
active and interrupted conversations are subscribed again on the next connection.
-/

namespace MessageSync

/-- A caller that waits for an answer. -/
abbrev Waiter := Nat

/-- Why a subscribe fails. -/
inductive SubscribeError where
  | notConnected
  | rejected (reason : String)
  | timeout (limit : Span)
  | connectionLost
  | cancelled
  | engineStopped
deriving DecidableEq, Inhabited

/-- The text of the error. -/
def SubscribeError.message : SubscribeError → String
  | .notConnected => "not connected"
  | .rejected reason => "subscription rejected: " ++ reason
  | .timeout limit => "no subscribe ack within " ++ limit.text
  | .connectionLost => "connection lost before the subscribe was acknowledged"
  | .cancelled => "subscribe cancelled by unsubscribe"
  | .engineStopped => "sync engine has stopped"

/-- The answer to a caller that waits for a subscribe. -/
structure SubscribeAnswer where
  waiter : Waiter
  result : Except SubscribeError SubscribeAck

/-- A subscribe that is not acknowledged. -/
structure PendingSubscribe where
  deadline : Instant
  waiters : List Waiter
deriving DecidableEq, Inhabited

/-- The same answer to every waiting caller. -/
def PendingSubscribe.finish (pending : PendingSubscribe)
    (result : Except SubscribeError SubscribeAck) : List SubscribeAnswer :=
  pending.waiters.map fun waiter => ⟨waiter, result⟩

/-- What an acknowledgement did. -/
inductive AckOutcome where
  | activated
  | rejected (reason : String)
  /-- It confirms a conversation that is active. -/
  | confirmed
  /-- It ends a conversation that was active. -/
  | revoked (reason : String)
  /-- It concerns no conversation that is pending, interrupted or active, or comes too late. -/
  | ignored
deriving DecidableEq, Inhabited

/-- The subscribed conversations and those on the way. -/
structure SubscriptionRegistry where
  active : TextSet
  interrupted : TextSet
  pending : Keyed PendingSubscribe
  timeout : Millis
deriving DecidableEq, Inhabited

namespace SubscriptionRegistry

/-- The registry without conversations. -/
def empty (timeout : Millis) : SubscriptionRegistry :=
  ⟨.empty, .empty, .empty, timeout⟩

/-- The error of a subscribe that was not acknowledged in time. -/
def timeoutError (registry : SubscriptionRegistry) : SubscribeError :=
  .timeout (.ofMillis registry.timeout)

/-- Notes a subscribe. The result says whether it is new, and has to be sent; otherwise the caller
joins the one that is pending. -/
def begin (registry : SubscriptionRegistry) (conversationId : String) (waiter : Waiter)
    (now : Instant) : Bool × SubscriptionRegistry :=
  match registry.pending.get? conversationId with
  | some pending =>
    let joined := { pending with waiters := pending.waiters ++ [waiter] }
    (false, { registry with pending := registry.pending.set conversationId joined })
  | none =>
    let pending := ⟨now + registry.timeout, [waiter]⟩
    (true, { registry with pending := registry.pending.set conversationId pending })

/-- Takes an acknowledgement. -/
def acknowledge (registry : SubscriptionRegistry) (ack : SubscribeAck) (now : Instant) :
    AckOutcome × List SubscribeAnswer × SubscriptionRegistry :=
  let conversation := ack.conversationId
  let reason := ack.error.getD "subscribe refused"
  match registry.pending.get? conversation with
  | some pending =>
    let registry := { registry with
      pending := registry.pending.erase conversation
      interrupted := registry.interrupted.erase conversation }
    if pending.deadline ≤ now then
      (.ignored, pending.finish (.error registry.timeoutError), registry)
    else if ack.success then
      (.activated, pending.finish (.ok ack),
        { registry with active := registry.active.insert conversation })
    else (.rejected reason, pending.finish (.error (.rejected reason)), registry)
  | none =>
    if registry.interrupted.contains conversation then
      let registry := { registry with interrupted := registry.interrupted.erase conversation }
      if ack.success then
        (.activated, [], { registry with active := registry.active.insert conversation })
      else (.rejected reason, [], registry)
    else if !registry.active.contains conversation then (.ignored, [], registry)
    else if ack.success then (.confirmed, [], registry)
    else
      (.revoked reason, [], { registry with active := registry.active.erase conversation })

/-- Forgets a conversation. The result says whether anything changed. -/
def unsubscribe (registry : SubscriptionRegistry) (conversationId : String) :
    Bool × List SubscribeAnswer × SubscriptionRegistry :=
  let answers :=
    match registry.pending.get? conversationId with
    | some pending => pending.finish (.error .cancelled)
    | none => []
  let changed := registry.active.contains conversationId ||
    registry.interrupted.contains conversationId || registry.pending.contains conversationId
  (changed, answers, { registry with
    active := registry.active.erase conversationId
    interrupted := registry.interrupted.erase conversationId
    pending := registry.pending.erase conversationId })

/-- Gives up on every pending subscribe whose deadline has passed. The result also lists their
conversations. -/
def expire (registry : SubscriptionRegistry) (now : Instant) :
    List String × List SubscribeAnswer × SubscriptionRegistry :=
  let (expired, kept) := registry.pending.entries.partition fun entry => entry.2.deadline ≤ now
  (expired.map Prod.fst,
    expired.flatMap fun entry => entry.2.finish (.error registry.timeoutError),
    { registry with pending := ⟨kept⟩ })

/-- Gives up on every pending subscribe. The conversations are interrupted. -/
def abandonPending (registry : SubscriptionRegistry) (error : SubscribeError) :
    List SubscribeAnswer × SubscriptionRegistry :=
  (registry.pending.values.flatMap fun pending => pending.finish (.error error),
    { registry with
      pending := .empty
      interrupted := registry.pending.keys.foldl TextSet.insert registry.interrupted })

/-- The first deadline of a pending subscribe. -/
def nextDeadline (registry : SubscriptionRegistry) : Option Instant :=
  (registry.pending.values.map PendingSubscribe.deadline).min?

/-- Whether a conversation is active. -/
def isSubscribed (registry : SubscriptionRegistry) (conversationId : String) : Bool :=
  registry.active.contains conversationId

/-- The conversations to subscribe again on the next connection, in order. -/
def retained (registry : SubscriptionRegistry) : List String :=
  (registry.active.union registry.interrupted).keys

end SubscriptionRegistry

end MessageSync
