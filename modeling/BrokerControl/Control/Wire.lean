import BrokerControl.Broker.Wire
import BrokerControl.Control.Failure
import BrokerControl.Control.Payload

/-!
# JSON forms of requests and results
-/

namespace BrokerControl.Control

open Json

/-! ## Users -/

instance : Wire Credentials where
  encode c := .object [("username", encode c.username), ("api_key", encode c.apiKey),
    ("created", encode c.created)]
  decode := ((((Record.of Credentials.mk).required "username").required "api_key").required
    "created").decode

instance : Wire PasswordReset where
  encode r := .object [("username", encode r.username), ("api_key", encode r.apiKey)]
  decode := (((Record.of PasswordReset.mk).required "username").required "api_key").decode

/-! ## Adaptors -/

instance : Wire RegisterAdaptor where
  encode r := .object [("adaptor_id", encode r.adaptorId), ("owner", encode r.owner),
    ("vhost", encode r.vhost)]
  decode := ((((Record.of RegisterAdaptor.mk).required "adaptor_id").required "owner").optional
    "vhost" none).decode

instance : Wire DeleteAdaptor where
  encode r := .object [("adaptor_id", encode r.adaptorId), ("owner", encode r.owner),
    ("vhost", encode r.vhost)]
  decode := ((((Record.of DeleteAdaptor.mk).required "adaptor_id").required "owner").optional
    "vhost" none).decode

instance : Wire AdaptorRegistration where
  encode r := .object [("username", encode r.username), ("api_key", encode r.apiKey),
    ("id", encode r.id), ("url", encode r.url), ("port", encode r.port), ("vhost", encode r.vhost)]
  decode := (((((((Record.of AdaptorRegistration.mk).required "username").required
    "api_key").required "id").required "url").required "port").required "vhost").decode

instance : Wire AdaptorBindings where
  encode b := .object [("adaptor_id", encode b.adaptorId), ("queues", encode b.queues)]
  decode := (((Record.of AdaptorBindings.mk).required "adaptor_id").required "queues").decode

/-! ## Heartbeats -/

instance : Wire Heartbeat where
  encode h := .object [("adaptor_id", encode h.adaptorId), ("status", encode h.status),
    ("vhost", encode h.vhost)]
  decode := ((((Record.of Heartbeat.mk).required "adaptor_id").required "status").optional
    "vhost" none).decode

instance : Wire HeartbeatRoute where
  encode r := .object [("queue", encode r.queue), ("routing_key", encode r.routingKey)]
  decode := (((Record.of HeartbeatRoute.mk).required "queue").required "routing_key").decode

/-! ## Streaming subscriptions -/

instance : Wire StreamingRequest where
  encode r := .object [("consumer", encode r.consumer), ("name", encode r.name),
    ("entities", encode r.entities)]
  decode := ((((Record.of StreamingRequest.mk).required "consumer").required "name").optional
    "entities" []).decode

instance : Wire AppendStreaming where
  encode r := .object [("subscription_id", encode r.subscriptionId),
    ("entities", encode r.entities)]
  decode := (((Record.of AppendStreaming.mk).required "subscription_id").optional
    "entities" []).decode

instance : Wire DeleteStreaming where
  encode r := .object [("subscription_id", encode r.subscriptionId),
    ("consumer", encode r.consumer)]
  decode := (((Record.of DeleteStreaming.mk).required "subscription_id").required
    "consumer").decode

instance : Wire StreamingSubscription where
  encode s := .object [("subscription_id", encode s.subscriptionId),
    ("username", encode s.username), ("api_key", encode s.apiKey),
    ("streaming_url", encode s.streamingUrl), ("host", encode s.host), ("port", encode s.port),
    ("vhost", encode s.vhost)]
  decode := ((((((((Record.of StreamingSubscription.mk).required "subscription_id").required
    "username").required "api_key").required "streaming_url").required "host").required
    "port").required "vhost").decode

instance : Wire StreamingBindings where
  encode b := .object [("subscription_id", encode b.subscriptionId),
    ("entities", encode b.entities)]
  decode := (((Record.of StreamingBindings.mk).required "subscription_id").required
    "entities").decode

/-! ## Callback subscriptions -/

instance : Wire CallbackRequest where
  encode r := .object [("consumer", encode r.consumer), ("name", encode r.name),
    ("callback_url", encode r.callbackUrl), ("entities", encode r.entities)]
  decode := (((((Record.of CallbackRequest.mk).required "consumer").required "name").required
    "callback_url").optional "entities" []).decode

instance : Wire DeleteCallback where
  encode r := .object [("consumer", encode r.consumer), ("name", encode r.name)]
  decode := (((Record.of DeleteCallback.mk).required "consumer").required "name").decode

instance : Wire CallbackSummary where
  encode s := .object [("subscription_id", encode s.subscriptionId),
    ("callback_url", encode s.callbackUrl), ("entities", encode s.entities)]
  decode := ((((Record.of CallbackSummary.mk).required "subscription_id").required
    "callback_url").required "entities").decode

/-! ## Topology and failures -/

instance : Wire TopologyEntry where
  encode e := .object [("kind", encode e.kind), ("vhost", encode e.vhost), ("name", encode e.name),
    ("created", encode e.created)]
  decode := (((((Record.of TopologyEntry.mk).required "kind").required "vhost").required
    "name").required "created").decode

instance : Wire Failure.Reply where
  encode r := .object [("code", encode r.code), ("message", encode r.message)]
  decode := (((Record.of Failure.Reply.mk).required "code").required "message").decode

end BrokerControl.Control
