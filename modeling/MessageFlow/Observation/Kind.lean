/-!
# Kinds of observations

A handler is observed producing messages in five ways and consuming them in two.  The kinds have a
fixed order, in which the observations of all kinds are merged.
-/

namespace MessageFlow

inductive Kind where
  /-- publishes to whoever subscribes -/
  | publisher
  /-- publishes through an extension of the context of a publisher -/
  | extensionPublisher
  /-- answers a request that it consumed -/
  | responder
  /-- sends to an endpoint known by convention -/
  | sender
  /-- sends a request and waits for the answer -/
  | responseSender
  /-- consumes a message -/
  | consumer
  /-- receives the answer to its own request -/
  | responseReceiver
  deriving DecidableEq

namespace Kind

/-- the kinds that produce messages, in merge order -/
def producers : List Kind := [publisher, extensionPublisher, responder, sender, responseSender]

/-- the kinds that consume messages, in merge order -/
def consumers : List Kind := [consumer, responseReceiver]

def all : List Kind := producers ++ consumers

/-- how manifests spell a kind -/
def label : Kind → String
  | publisher => "publisher"
  | extensionPublisher => "extension_publisher"
  | responder => "responder"
  | sender => "sender"
  | responseSender => "response_sender"
  | consumer => "consumer"
  | responseReceiver => "response_receiver"

def ofLabel? (text : String) : Option Kind := all.find? (·.label = text)

theorem mem_all (k : Kind) : k ∈ all := by cases k <;> decide

theorem ofLabel?_label (k : Kind) : ofLabel? k.label = some k := by cases k <;> decide

end Kind

end MessageFlow
