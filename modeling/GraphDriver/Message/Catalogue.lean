import GraphDriver.Cluster.Replicas
import GraphDriver.Message.Reply
import GraphDriver.Message.Request
import GraphDriver.Stream.Transmitter

/-!
# Catalogue of messages

The schemas of everything that can be written and read by the name of its type.
-/

namespace GraphDriver.Catalogue

/-- The types by name. -/
def entries : List (String × Schema) :=
  [("RequestId", schema RequestId), ("SessionId", schema SessionId),
    ("SessionType", schema SessionType), ("TransactionType", schema TransactionType),
    ("Request", schema Request), ("RequestPayload", schema RequestPayload),
    ("QueryRequest", schema QueryRequest), ("ConceptManagerRequest", schema ConceptManagerRequest),
    ("LogicRequest", schema LogicRequest), ("ClientMessage", schema ClientMessage),
    ("ServerMessage", schema ServerMessage), ("Response", schema Response),
    ("ResponsePayload", schema ResponsePayload), ("QueryResponse", schema QueryResponse),
    ("ConceptManagerResponse", schema ConceptManagerResponse),
    ("LogicResponse", schema LogicResponse), ("ResponsePart", schema ResponsePart),
    ("StreamState", schema StreamState), ("PartPayload", schema PartPayload),
    ("QueryPart", schema QueryPart), ("LogicPart", schema LogicPart),
    ("UnaryRequest", schema UnaryRequest), ("UnaryResponse", schema UnaryResponse),
    ("ReplicaInfo", schema ReplicaInfo), ("ServerErrorCode", schema ServerErrorCode),
    ("ServerError", schema ServerError), ("Label", schema Label), ("Iid", schema Iid),
    ("ValueType", schema ValueType), ("Value", schema AttributeValue),
    ("TypeInfo", schema TypeInfo), ("AttributeTypeInfo", schema AttributeTypeInfo),
    ("ThingInfo", schema ThingInfo), ("AttributeInfo", schema AttributeInfo),
    ("Concept", schema Concept), ("ConceptMap", schema ConceptMap), ("Numeric", schema Numeric),
    ("ConceptMapGroup", schema ConceptMapGroup), ("NumericGroup", schema NumericGroup),
    ("Rule", schema Rule), ("Options", schema Options),
    ("TransmitterConfig", schema TransmitterConfig), ("ClusterConfig", schema FailoverConfig)]

/-- The schema of a type. -/
def find? (name : String) : Option Schema := (entries.find? (·.1 = name)).map (·.2)

end GraphDriver.Catalogue
