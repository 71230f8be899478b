import Letterbox.Envelope.Parse

namespace Letterbox

inductive Unsearchable where
  | tooManyTerms
  | patternTooLong
  | unreadableMetadata
  deriving DecidableEq, Repr

inductive UnusableData where
  | foreign
  | unreachable
  deriving DecidableEq, Repr

inductive MailError where
  | closed
  | closedToMigration
  | idTaken (id : String)
  | tagTaken (name : String)
  | unsearchable (why : Unsearchable)
  | unusableData (why : UnusableData)
  | noMessage (id : String)
  | noPart (partId id : String)
  | noMatch
  | unreadablePayload
  | payloadMalformed (id : String) (why : Malformed)
  | malformed (why : Malformed)
  | badPattern (pattern : String)
  | ageOutOfRange
  deriving DecidableEq, Repr

namespace Unsearchable

def message : Unsearchable → String
  | .tooManyTerms => "(code: 1) Expression tree is too large (maximum depth 1000)"
  | .patternTooLong => "(code: 1) LIKE or GLOB pattern too complex"
  | .unreadableMetadata => "(code: 1) malformed JSON"

end Unsearchable

def UnusableData.message : UnusableData → String
  | foreign => "(code: 26) file is not a database"
  | unreachable => "(code: 14) unable to open database file"

namespace MailError

def isNotFound : MailError → Bool
  | .noMessage _ => true
  | .noPart _ _ => true
  | .noMatch => true
  | _ => false

def message : MailError → String
  | .closed => "Storage unavailable: the mailbox is closed"
  | .closedToMigration => "Migration failed: the mailbox is closed"
  | .idTaken id => "Storage unavailable: the id " ++ id ++ " is taken"
  | .tagTaken name => "Storage unavailable: the tag " ++ name ++ " is taken"
  | .unsearchable why => "Storage unavailable: error returned from database: " ++ why.message
  | .unusableData why => "Storage unavailable: error returned from database: " ++ why.message
  | .noMessage id => "Resource not found: message " ++ id
  | .noPart partId id => "Resource not found: part " ++ partId ++ " of message " ++ id
  | .noMatch => "Resource not found: no matching messages"
  | .unreadablePayload => "Corrupt payload: error decompressing message"
  | .payloadMalformed id why =>
    "Corrupt payload: stored message " ++ id ++ " no longer parses: Malformed input: " ++
      why.message
  | .malformed why => "Malformed input: " ++ why.message
  | .badPattern pattern => "Configuration error: invalid tag pattern " ++ pattern
  | .ageOutOfRange => "the age limit is out of range"

def causes : MailError → List String
  | .unsearchable why => ["error returned from database: " ++ why.message, why.message]
  | .unusableData why => ["error returned from database: " ++ why.message, why.message]
  | _ => []

end MailError

end Letterbox
