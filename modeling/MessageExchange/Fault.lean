import MessageExchange.Base64
import MessageExchange.Notification

/-! Everything that can go wrong, as causes. `Fault.text` is the one place where a cause gets its
wording. A wire or a handler may report a cause of its own; it is carried as text. -/

namespace MessageExchange

inductive ReadFailure
  | missing
  | notDirectory
  | isDirectory
  | nameTooLong
  | nulInPath
  | notText
  deriving DecidableEq, Repr

def ReadFailure.text : ReadFailure → String
  | .missing => "No such file or directory (os error 2)"
  | .notDirectory => "Not a directory (os error 20)"
  | .isDirectory => "Is a directory (os error 21)"
  | .nameTooLong => "File name too long (os error 36)"
  | .nulInPath => "file name contained an unexpected NUL byte"
  | .notText => "stream did not contain valid UTF-8"

inductive Misconfiguration
  | blankGatewayName
  | unnamedDefaultWire
  | blankSelectedWire
  | idleCorrelation
  | noWires
  | duplicateWire (id : String)
  | defaultWireMissing (id : String)
  | callbackTaken (kind : Kind)
  | handlerTaken (direction : Direction)
  | wireTaken (id : String)
  | wireUnattached (id : String)
  | endpointFileMissing (path : String) (failure : ReadFailure)
  | endpointFileUnreadable (failure : ReadFailure)
  | endpointFileMalformed
  | other (text : String)
  deriving DecidableEq, Repr

def Misconfiguration.text : Misconfiguration → String
  | .blankGatewayName => "gateway_name must not be empty"
  | .unnamedDefaultWire => "transport.default must name a transport"
  | .blankSelectedWire => "transport.selected must not be blank when present"
  | .idleCorrelation => "correlation ttl and sweep period must be positive"
  | .noWires => "no transport implementations found"
  | .duplicateWire id => "duplicate transport identifier '" ++ id ++ "'"
  | .defaultWireMissing id => "default transport '" ++ id ++ "' is not registered"
  | .callbackTaken kind => "a " ++ kind.text ++ " notification callback is already registered"
  | .handlerTaken direction => "incoming " ++ direction.text ++ " handler already registered"
  | .wireTaken id => "transport '" ++ id ++ "' already has an inbound handler registered"
  | .wireUnattached id => "transport '" ++ id ++ "' has no inbound handler"
  | .endpointFileMissing path failure =>
    "Static endpoint file " ++ path ++ " not found: " ++ failure.text
  | .endpointFileUnreadable failure => "Unable to read file: " ++ failure.text
  | .endpointFileMalformed => "Unable to parse JSON"
  | .other text => text

inductive Misfit
  | attachmentMissing (id : String)
  | unknownClass (raw : String)
  | other (text : String)
  deriving DecidableEq, Repr

def Misfit.text : Misfit → String
  | .attachmentMissing id =>
    "document references attachment '" ++ id ++ "' which was not delivered"
  | .unknownClass raw => "document class '" ++ raw ++ "' is neither request nor response"
  | .other text => text

inductive Refusal
  | pipelineClosed
  | workerGone
  | correlatorClosed (kind : Kind) (id : String)
  | other (text : String)
  deriving DecidableEq, Repr

def Refusal.text : Refusal → String
  | .pipelineClosed => "outbound pipeline is shutting down"
  | .workerGone => "outbound worker has stopped"
  | .correlatorClosed kind id =>
    kind.text ++ " correlator shut down while waiting for '" ++ id ++ "'"
  | .other text => text

inductive BadValue
  | blankPayloadId
  | blankMimeType
  | emptyCertificate
  | absent (field : String)
  | blank (field : String)
  | wrongKind (given expected : Kind)
  | endpointFieldMissing (participant field : String)
  | certificateNotBase64 (participant : String) (flaw : Base64.Flaw)
  | other (text : String)
  deriving DecidableEq, Repr

def BadValue.text : BadValue → String
  | .blankPayloadId => "payload id must not be empty"
  | .blankMimeType => "payload mime type must not be empty"
  | .emptyCertificate => "certificate must not be empty"
  | .absent field => field ++ " is required"
  | .blank field => field ++ " must not be empty"
  | .wrongKind given expected =>
    given.text ++ " notification delivered to " ++ expected.text ++ " correlator"
  | .endpointFieldMissing participant field =>
    "endpoint of '" ++ participant ++ "' is missing '" ++ field ++ "'"
  | .certificateNotBase64 participant flaw =>
    "certificate of '" ++ participant ++ "' must be base64 encoded: " ++ flaw.text
  | .other text => text

inductive Fault
  | configuration (cause : Misconfiguration)
  /-- The wire or the far side reports a failed exchange under a code. -/
  | exchange (code message : String)
  | noAnswer (messageId : String) (waited : Span)
  | classification (cause : Misfit)
  | rejected (cause : Refusal)
  | noPayload
  | invalidArgument (cause : BadValue)
  /-- A local handler failed on an inbound document. -/
  | handler (direction : Direction) (source : Fault)
  deriving DecidableEq, Repr

namespace Fault

def text : Fault → String
  | configuration cause => "configuration error: " ++ cause.text
  | exchange code message => "exchange error [" ++ code ++ "]: " ++ message
  | noAnswer id waited => "no notification for message '" ++ id ++ "' after " ++ waited.text
  | classification cause => "classification error: " ++ cause.text
  | rejected cause => "rejected: " ++ cause.text
  | noPayload => "message contains no payload"
  | invalidArgument cause => "invalid argument: " ++ cause.text
  | handler direction source => "incoming-" ++ direction.text ++ " handler failed: " ++ source.text

/-- A gateway cannot run on under a wrong configuration; every other fault concerns one message. -/
def isFatal : Fault → Bool
  | configuration _ => true
  | _ => false

/-- The code of the exchange that failed, however deep under handlers. -/
def exchangeCode : Fault → Option String
  | exchange code _ => some code
  | handler _ source => source.exchangeCode
  | _ => none

def source : Fault → Option Fault
  | handler _ source => some source
  | _ => none

end Fault

end MessageExchange
