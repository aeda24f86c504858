import HttpMock.Request.Normalize
import HttpMock.Response.Queue
import HttpMock.Response.Builder
import HttpMock.Match.Matcher
import HttpMock.Match.Report
/-! Errors of the mock engine and the kinds they belong to, most specific first. -/
namespace HttpMock

/-- The kinds of errors, in their fixed order. -/
inductive ErrorKind where
  | invalidXml
  | uriContainsQuery
  | invalidJson
  | invalidJsonPath
  | malformedPayload
  | noResponseAdded
  | allResponsesProcessed
  | callbackNoResponse
  | noResponse
  | alwaysAlreadyAdded
  | responseAlreadyAdded
  | addFailed
  | noExpectations
  | noMatch
  | unprocessableBody
  | malformedHeader
  | fileNotFound
  | fixtureInvalidJson
  | invalidYaml
  | emptyFile
  | invalidFixture
  | invalidExpectation
  deriving DecidableEq, Repr

namespace ErrorKind

/-- Every kind, in order. -/
def all : List ErrorKind :=
  [.invalidXml, .uriContainsQuery, .invalidJson, .invalidJsonPath, .malformedPayload,
   .noResponseAdded, .allResponsesProcessed, .callbackNoResponse, .noResponse,
   .alwaysAlreadyAdded, .responseAlreadyAdded, .addFailed, .noExpectations, .noMatch,
   .unprocessableBody, .malformedHeader, .fileNotFound, .fixtureInvalidJson, .invalidYaml,
   .emptyFile, .invalidFixture, .invalidExpectation]

/-- The name of a kind. -/
def name : ErrorKind → String
  | .invalidXml => "InvalidXML"
  | .uriContainsQuery => "URIContainsQuery"
  | .invalidJson => "InvalidJSON"
  | .invalidJsonPath => "InvalidJSONPath"
  | .malformedPayload => "MalformedPayload"
  | .noResponseAdded => "NoResponseAdded"
  | .allResponsesProcessed => "AllResponsesProcessed"
  | .callbackNoResponse => "CallbackNoResponse"
  | .noResponse => "NoResponse"
  | .alwaysAlreadyAdded => "AlwaysAlreadyAdded"
  | .responseAlreadyAdded => "ResponseAlreadyAdded"
  | .addFailed => "AddFailed"
  | .noExpectations => "NoExpectations"
  | .noMatch => "NoMatch"
  | .unprocessableBody => "UnprocessableBody"
  | .malformedHeader => "MalformedHeader"
  | .fileNotFound => "FileNotFound"
  | .fixtureInvalidJson => "FixtureInvalidJSON"
  | .invalidYaml => "InvalidYAML"
  | .emptyFile => "EmptyFile"
  | .invalidFixture => "InvalidFixture"
  | .invalidExpectation => "InvalidExpectation"

/-- The kinds of a set, in the fixed order and each once. -/
def ordered (ks : List ErrorKind) : List ErrorKind := all.filter (ks.contains ·)

end ErrorKind

/-- The kinds of a request error. -/
def RequestError.kinds : RequestError → List ErrorKind
  | .malformedHeader _ => [.malformedHeader]
  | .unprocessableBody _ => [.unprocessableBody]

/-- The kinds of a payload error. -/
def Match.PayloadError.kinds : Match.PayloadError → List ErrorKind
  | .invalidXml _ => [.invalidXml, .malformedPayload]
  | .uriWithQuery _ => [.uriContainsQuery, .malformedPayload]
  | .unencodable _ => [.invalidJson, .malformedPayload]
  | .invalidPath _ _ => [.invalidJsonPath, .malformedPayload]

/-- The kinds of a queue error. -/
def Response.QueueError.kinds : Response.QueueError → List ErrorKind
  | .noResponseAdded => [.noResponseAdded, .noResponse]
  | .allResponsesProcessed => [.allResponsesProcessed, .noResponse]
  | .alwaysAlreadyAdded => [.alwaysAlreadyAdded, .addFailed]
  | .responseAlreadyAdded => [.responseAlreadyAdded, .addFailed]

/-- The kinds of a build error. -/
def Response.BuildError.kinds : Response.BuildError → List ErrorKind
  | .callbackNoResponse => [.callbackNoResponse, .noResponse]
  | _ => []

/-- An error of the mock engine. -/
inductive MockError where
  | request (e : RequestError)
  | payload (e : Match.PayloadError)
  | queue (e : Response.QueueError)
  | build (e : Response.BuildError)
  /-- An error that a test supplied: a response entry that raises, or a failed assertion. It may
  wrap another error, whose kinds it then has. -/
  | raised (message : Bytes) (wraps : Option MockError)
  /-- A request arrived and no expectation was registered; the request as rendered. -/
  | noExpectations (request : Bytes)
  /-- No expectation accepted the request; the request as rendered and every result. -/
  | noMatch (request : Bytes) (results : List Match.Result)
  /-- An expectation had no response left to give. -/
  | noResponse (cause : MockError) (expectation : Bytes)
  /-- A response could not be added to an expectation. -/
  | addResponse (cause : MockError) (expectation : Bytes)
  /-- An expectation that is not valid, with the expectation it concerns. -/
  | forExpectation (cause : MockError) (expectation : Bytes)
  /-- An expectation is not valid because of its cause. -/
  | invalid (cause : MockError)
  /-- A response was added without a builder. -/
  | missingBuilder
  /-- A file to send as a part could not be read. -/
  | unreadableFile (detail : String)
  /-- A custom resolver chose no expectation for the rendered request. -/
  | unresolved (request : Bytes)
  /-- An error of a fixture document: its kinds and message. -/
  | fixture (kinds : List ErrorKind) (message : Bytes)
  /-- An error an HTTP client met while sending a request: its operation, the URL and the
  cause. -/
  | client (op : String) (url : Bytes) (cause : MockError)
  deriving Inhabited

namespace MockError

/-- The kinds of an error, in any order. -/
def rawKinds : MockError → List ErrorKind
  | .request e => e.kinds
  | .payload e => e.kinds
  | .queue e => e.kinds
  | .build e => e.kinds
  | .raised _ none => []
  | .raised _ (some c) => c.rawKinds
  | .noExpectations _ => [.noExpectations]
  | .noMatch _ _ => [.noMatch]
  | .noResponse c _ => c.rawKinds
  | .addResponse c _ => c.rawKinds
  | .forExpectation c _ => c.rawKinds
  | .invalid c => c.rawKinds ++ [.invalidExpectation]
  | .missingBuilder => [.invalidExpectation]
  | .unreadableFile _ => [.invalidExpectation]
  | .unresolved _ => [.invalidExpectation]
  | .fixture ks _ => ks
  | .client _ _ c => c.rawKinds

/-- The kinds of an error, in the fixed order. -/
def kinds (e : MockError) : List ErrorKind := ErrorKind.ordered e.rawKinds

/-- Whether an error belongs to a kind. -/
def isKind (e : MockError) (k : ErrorKind) : Bool := e.rawKinds.contains k

/-- Whether the error reports that an expectation had no response to give. -/
def isNoResponse : MockError → Bool
  | .noResponse _ _ => true
  | .raised _ (some c) => c.isNoResponse
  | .addResponse c _ => c.isNoResponse
  | .forExpectation c _ => c.isNoResponse
  | .invalid c => c.isNoResponse
  | .client _ _ c => c.isNoResponse
  | _ => false

/-- Whether the error is one the engine causes, judged by what the error is and what it wraps,
not by where it came from: such errors are kept as the collection's failures. -/
def isEngine (e : MockError) : Bool :=
  [ErrorKind.noExpectations, .noMatch, .invalidExpectation, .unprocessableBody,
    .malformedHeader].any e.isKind || e.isNoResponse

/-- The text `cause for:\nexpectation\n`. -/
private def forText (cause expectation : Bytes) : Bytes :=
  cause ++ " for:\n".toBytes ++ expectation ++ "\n".toBytes

/-- The message of an error. -/
def message : MockError → Bytes
  | .request e => e.message.toBytes
  | .payload e => e.message
  | .queue e => e.message.toBytes
  | .build e => e.message.toBytes
  | .raised m _ => m
  | .noExpectations r => "No mock request builders given for:\n".toBytes ++ r ++ "\n".toBytes
  | .noMatch r results =>
    "No matching mock request builder found for:\n".toBytes ++ r ++
      "\n\nMock request builders:\n".toBytes ++
      (results.zipIdx.map fun (res, i) => res.breakdown (i + 1)).flatten
  | .noResponse c x => forText c.message x
  | .addResponse c x => forText c.message x
  | .forExpectation c x => forText c.message x
  | .invalid c => "invalid expectation: ".toBytes ++ c.message
  | .missingBuilder => "invalid expectation: response builder is nil".toBytes
  | .unreadableFile d => ("invalid expectation: reading multipart file: " ++ d).toBytes
  | .unresolved r =>
    "invalid expectation: resolver returned no expectation for:\n".toBytes ++ r ++ "\n".toBytes
  | .fixture _ m => m
  | .client op url c => (op ++ " " ++ Text.quote url ++ ": ").toBytes ++ c.message

/-- An error marked as making its expectation invalid, unless it already does. -/
def asInvalid (e : MockError) : MockError :=
  if e.isKind .invalidExpectation then e else .invalid e

end MockError

end HttpMock
