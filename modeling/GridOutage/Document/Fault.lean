import GridOutage.Filter.Rejection

/-!
# Why a document cannot be decoded (serde)
-/
namespace GridOutage.Document

inductive Fault where
  /-- The document says something that its own rules refuse. -/
  | rejected (why : Filter.Rejection)
  | missingField (name : String)
  | unknownVariant (name : String)
  | duplicateField (name : String)
  /-- A value of another type than the one asked for. -/
  | invalidType
  /-- A value of the type asked for that cannot stand there. -/
  | invalidValue
  /-- A record written as a list of too few or too many fields. -/
  | invalidLength
  /-- The text is not well formed, or a UUID or date is not. -/
  | malformed
  deriving DecidableEq

namespace Fault

/-- What can be said of a fault without its place in the document; nothing of malformed text. -/
def text? : Fault → Option String
  | .rejected why => some ("Configuration error: " ++ why.text)
  | .missingField name => some ("missing field \x60" ++ name ++ "\x60")
  | .unknownVariant name => some ("unknown variant \x60" ++ name ++ "\x60")
  | .duplicateField name => some ("duplicate field \x60" ++ name ++ "\x60")
  | .invalidType => some "invalid type"
  | .invalidValue => some "invalid value"
  | .invalidLength => some "invalid length"
  | .malformed => none

end Fault

end GridOutage.Document
