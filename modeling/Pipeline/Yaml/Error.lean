import Pipeline.Mismatch

/-!
# What can be wrong with a YAML text

Either the text is no YAML, or it is and its content is not what is wanted. A mismatch carries the
place of the value in the document, as field names and item numbers from the top.
-/

namespace Pipeline.Yaml

/-- One step of the way from the top of a document to a value. -/
inductive Part where
  | item (index : Nat)
  | field (name : String)
  /-- A field whose key is no plain text of its own. -/
  | unnamed
  deriving DecidableEq, Repr

/-- The way to a value as text, given the text of the way so far. -/
def Part.extend (text : String) : Part → String
  | .item index => (if text.isEmpty then "." else text) ++ "[" ++ toString index ++ "]"
  | .field name => (if text.isEmpty then "" else text ++ ".") ++ name
  | .unnamed => (if text.isEmpty then "" else text ++ ".") ++ "?"

/-- The way from the top to a value as text, empty for the top itself. -/
def renderPlace (place : List Part) : String :=
  place.foldl Part.extend ""

/-- Why a text is no YAML. -/
inductive SyntaxError where
  | controlCharacter
  | unexpectedCharacter
  | entryNotAllowed
  | keyNotAllowed
  | valueNotAllowed
  | missingColon
  | badDirective
  | badAnchor
  | badTag
  | badBlockHeader
  | badEscape
  | tabInIndentation
  | markerInScalar
  | unexpectedColon
  | endInScalar
  | missingContent
  | missingEntry
  | missingKey
  | missingSeparator
  | missingDocumentStart
  | undefinedHandle
  | duplicateDirective
  | wrongVersion
  deriving DecidableEq, Repr

/-- The text of a syntax error. -/
def SyntaxError.message : SyntaxError → String
  | .controlCharacter => "control characters are not allowed"
  | .unexpectedCharacter => "found character that cannot start any token"
  | .entryNotAllowed => "block sequence entries are not allowed in this context"
  | .keyNotAllowed => "mapping keys are not allowed in this context"
  | .valueNotAllowed => "mapping values are not allowed in this context"
  | .missingColon => "could not find expected ':'"
  | .badDirective => "found a directive that cannot be read"
  | .badAnchor => "did not find expected alphabetic or numeric character"
  | .badTag => "did not find expected tag URI"
  | .badBlockHeader => "did not find expected comment or line break"
  | .badEscape => "found unknown escape character"
  | .tabInIndentation => "found a tab character that violates indentation"
  | .markerInScalar => "found unexpected document indicator"
  | .unexpectedColon => "found unexpected ':'"
  | .endInScalar => "found unexpected end of stream"
  | .missingContent => "did not find expected node content"
  | .missingEntry => "did not find expected '-' indicator"
  | .missingKey => "did not find expected key"
  | .missingSeparator => "did not find expected ',' or the end of the collection"
  | .missingDocumentStart => "did not find expected <document start>"
  | .undefinedHandle => "found undefined tag handle"
  | .duplicateDirective => "found duplicate directive"
  | .wrongVersion => "found incompatible YAML document"

/-- The causes for which a YAML text is refused. -/
inductive Error where
  | badSyntax (cause : SyntaxError)
  | unknownAnchor
  | manyDocuments
  | tooManyAliases
  | mismatch (place : List Part) (m : Mismatch)
  deriving DecidableEq, Repr

/-- YAML calls the value that is nothing a unit and writes numbers positionally. -/
def foundStyle : Found.Style where
  nothing := "unit value"
  float := Number.positional

/-- The text of an error. -/
def Error.message : Error → String
  | .badSyntax cause => cause.message
  | .unknownAnchor => "unknown anchor"
  | .manyDocuments => "deserializing from YAML containing more than one document is not supported"
  | .tooManyAliases => "repetition limit exceeded"
  | .mismatch place m =>
    if place.isEmpty then m.message foundStyle
    else renderPlace place ++ ": " ++ m.message foundStyle

end Pipeline.Yaml
