import FirstClaim.Shape
import FirstClaim.Yaml.Cursor

/-!
# Why a YAML file is refused

A text can be malformed: the error has a problem with its mark, and often a context, which says
what was being read and where that began. Or the text is well formed and its values are not the
ones wanted: the error has a reason, and the path and mark of the value.
-/

set_option autoImplicit false

namespace FirstClaim.Yaml

/-- What was being read. -/
inductive Context where
  | nextToken
  | simpleKey
  | directive
  | versionDirective
  | tagDirective
  | tagDirectiveHandle
  | tagDirectiveEnd
  | tagDirectivePrefix
  | anchor
  | aliasOf
  | tag
  | tagSuffix
  | blockScalar
  | quotedScalar
  | escape
  | plainScalar
  | node
  | blockNode
  | flowNode
  | blockCollection
  | blockMapping
  | flowSequence
  | flowMapping
deriving DecidableEq, Repr

def Context.message : Context → String
  | nextToken => "while scanning for the next token"
  | simpleKey => "while scanning a simple key"
  | directive => "while scanning a directive"
  | versionDirective => "while scanning a %YAML directive"
  | tagDirective => "while scanning a %TAG directive"
  | tagDirectiveHandle => "while scanning a tag directive"
  | tagDirectiveEnd => "while parsing a tag directive"
  | tagDirectivePrefix => "while parsing a %TAG directive"
  | anchor => "while scanning an anchor"
  | aliasOf => "while scanning an alias"
  | tag => "while scanning a tag"
  | tagSuffix => "while parsing a tag"
  | blockScalar => "while scanning a block scalar"
  | quotedScalar => "while scanning a quoted scalar"
  | escape => "while parsing a quoted scalar"
  | plainScalar => "while scanning a plain scalar"
  | node => "while parsing a node"
  | blockNode => "while parsing a block node"
  | flowNode => "while parsing a flow node"
  | blockCollection => "while parsing a block collection"
  | blockMapping => "while parsing a block mapping"
  | flowSequence => "while parsing a flow sequence"
  | flowMapping => "while parsing a flow mapping"

/-- What is wrong with a malformed text. -/
inductive Problem where
  | noToken
  | noKeyColon
  | sequenceEntryNotAllowed
  | mappingKeyNotAllowed
  | mappingValueNotAllowed
  | unknownDirective
  | noDirectiveName
  | badDirectiveName
  | noCommentOrBreak
  | noVersionNumber
  | longVersionNumber
  | noVersionPoint
  | noBlank
  | noBlankOrBreak
  | noTagMark
  | noTagEnd
  | noTagUri
  | noEscapedOctet
  | badLeadingOctet
  | badTrailingOctet
  | noAnchorName
  | zeroIndentation
  | tabInIndentation
  | documentIndicatorInScalar
  | endInScalar
  | unknownEscape
  | noHexNumber
  | badEscapeCode
  | colonInPlainScalar
  | tabBeforePlainScalar
  | noDocumentStart
  | noNodeContent
  | undefinedTagHandle
  | noSequenceEntry
  | noKey
  | noFlowSequenceSeparator
  | noFlowMappingSeparator
  | duplicateVersion
  | incompatibleVersion
  | duplicateTagDirective
deriving DecidableEq, Repr

def Problem.message : Problem → String
  | noToken => "found character that cannot start any token"
  | noKeyColon => "could not find expected ':'"
  | sequenceEntryNotAllowed => "block sequence entries are not allowed in this context"
  | mappingKeyNotAllowed => "mapping keys are not allowed in this context"
  | mappingValueNotAllowed => "mapping values are not allowed in this context"
  | unknownDirective => "found unknown directive name"
  | noDirectiveName => "could not find expected directive name"
  | badDirectiveName => "found unexpected non-alphabetical character"
  | noCommentOrBreak => "did not find expected comment or line break"
  | noVersionNumber => "did not find expected version number"
  | longVersionNumber => "found extremely long version number"
  | noVersionPoint => "did not find expected digit or '.' character"
  | noBlank => "did not find expected whitespace"
  | noBlankOrBreak => "did not find expected whitespace or line break"
  | noTagMark => "did not find expected '!'"
  | noTagEnd => "did not find the expected '>'"
  | noTagUri => "did not find expected tag URI"
  | noEscapedOctet => "did not find URI escaped octet"
  | badLeadingOctet => "found an incorrect leading UTF-8 octet"
  | badTrailingOctet => "found an incorrect trailing UTF-8 octet"
  | noAnchorName => "did not find expected alphabetic or numeric character"
  | zeroIndentation => "found an indentation indicator equal to 0"
  | tabInIndentation => "found a tab character where an indentation space is expected"
  | documentIndicatorInScalar => "found unexpected document indicator"
  | endInScalar => "found unexpected end of stream"
  | unknownEscape => "found unknown escape character"
  | noHexNumber => "did not find expected hexdecimal number"
  | badEscapeCode => "found invalid Unicode character escape code"
  | colonInPlainScalar => "found unexpected ':'"
  | tabBeforePlainScalar => "found a tab character that violates indentation"
  | noDocumentStart => "did not find expected <document start>"
  | noNodeContent => "did not find expected node content"
  | undefinedTagHandle => "found undefined tag handle"
  | noSequenceEntry => "did not find expected '-' indicator"
  | noKey => "did not find expected key"
  | noFlowSequenceSeparator => "did not find expected ',' or ']'"
  | noFlowMappingSeparator => "did not find expected ',' or '\x7d'"
  | duplicateVersion => "found duplicate %YAML directive"
  | incompatibleVersion => "found incompatible YAML document"
  | duplicateTagDirective => "found duplicate %TAG directive"

/-- Why a well-formed value is not the one wanted. -/
inductive Reason where
  | mismatch (found : Shape) (expected : String)
  /-- A whole number that does not fit into 64 bits; it is named with the bits it takes. -/
  | wideMismatch (found : Int) (type : String) (expected : String)
  /-- A text that its tag does not allow. -/
  | invalidValue (found : String) (expected : String)
  | duplicateField (name : String)
  | missingField (name : String)
deriving DecidableEq, Repr

def Reason.message : Reason → String
  | mismatch found expected =>
    let shape := found.describe "unit value"
    s!"invalid type: {shape}, expected {expected}"
  | wideMismatch found type expected =>
    s!"invalid type: integer `{found}` as {type}, expected {expected}"
  | invalidValue found expected => s!"invalid value: string {quoted found}, expected {expected}"
  | duplicateField name => s!"duplicate field `{name}`"
  | missingField name => s!"missing field `{name}`"

/-- Why a file is refused. -/
inductive Error where
  /-- A character that no file may hold, behind so many bytes. -/
  | forbiddenCharacter (offset : Nat)
  | malformed (problem : Problem) (mark : Mark) (context : Option (Context × Mark))
  | unknownAnchor (mark : Mark)
  | severalDocuments
  | endOfText
  /-- A value that is not the one wanted; the path is empty for the whole document. -/
  | content (reason : Reason) (path : String) (mark : Mark)
deriving DecidableEq, Repr

/-- A mark at the end of an error, unless it is the beginning of the text. -/
def atMark (m : Mark) : String :=
  if m.isFirst then "" else s!" at {m.describe}"

def Error.message : Error → String
  | forbiddenCharacter offset =>
    "control characters are not allowed" ++ (if offset = 0 then "" else s!" at position {offset}")
  | malformed problem mark none => problem.message ++ atMark mark
  | malformed problem mark (some (context, start)) =>
    problem.message ++ atMark mark ++ ", " ++ context.message ++
      (if start.sameAs mark then "" else atMark start)
  | unknownAnchor mark => "unknown anchor" ++ atMark mark
  | severalDocuments => "deserializing from YAML containing more than one document is not supported"
  | endOfText => "EOF while parsing a value"
  | content reason path mark =>
    (if path.isEmpty then "" else s!"{path}: ") ++ reason.message ++ atMark mark

end FirstClaim.Yaml
