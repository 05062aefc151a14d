import Conform.Yaml.Cursor

/-!
Why a text is no YAML stream, or a document has no value.
-/

namespace Conform.Yaml

/-- What is wrong with the text at some place. -/
inductive Problem where
  | controlCharacter
  | keyWithoutValue
  | sequenceMisplaced
  | keyMisplaced
  | valueMisplaced
  | unexpectedCharacter
  | directiveName
  | unknownDirective
  | directiveValue
  | trailingText
  | anchorName
  | tagHandle
  | tagText
  | tagEscape
  | zeroIndentation
  | tabIndentation
  | markerInQuotes
  | unclosedQuotes
  | unknownEscape
  | escapeDigits
  | escapeValue
  | colonInFlow
  | repeatedDirective
  | unsupportedVersion
  | documentStartExpected
  | undefinedHandle
  | contentExpected
  | entryExpected
  | mappingKeyExpected
  | flowSequenceEnd
  | flowMappingEnd
deriving DecidableEq, Repr

inductive Fault where
  /-- The text cannot be read further. -/
  | unreadable (problem : Problem) (position : Position)
  /-- The tokens do not form documents. -/
  | malformed (problem : Problem)
  | unknownAlias (name : String)
  | severalDocuments
  /-- Collections nest too deep. -/
  | depth
  /-- Aliases are followed too often. -/
  | repetition
  | duplicateKey
  | integerRange (text : String)
  /-- A scalar's text does not fit its tag. -/
  | mistagged (text expected : String)
  /-- A node is not what its place in a record calls for. -/
  | unexpected (expected : String)
  | duplicateField (name : String)
deriving DecidableEq, Repr

def Problem.message : Problem → String
  | .controlCharacter => "control characters are not allowed"
  | .keyWithoutValue => "could not find expected ':'"
  | .sequenceMisplaced => "block sequence entries are not allowed in this context"
  | .keyMisplaced => "mapping keys are not allowed in this context"
  | .valueMisplaced => "mapping values are not allowed in this context"
  | .unexpectedCharacter => "found character that cannot start any token"
  | .directiveName => "could not find expected directive name"
  | .unknownDirective => "found unknown directive name"
  | .directiveValue => "found a malformed directive"
  | .trailingText => "did not find expected comment or line break"
  | .anchorName => "did not find expected alphabetic or numeric character"
  | .tagHandle => "did not find expected '!'"
  | .tagText => "did not find expected tag"
  | .tagEscape => "did not find a valid escaped octet"
  | .zeroIndentation => "found an indentation indicator equal to 0"
  | .tabIndentation => "found a tab character where indentation is expected"
  | .markerInQuotes => "found unexpected document indicator"
  | .unclosedQuotes => "found unexpected end of stream"
  | .unknownEscape => "found unknown escape character"
  | .escapeDigits => "did not find expected hexadecimal number"
  | .escapeValue => "found invalid Unicode character escape code"
  | .colonInFlow => "found unexpected ':'"
  | .repeatedDirective => "found duplicate directive"
  | .unsupportedVersion => "found incompatible YAML document"
  | .documentStartExpected => "did not find expected <document start>"
  | .undefinedHandle => "found undefined tag handle"
  | .contentExpected => "did not find expected node content"
  | .entryExpected => "did not find expected '-' indicator"
  | .mappingKeyExpected => "did not find expected key"
  | .flowSequenceEnd => "did not find expected ',' or ']'"
  | .flowMappingEnd => "did not find expected ',' or '\x7d'"

def Fault.message : Fault → String
  | .unreadable problem position => problem.message ++ " at " ++ position.render
  | .malformed problem => problem.message
  | .unknownAlias name => "unknown anchor " ++ name
  | .severalDocuments => "more than one document"
  | .depth => "recursion limit exceeded"
  | .repetition => "repetition limit exceeded"
  | .duplicateKey => "duplicate entry in a mapping"
  | .integerRange text => "integer out of range: " ++ text
  | .mistagged text expected => "expected " ++ expected ++ ", got " ++ text
  | .unexpected expected => "expected " ++ expected
  | .duplicateField name => "duplicate field " ++ name

end Conform.Yaml
