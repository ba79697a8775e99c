import TreeSchema.Failure

/-!
What can be wrong with a YAML text.
-/

namespace TreeSchema.Yaml

inductive Cause where
  | flowSequence
  | flowMapping
  | quotedScalar
  | token
  | nestedMapping
  | nestedSequence
  | blockSequence
  | blockMapping
  | documentStart
  | unsupported
  deriving DecidableEq

def Cause.text : Cause → String
  | .flowSequence => "while parsing a flow sequence"
  | .flowMapping => "while parsing a flow mapping"
  | .quotedScalar => "while scanning a quoted scalar"
  | .token => "while scanning for the next token"
  | .nestedMapping => "mapping values are not allowed here"
  | .nestedSequence => "sequence entries are not allowed here"
  | .blockSequence => "while parsing a block collection"
  | .blockMapping => "while parsing a block mapping"
  | .documentStart => "expected '<document start>', but found '<block mapping start>'"
  | .unsupported => "this construct is not supported"

/-- Why a text is not read: it is malformed, or reading it failed. -/
inductive Unread where
  | malformed (cause : Cause)
  | failed (cause : Failure)
  deriving DecidableEq

def Unread.message : Unread → String
  | .malformed cause => cause.text
  | .failed cause => cause.message

end TreeSchema.Yaml
