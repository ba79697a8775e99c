import TreeSchema.CommandLine.Path
import TreeSchema.Json.Reader
import TreeSchema.Yaml.Reader

/-!
Documents: texts whose lines may end in any of three ways, in JSON or, where
the name of the file says so, in YAML.
-/

namespace TreeSchema.CommandLine

/-- The text with every line end written as a line feed. -/
def plainLines : List Char → List Char
  | '\r' :: '\n' :: rest => '\n' :: plainLines rest
  | '\r' :: rest => '\n' :: plainLines rest
  | c :: rest => c :: plainLines rest
  | [] => []

/-- What opening a path comes to: the text of the file, or why there is none. -/
abbrev Files := Path → Except OpenError String

/-- The tree in a document's text, or the message on what is wrong with it. -/
def parseDocument (p : Path) (text : String) : Except String Tree :=
  let cs := plainLines text.toList
  if p.isYaml then
    match Yaml.read cs with
    | .ok t => .ok t
    | .error e => .error e.message
  else
    match Json.read cs with
    | .ok t => .ok t
    | .error e => .error (e.message cs)

def loadDocument (files : Files) (p : Path) : Except String Tree :=
  match files p with
  | .error e => .error (e.message p)
  | .ok text => parseDocument p text

end TreeSchema.CommandLine
