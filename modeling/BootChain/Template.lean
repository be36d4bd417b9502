import BootChain.Path
import BootChain.Text.Replace

namespace BootChain

/-- A name in a template that a path is put in the place of. -/
inductive Placeholder where
  | source
  | object
  | executable
  deriving DecidableEq, Repr

namespace Placeholder

/-- All placeholders, in the order in which they are replaced. -/
def all : List Placeholder := [source, object, executable]

def name : Placeholder → String
  | source => "source"
  | object => "object"
  | executable => "executable"

/-- How a placeholder is written: its name in braces. -/
def chars (p : Placeholder) : List Char := '{' :: (p.name.toList ++ ['}'])

def text (p : Placeholder) : String := String.ofList p.chars

end Placeholder

/-- What a template is for. -/
inductive TemplateRole where
  | compile
  | link
  deriving DecidableEq, Repr

namespace TemplateRole

def label : TemplateRole → String
  | compile => "compile"
  | link => "link"

/-- The placeholders that a template for the role must contain. -/
def required : TemplateRole → List Placeholder
  | compile => [.source, .object]
  | link => [.object, .executable]

end TemplateRole

/-- Why a list of words is no template. -/
inductive TemplateError where
  | missing (role : TemplateRole) (placeholder : Placeholder)
  | unknown (role : TemplateRole) (word : String)
  deriving DecidableEq, Repr

def TemplateError.message : TemplateError → String
  | .missing role placeholder => role.label ++ " template must contain " ++ placeholder.text
  | .unknown role word =>
    role.label ++ " template contains unknown placeholder in `" ++ word ++ "`"

/-- The paths of one pair that a template can name. -/
structure TemplatePaths where
  source : Path
  object : Path
  executable : Path

def TemplatePaths.of (paths : TemplatePaths) : Placeholder → Path
  | .source => paths.source
  | .object => paths.object
  | .executable => paths.executable

/-- The words of an argument list, some of which name paths. -/
structure Template where
  words : List String
  deriving DecidableEq, Repr

namespace Template

/-- The placeholder that a text starts with, if there is one. -/
def placeholderAt? (chars : List Char) : Option Placeholder :=
  Placeholder.all.find? fun p => p.chars.isPrefixOf chars

/-- True of a word in which an opened brace is closed again without being a placeholder. A brace
    that is never closed is an ordinary character. The first `skip` characters are passed over. -/
def hasUnknownFrom : Nat → List Char → Bool
  | _, [] => false
  | skip + 1, _ :: rest => hasUnknownFrom skip rest
  | 0, c :: rest =>
    if c = '{' then
      match placeholderAt? (c :: rest) with
      | some p => hasUnknownFrom (p.chars.length - 1) rest
      | none => rest.contains '}'
    else hasUnknownFrom 0 rest

def hasUnknown (word : String) : Bool := hasUnknownFrom 0 word.toList

/-- True when some word contains the placeholder. -/
def names (words : List String) (p : Placeholder) : Bool :=
  words.any fun word => Text.occursIn p.chars word.toList

/-- Reads a template. Unknown placeholders are reported before missing ones. -/
def ofWords (role : TemplateRole) (words : List String) : Except TemplateError Template :=
  match words.find? hasUnknown with
  | some word => .error (.unknown role word)
  | none =>
    match role.required.find? fun p => !names words p with
    | some p => .error (.missing role p)
    | none => .ok ⟨words⟩

/-- A word with its placeholders replaced. A word that is one placeholder becomes the octets of
    its path; in any other word each placeholder in turn is replaced by the text of its path. -/
def renderWord (paths : TemplatePaths) (word : String) : Bytes :=
  match Placeholder.all.find? fun p => p.chars = word.toList with
  | some p => (paths.of p).bytes
  | none =>
    let replaced := Placeholder.all.foldl
      (fun chars p => Text.replaceAll p.chars (paths.of p).shown.toList chars) word.toList
    Utf8.encode (String.ofList replaced)

/-- The arguments that a template stands for. -/
def render (template : Template) (paths : TemplatePaths) : List Bytes :=
  template.words.map (renderWord paths)

/-- The source, then the object after a flag. -/
def compileDefault : Template := ⟨[Placeholder.source.text, "-o", Placeholder.object.text]⟩

/-- The object, then the executable after a flag. -/
def linkDefault : Template := ⟨[Placeholder.object.text, "-o", Placeholder.executable.text]⟩

end Template

end BootChain
