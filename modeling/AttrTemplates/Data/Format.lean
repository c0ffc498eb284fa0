import AttrTemplates.Data.Json
import AttrTemplates.Data.Markup
import AttrTemplates.Data.Toml
import AttrTemplates.Data.Yaml.Document
import AttrTemplates.Text.Punycode

/-!
# `AttrTemplates.Data.Format`: data in one of several formats

The format of data is the one asked for, or the one that the ending of a file name stands for,
or the one that the data look like: braces or brackets begin JSON and angle brackets XML, and
everything else is taken for YAML.
-/

set_option autoImplicit false

namespace AttrTemplates.Data

/-- A format of data. -/
inductive Format where
  | json
  | yaml
  | toml
  | xml
  deriving DecidableEq, Repr

namespace Format

/-- The name of a format. -/
def name : Format → String
  | json => "json"
  | yaml => "yaml"
  | toml => "toml"
  | xml => "xml"

/-- The format of a name. -/
def ofName? : String → Option Format
  | "json" => some json
  | "yaml" => some yaml
  | "toml" => some toml
  | "xml" => some xml
  | _ => none

/-- The format that the ending of a file name stands for. -/
def ofEnding? : String → Option Format
  | "json" => some json
  | "yaml" => some yaml
  | "yml" => some yaml
  | "toml" => some toml
  | "xml" => some xml
  | _ => none

/-- The last part of a path that is not empty or a dot by itself. -/
def lastPart (path : String) : Option (List Char) :=
  ((Text.splitAt '/' path.toList).filter fun part => !part.isEmpty && part != ['.']).getLast?

/-- The ending of a file name: what follows its last dot, unless that dot is at its beginning or
its end. -/
def ending? (part : List Char) : Option String :=
  let dotted := part.reverse.dropWhile (· != '.')
  let ending := (part.reverse.takeWhile (· != '.')).reverse
  if dotted.length ≤ 1 || ending.isEmpty then none
  else some (String.ofList ending)

/-- The format that a path stands for. -/
def ofPath? (path : String) : Option Format := do
  let part ← lastPart path
  let ending ← ending? part
  ofEnding? (String.ofList (ending.toList.map Char.toLower))

/-- The format that data look like. -/
def ofLook (text : String) : Format :=
  match (Text.trimStart text.toList).head? with
  | some c => if c == '{' || c == '[' then json else if c == '<' then xml else yaml
  | none => yaml

/-- The format of data of which the path or the text may be known. -/
def detect? (path text : Option String) : Option Format :=
  path.bind ofPath? <|> text.map ofLook

/-- Reads a text of the format. -/
def read : Format → String → Except Fault Value
  | json => Json.read
  | yaml => Yaml.read
  | toml => Toml.read
  | xml => Markup.read

end Format

/-- Data: text, or bytes in an encoding, which is UTF-8 if nothing else is known. -/
inductive Input where
  | text (s : String)
  | bytes (bs : List UInt8) (encoding : Option String)

/-- Lets a name pass that an encoding may have, known or not. -/
def checkEncodingName (name : String) : Except Failure Unit :=
  match Text.firstHalves? name with
  | some (code, first, last) => .error (.halvesInText code first last)
  | none =>
    if name.toList.contains (Char.ofNat 0) then .error (.raised .valueError "embedded null character")
    else .ok ()

/-- The text of bytes in the encoding of a name. No bytes are no text whatever the encoding, which
need not even exist. -/
def decodeNamed (name : String) (bs : List UInt8) : Except Failure String := do
  checkEncodingName name
  if bs.isEmpty then pure ""
  else match Text.namedEncoding name with
    | .charset charset => pure (charset.decode bs)
    | .punycode =>
      match Text.Punycode.decode bs with
      | .ok s => pure s
      | .error (byte, position) => throw (.notAscii byte position)
    | .bytes => throw (.notForText name)
    | .refusing reason => throw (.unusableEncoding name reason)
    | .unknown => throw (.unknownEncoding name)

/-- The text of data. Bytes that are no character are shown as `U+FFFD`. -/
def Input.decode : Input → Except Failure String
  | text s => .ok s
  | bytes bs encoding => decodeNamed ((encoding.filter (!·.isEmpty)).getD "utf-8") bs

/-- The value that data stand for. `format` is the name of the format asked for, and `path` tells
where the data come from. -/
def Input.read (format path : Option String) (input : Input) : Except Failure Value := do
  let text ← input.decode
  let wanted := format.filter (!·.isEmpty)
  match wanted.bind Format.ofName? <|> (if wanted.isNone then Format.detect? path (some text) else none) with
  | none => throw (.unsupportedFormat wanted)
  | some f =>
    match f.read text with
    | .ok v => pure v
    | .error .malformed => throw (.unreadableData f.name (path.filter (!·.isEmpty)))
    | .error (.failure e) => throw e
    | .error .endless => throw .endlessData

end AttrTemplates.Data
