import AttrTemplates.Text.Quoted

/-!
# `AttrTemplates.Failure`: what can go wrong

A `Failure` is a cause. The kind under which it is reported, the text of the report and the
place in the source it points at are functions of the cause, so each wording stands in one
place. `Failure.isOwn` tells the failures of the engine itself from those that come from data
and from operations it calls.
-/

set_option autoImplicit false

namespace AttrTemplates

/-- The kinds of failures, as reports name them. -/
inductive FailureKind where
  | templateError
  | unknownExpressionType
  | engineError
  | valueError
  | typeError
  | keyError
  | attributeError
  | lookupError
  | indexError
  | overflowError
  | recursionError
  | unicodeError
  | encodeError
  | decodeError
  | fileNotFound
  | isADirectory
  | notADirectory
  | systemError
  deriving DecidableEq, Repr

/-- The name of a kind in reports. -/
def FailureKind.name : FailureKind → String
  | .templateError => "TemplateError"
  | .unknownExpressionType => "UnknownExpressionType"
  | .engineError => "TALError"
  | .valueError => "ValueError"
  | .typeError => "TypeError"
  | .keyError => "KeyError"
  | .attributeError => "AttributeError"
  | .lookupError => "LookupError"
  | .indexError => "IndexError"
  | .overflowError => "OverflowError"
  | .recursionError => "RecursionError"
  | .unicodeError => "UnicodeError"
  | .encodeError => "UnicodeEncodeError"
  | .decodeError => "UnicodeDecodeError"
  | .fileNotFound => "FileNotFoundError"
  | .isADirectory => "IsADirectoryError"
  | .notADirectory => "NotADirectoryError"
  | .systemError => "OSError"

/-- A cause of failure. -/
inductive Failure where
  /-- The template is not well-formed XML. -/
  | malformedSource (line column : Nat)
  | noSource
  | noTemplate (name : String)
  /-- The argument of a directive has the wrong form. -/
  | malformedArgument (directive argument : String)
  | notASequence (expression typeName : String)
  | unknownPrefix (nsPrefix : String)
  /-- A value to be inserted as markup is not well formed. -/
  | malformedStructure
  | rootReplaced (root : String) (elements : Nat) (line : Option Nat)
  /-- A problem that a directive or an operation reports about the template. -/
  | template (text : String) (line column : Option Int)
  | unknownType (name : String)
  /-- A problem of the engine that is none of the template. -/
  | engine (text : String)
  | unreadableData (format : String) (source : Option String)
  | unsupportedFormat (format : Option String)
  | notAMapping (file typeName : String)
  /-- A failure of another kind that a called operation raises. -/
  | raised (kind : FailureKind) (text : String)
  | indexTooLong (digits : Nat)
  /-- An integer has too many digits to be written. -/
  | integerTooLong
  | notIterable (typeName : String)
  | notAPair (index length : Nat)
  | noPairAtAll (index : Nat)
  | unhashable (typeName : String)
  /-- A text that should hold two words holds one. -/
  | missingWord
  | illegalCharacters
  /-- Text that is to become bytes holds halves of characters, of which the first has the code. -/
  | halvesInText (code first last : Nat)
  | invalidAttributeName (name : String)
  | invalidTagName (name : String)
  | emptyTagName
  | notAnElement
  /-- Only elements have a name. -/
  | nameless
  /-- A node would come to lie inside itself. -/
  | cycle
  /-- Only elements have other nodes in them. -/
  | childless
  | unknownCharset (name : String)
  | unknownEncoding (name : String)
  /-- An encoding of bytes as bytes is asked for text. -/
  | notForText (name : String)
  /-- A byte that has to be a character of ASCII is none. -/
  | notAscii (byte : UInt8) (position : Nat)
  /-- An encoding that says why it cannot be used. -/
  | unusableEncoding (name reason : String)
  /-- A document is to be written with a declaration but as no bytes. -/
  | declarationInText
  /-- A text is asked for its characters as if it were bytes. -/
  | alreadyText
  | notATemplate (typeName : String)
  | missingKey (key : String)
  /-- A mapping has no entry for a key, given as it is shown. -/
  | missingEntry (shown : String)
  | nestingTooDeep
  /-- Something in the data lies in itself. They can be read, but no value stands for them, and
  what is made of them is left open. The report is that of writing them out. -/
  | endlessData
  /-- A file cannot be read; the system numbers the reasons. -/
  | fileProblem (number : Nat) (path : String)
  deriving Repr

/-- What the system says about files that cannot be read. -/
def systemReason : Nat → FailureKind × String
  | 2 => (.fileNotFound, "No such file or directory")
  | 20 => (.notADirectory, "Not a directory")
  | 21 => (.isADirectory, "Is a directory")
  | 36 => (.systemError, "File name too long")
  | _ => (.systemError, "Input/output error")

/-- The kind that a failure is reported under. -/
def Failure.kind : Failure → FailureKind
  | malformedSource .. | noSource | noTemplate _ | malformedArgument .. | notASequence ..
  | unknownPrefix _ | malformedStructure | rootReplaced .. | template .. => .templateError
  | unknownType _ => .unknownExpressionType
  | engine _ | unreadableData .. | unsupportedFormat _ | notAMapping .. => .engineError
  | raised kind _ => kind
  | indexTooLong _ | integerTooLong | notAPair .. | missingWord | illegalCharacters
  | invalidAttributeName _ | invalidTagName _ | emptyTagName | notAnElement | cycle
  | declarationInText => .valueError
  | childless | notIterable _ | noPairAtAll _ | unhashable _ | notATemplate _ => .typeError
  | unknownCharset _ | unknownEncoding _ | notForText _ => .lookupError
  | unusableEncoding .. => .unicodeError
  | halvesInText .. => .encodeError
  | notAscii .. => .decodeError
  | missingKey _ | missingEntry _ => .keyError
  | nameless | alreadyText => .attributeError
  | nestingTooDeep | endlessData => .recursionError
  | fileProblem number _ => (systemReason number).1

/-- The text of the report. -/
def Failure.message : Failure → String
  | malformedSource .. => "XML syntax error"
  | noSource => "template has no source"
  | noTemplate name => "no template named '" ++ name ++ "'"
  | malformedArgument directive argument =>
    "malformed tal:" ++ directive ++ " argument '" ++ argument ++ "'"
  | notASequence expression typeName =>
    "tal:repeat over '" ++ expression ++ "' needs a sequence, got " ++ typeName
  | unknownPrefix p => "unknown namespace prefix '" ++ p ++ "' in tal:attributes"
  | malformedStructure => "structure value is not well-formed XML"
  | rootReplaced root elements _ =>
    "the document element '" ++ root ++ "' must be replaced by exactly one element, got "
      ++ toString elements
  | template text .. => text
  | unknownType name => "unknown TALES type '" ++ name ++ "'"
  | engine text => text
  | unreadableData format source =>
    "cannot read " ++ format ++ " data" ++ match source with
      | some name => " from " ++ name
      | none => ""
  | unsupportedFormat format =>
    "unsupported data format: " ++ match format with
      | some f => Text.quoted f
      | none => "None"
  | notAMapping file typeName =>
    "template data in " ++ file ++ " must be a mapping, not " ++ typeName
  | raised .keyError text => Text.quoted text
  | raised _ text => text
  | indexTooLong digits =>
    "Exceeds the limit (4300 digits) for integer string conversion: value has "
      ++ toString digits
      ++ " digits; use sys.set_int_max_str_digits() to increase the limit"
  | integerTooLong =>
    "Exceeds the limit (4300 digits) for integer string conversion; "
      ++ "use sys.set_int_max_str_digits() to increase the limit"
  | notIterable typeName => "'" ++ typeName ++ "' object is not iterable"
  | notAPair index length =>
    "dictionary update sequence element #" ++ toString index ++ " has length "
      ++ toString length ++ "; 2 is required"
  | noPairAtAll index =>
    "cannot convert dictionary update sequence element #" ++ toString index ++ " to a sequence"
  | unhashable typeName => "unhashable type: '" ++ typeName ++ "'"
  | missingWord => "not enough values to unpack (expected 2, got 1)"
  | illegalCharacters =>
    "All strings must be XML compatible: Unicode or ASCII, no NULL bytes or control characters"
  | halvesInText code first last =>
    "'utf-8' codec can't encode character"
      ++ (if first == last then " " ++ Text.quoted (String.singleton (Text.charOfCode code))
          ++ " in position " ++ toString first
        else "s in position " ++ toString first ++ "-" ++ toString last)
      ++ ": surrogates not allowed"
  | notAscii byte position =>
    "'ascii' codec can't decode byte 0x" ++ String.ofList (Text.hexDigits 2 byte.toNat) ++ " in position "
      ++ toString position ++ ": ordinal not in range(128)"
  | invalidAttributeName name => "Invalid attribute name '" ++ name ++ "'"
  | invalidTagName name => "Invalid tag name '" ++ name ++ "'"
  | emptyTagName => "Empty tag name"
  | notAnElement => "Input object is not an XML element: lxml.etree._ElementTree"
  | nameless => "'cython_function_or_method' object has no attribute 'split'"
  | cycle => "cannot append parent to itself"
  | childless => "this element does not have children or attributes"
  | unknownCharset name => "unknown encoding: '" ++ name ++ "'"
  | unknownEncoding name => "unknown encoding: " ++ name
  | notForText name =>
    "'" ++ name ++ "' is not a text encoding; use codecs.decode() to handle arbitrary codecs"
  | unusableEncoding name reason =>
    "decoding with '" ++ name ++ "' codec failed (UnicodeError: " ++ reason ++ ")"
  | declarationInText => "Serialisation to unicode must not request an XML declaration"
  | alreadyText => "'str' object has no attribute 'decode'"
  | notATemplate typeName => "can't understand object of type " ++ typeName ++ " as a template"
  | missingKey key => Text.quoted key
  | missingEntry shown => shown
  | nestingTooDeep | endlessData => "maximum recursion depth exceeded"
  | fileProblem number path =>
    "[Errno " ++ toString number ++ "] " ++ (systemReason number).2 ++ ": " ++ Text.quoted path

/-- The source line that a failure points at. -/
def Failure.line : Failure → Option Int
  | malformedSource line _ => some line
  | rootReplaced _ _ line => line.map Int.ofNat
  | template _ line _ => line
  | _ => none

/-- The source column that a failure points at. -/
def Failure.column : Failure → Option Int
  | malformedSource _ column => some column
  | template _ _ column => column
  | _ => none

/-- Whether a failure is one of the engine's own. -/
def Failure.isOwn (f : Failure) : Bool :=
  f.kind == .templateError || f.kind == .unknownExpressionType || f.kind == .engineError

end AttrTemplates
