import AttrTemplates.Number.Digits

/-!
# `AttrTemplates.Xml.Uri`: namespace URIs

A namespace is declared by a URI reference: a scheme or none, then an authority behind `//`, a
path, a query behind `?` and a fragment behind `#`, each of which may be missing. Every part
allows certain characters, and `%` before two hexadecimal digits.

The readers of the parts return what follows the part. `uriKind?` reads a whole text: as an
absolute reference, which begins with a scheme, or else as a relative one.
-/

set_option autoImplicit false

namespace AttrTemplates.Xml

/-- The characters that stand for themselves in the name of a host. -/
def isHostChar (c : Char) : Bool := c.isAlphanum || "-._~!$&'()*+,;=".toList.contains c

/-- The characters that stand for themselves in a segment of a path. -/
def isSegmentChar (c : Char) : Bool := isHostChar c || c == ':' || c == '@'

/-- What follows the longest run of allowed characters and complete escapes. -/
def behindRun (allowed : Char → Bool) : List Char → List Char
  | '%' :: a :: b :: cs =>
    if Number.isDigitOf 16 a && Number.isDigitOf 16 b then behindRun allowed cs
    else '%' :: a :: b :: cs
  | c :: cs => if allowed c then behindRun allowed cs else c :: cs
  | [] => []

/-- What follows a number that can be a byte of an address. -/
def behindByte? : List Char → Option (List Char)
  | a :: cs =>
    if !a.isDigit then none
    else match cs with
      | b :: more =>
        if !b.isDigit then some cs
        else match more with
          | c :: rest =>
            if !c.isDigit then if a == '0' then none else some more
            else if a == '1' || (a == '2' && b ≤ '5') then some rest
            else none
          | [] => if a == '0' then none else some []
      | [] => some []
  | [] => none

/-- What follows `n` bytes of an address, and the dots between them. -/
def behindBytes? : (n : Nat) → List Char → Option (List Char)
  | 0, cs => some cs
  | 1, cs => behindByte? cs
  | n + 1, cs =>
    match behindByte? cs with
    | some ('.' :: rest) => behindBytes? n rest
    | _ => none

/-- What follows a host: an address in brackets, four bytes, or a name, which can be empty. -/
def behindHost? : List Char → Option (List Char)
  | '[' :: cs =>
    match cs.dropWhile (· != ']') with
    | _ :: rest => some rest
    | [] => none
  | cs => some ((behindBytes? 4 cs).getD (behindRun isHostChar cs))

/-- What follows a port. -/
def behindPort? (cs : List Char) : Option (List Char) :=
  let (digits, rest) := cs.span Char.isDigit
  if digits.isEmpty || Number.ofDigits 10 digits > 2147483647 then none else some rest

/-- What follows an authority: a host, perhaps with a user before it and a port behind. -/
def behindAuthority? (cs : List Char) : Option (List Char) :=
  let host := match behindRun (fun c => isHostChar c || c == ':') cs with
    | '@' :: host => host
    | _ => cs
  match behindHost? host with
  | some (':' :: port) => behindPort? port
  | behind => behind

/-- What follows segments that each begin with a slash. -/
def behindSegments : List Char → List Char
  | '/' :: cs => behindRun (fun c => isSegmentChar c || c == '/') cs
  | cs => cs

/-- What follows an authority and a path. The first segment of a path that begins without slash
may have to be one without colon. -/
def behindPath? (colon : Bool) : List Char → Option (List Char)
  | '/' :: '/' :: cs => (behindAuthority? cs).map behindSegments
  | '/' :: cs => some (behindSegments ('/' :: cs))
  | cs =>
    let behind := behindRun (fun c => isSegmentChar c && (colon || c != ':')) cs
    if !colon && behind.length == cs.length && cs.head? == some ':' then none
    else some (behindSegments behind)

/-- Whether a text is a query and a fragment, or either of them, or nothing. -/
def isUriEnd (cs : List Char) : Bool :=
  let inQuery (c : Char) : Bool := isSegmentChar c || c == '/' || c == '?'
  let behindQuery := match cs with
    | '?' :: query => behindRun inQuery query
    | cs => cs
  let behindFragment := match behindQuery with
    | '#' :: fragment => behindRun (fun c => inQuery c || c == '[' || c == ']') fragment
    | cs => cs
  behindFragment.isEmpty

/-- What follows a scheme and its colon. -/
def behindScheme? (cs : List Char) : Option (List Char) :=
  match cs.span fun c => c.isAlphanum || c == '+' || c == '-' || c == '.' with
  | (c :: _, ':' :: rest) => if c.isAlpha then some rest else none
  | _ => none

/-- The two kinds of URI references. -/
inductive UriKind where
  | absolute
  | relative
  deriving DecidableEq, Repr

/-- What kind of a URI reference a text is, if it is one. -/
def uriKind? (uri : String) : Option UriKind :=
  let cs := uri.toList
  if ((behindScheme? cs).bind (behindPath? true)).any isUriEnd then some .absolute
  else if (behindPath? false cs).any isUriEnd then some .relative
  else none

end AttrTemplates.Xml
