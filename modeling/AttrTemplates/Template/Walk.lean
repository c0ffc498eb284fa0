import AttrTemplates.Template.Splice

/-!
# `AttrTemplates.Template.Walk`: processing elements with a list of languages

On an element every language handles the attributes of its namespace that it knows, languages
in their order and directives in the order of the language, each with the value the attribute
had at first. The first reply that does not leave the element in place ends all that: no other
directive is handled and nothing below is looked at, since what stands there now is finished.
Otherwise the children are processed one after the other; changes of the local context on one of
them are not seen by the next.

Attributes that a language does not know are left in place, and noted once.
-/

set_option autoImplicit false

namespace AttrTemplates

open Xml

/-- The directives that wait on an element: for each namespace the names and raw values. -/
abbrev Pending := List (String × List (String × String))

/-- Adds a waiting directive. -/
def Pending.add (p : Pending) (uri name raw : String) : Pending :=
  match p with
  | [] => [(uri, [(name, raw)])]
  | (u, ds) :: rest =>
    if u = uri then (u, ds ++ [(name, raw)]) :: rest else (u, ds) :: Pending.add rest uri name raw

/-- Replaces what waits in a namespace. -/
def Pending.update (p : Pending) (uri : String) (ds : List (String × String)) : Pending :=
  p.map fun (u, old) => if u = uri then (u, ds) else (u, old)

/-- The directives of some languages that an element carries. -/
def pendingOn (languages : List Language) (tag : Tag) : Pending :=
  tag.attributes.foldl (fun p a =>
    match a.name.uri? with
    | some uri =>
      if languages.any (·.uri == uri) then p.add uri a.name.localName a.value else p
    | none => p) []

/-- The name under which an attribute of a namespace is known. -/
def attributeKey (uri name : String) : String := Name.clark ⟨some ⟨none, uri⟩, name⟩

/-- Where the handling of directives stands: still on the element, or done with it. -/
inductive Progress where
  | on (site : Site)
  | done (reply : Reply)

/-- Handles the waiting directives of one language, in the order of `tags`, and tells which of
them are left. -/
def handleTags (l : Language) (ev : Expr.Evaluator) (walk : Walk) (site : Site)
    (waiting : List (String × String)) : List String → Run (Progress × List (String × String))
  | [] => pure (.on site, waiting)
  | tag :: tags =>
    match waiting.lookup tag with
    | none => handleTags l ev walk site waiting tags
    | some raw => do
      -- Off the element first: handling must not find the attribute in copies or in content.
      let waiting := waiting.filter fun d => d.1 != tag
      let e := site.element
      let e := { e with tag := e.tag.withoutAttribute (attributeKey l.uri tag) }
      Run.note (.directive l.uri tag raw e.tag.name.written e.tag.line)
      -- The note is there even if the handling fails.
      match ← l.handle ev walk tag raw { site with element := e } with
      | .stays e locals => handleTags l ev walk { site with element := e, locals } waiting tags
      | reply => pure (.done reply, waiting)

/-- Handles the directives of all languages on one element. -/
def handleLanguages (ev : Expr.Evaluator) (walk : Walk) (site : Site) (pending : Pending) :
    List Language → Run Progress
  | [] => pure (.on site)
  | l :: ls =>
    match pending.lookup l.uri with
    | none => handleLanguages ev walk site pending ls
    | some waiting => do
      let (progress, left) ← handleTags l ev walk site waiting l.tags
      match progress with
      | .done reply => pure (.done reply)
      | .on site =>
        -- What no directive of the language took is pointed out, and stays on the element.
        if !left.isEmpty then
          let t := site.element.tag
          Run.note (.unhandled (left.map (·.1)) l.uri t.name.written t.line)
        handleLanguages ev walk site (pending.update l.uri left) ls

/-- Processes the nodes of a list one after the other and puts the replies in their places. -/
def walkNodes (walk : Walk) (scope : Scope) (locals : Entries) : List Node → Run (List Node)
  | [] => pure []
  | .element tag children :: ns => do
    let reply ← walk ⟨⟨tag, children⟩, scope, locals⟩
    -- The place is filled before the next element is looked at, since both count prefixes.
    let here ← reply.place scope
    let rest ← walkNodes walk scope locals ns
    pure (here ++ rest)
  | n :: ns => do
    let rest ← walkNodes walk scope locals ns
    pure (n :: rest)

/-- Processes an element, given the way to process those below it. -/
def processWith (languages : List Language) (ev : Expr.Evaluator) (walk : Walk) : Walk :=
  fun site => do
    match ← handleLanguages ev walk site (pendingOn languages site.element.tag) languages with
    | .done reply => pure reply
    | .on site =>
      let e := site.element
      -- These are the children by now, be they of the template or inserted.
      let children ← walkNodes walk site.innerScope site.locals e.children
      pure (.stays { e with children } site.locals)

/-- Processes an element and all below it, `fuel` levels deep; deeper nesting is a failure. -/
def processNode (languages : List Language) (ev : Expr.Evaluator) : (fuel : Nat) → Walk
  | 0 => fun _ => throw .nestingTooDeep
  | fuel + 1 => processWith languages ev (processNode languages ev fuel)

/-- The deepest nesting that is processed. Sources have at most 256 levels; markup inserted with
directives of its own can have more. -/
def maxNesting : Nat := 1000

end AttrTemplates
