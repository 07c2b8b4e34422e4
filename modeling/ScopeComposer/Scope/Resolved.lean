import ScopeComposer.Scope.Catalogue
import ScopeComposer.Scope.Request

/-!
# Resolved scopes

The tags of one level that a composer emits, each with its window. Requests are entered one by one:
of several requests for a tag the greatest window counts, and a request for all tags fills in
whatever was not named. Tags are listed in the order of the catalogue, so that nothing depends on
the order of the requests.
-/

namespace ScopeComposer

/-- The tags of a level that are present, with their windows. -/
structure ResolvedScopes (S : Type) where
  /-- The window of a tag, if the tag is present. -/
  window? : S → Option PageWindow

namespace ResolvedScopes

variable {S : Type}

/-- No tag at all. -/
def empty : ResolvedScopes S := ⟨fun _ => none⟩

/-- The greater of a window and one that may be absent. -/
def greater (old : Option PageWindow) (w : PageWindow) : PageWindow :=
  match old with
  | none => w
  | some old => old.max w

/-- Whether a tag is present. -/
def contains (set : ResolvedScopes S) (tag : S) : Bool := (set.window? tag).isSome

/-- The window of a tag, or that of a nested collection if the tag is absent. -/
def windowOf (set : ResolvedScopes S) (tag : S) : PageWindow := (set.window? tag).getD .nested

variable [DecidableEq S]

/-- Adds a tag; if it is present, its window becomes the greater one. -/
def raise (set : ResolvedScopes S) (tag : S) (w : PageWindow) : ResolvedScopes S where
  window? t := if t = tag then some (greater (set.window? tag) w) else set.window? t

/-- Adds a tag unless it is present. -/
def addIfAbsent (set : ResolvedScopes S) (tag : S) (w : PageWindow) : ResolvedScopes S where
  window? t := if t = tag then some ((set.window? tag).getD w) else set.window? t

variable [Tag S]

/-- The tags that are present, in the order of the catalogue. -/
def tags (set : ResolvedScopes S) : List S := (Tag.catalogue : List S).filter set.contains

/-- Whether no tag is present. -/
def isEmpty (set : ResolvedScopes S) : Bool := set.tags.isEmpty

/-- Whether the bare number of elements is asked for. -/
def asksNumber (set : ResolvedScopes S) : Bool := set.tags.any Tag.isCount

/-- Whether the bare number of elements is all that is asked for. -/
def asksOnlyNumber (set : ResolvedScopes S) : Bool :=
  set.tags.length == 1 && set.tags.all Tag.isCount

/-- What has been gathered from the requests so far. -/
structure Gathered (S : Type) where
  /-- The tags that were named. -/
  named : ResolvedScopes S
  /-- The greatest window of the requests for all tags. -/
  everything : Option PageWindow

/-- Enters one request. -/
def Gathered.enter (g : Gathered S) (r : ScopeRequest S) : Gathered S :=
  if Tag.isAll r.scope then { g with everything := some (greater g.everything r.window) }
  else { g with named := g.named.raise r.scope r.window }

/-- Adds every tag of the catalogue that is absent and does not itself stand for all. -/
def fill (set : ResolvedScopes S) (w : PageWindow) : ResolvedScopes S :=
  ((Tag.catalogue : List S).filter fun t => !Tag.isAll t).foldl (·.addIfAbsent · w) set

/-- The scopes that a list of requests asks for. -/
def resolve (requests : List (ScopeRequest S)) : ResolvedScopes S :=
  let gathered := requests.foldl Gathered.enter ⟨empty, none⟩
  match gathered.everything with
  | none => gathered.named
  | some w => gathered.named.fill w

/-- The scopes of plain tags without paging. -/
def ofTags (tags : List S) : ResolvedScopes S := resolve (tags.map ScopeRequest.plain)

end ResolvedScopes

end ScopeComposer
