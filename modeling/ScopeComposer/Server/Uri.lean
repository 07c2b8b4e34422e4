/-!
# URIs of a server

Which texts can stand for the address of a server: an absolute path, an authority alone, or a scheme
with an authority, a path and a query. The grammar is over the bytes of the text.
-/

namespace ScopeComposer.Uri

/-- A byte, as the character of its code. -/
abbrev Bytes := List Char

/-- The bytes of a text. -/
def bytes (s : String) : Bytes := s.toUTF8.toList.map fun b => Char.ofNat b.toNat

/-- The greatest number of bytes of an address. -/
def maxLength : Nat := 65534

/-- The greatest number of bytes of a scheme. -/
def maxSchemeLength : Nat := 64

/-!
## Paths and queries
-/

/-- Whether a byte may stand in a path. -/
def isPathByte (c : Char) : Bool :=
  let n := c.toNat
  n == 0x21 || (0x24 ≤ n && n ≤ 0x3B) || n == 0x3D || (0x40 ≤ n && n ≤ 0x5F) ||
    (0x61 ≤ n && n ≤ 0x7A) || n == 0x7C || n == 0x7E || 0x80 ≤ n || n == 0x22 || n == 0x7B ||
    n == 0x7D

/-- Whether a byte may stand in a query. -/
def isQueryByte (c : Char) : Bool :=
  let n := c.toNat
  n == 0x21 || (0x24 ≤ n && n ≤ 0x3B) || n == 0x3D || (0x3F ≤ n && n ≠ 0x7F)

/-- Whether bytes are a query, up to a fragment. -/
def isQuery : Bytes → Bool
  | [] => true
  | '#' :: _ => true
  | c :: rest => isQueryByte c && isQuery rest

/-- Whether bytes are a path, with a query and a fragment after it. -/
def isPath : Bytes → Bool
  | [] => true
  | '#' :: _ => true
  | '?' :: rest => isQuery rest
  | c :: rest => isPathByte c && isPath rest

/-!
## Authorities
-/

/-- Whether a byte ends an authority. -/
def endsAuthority (c : Char) : Bool := c == '/' || c == '?' || c == '#'

/-- Whether a byte may stand in an authority, the percent sign apart. -/
def isAuthorityByte (c : Char) : Bool :=
  c.isAlphanum ||
    ['!', '$', '&', '\x27', '(', ')', '*', '+', ',', '-', '.', ':', ';', '=', '@', '[', ']', '_',
      '~'].contains c

/-- What has been seen of an authority. -/
structure Seen where
  /-- The colons that may still separate a host from its number. -/
  colons : Nat := 0
  /-- Whether a bracket was opened. -/
  opened : Bool := false
  /-- Whether a bracket was closed. -/
  closed : Bool := false
  /-- Whether there is a percent sign outside user information and brackets. -/
  percent : Bool := false
  /-- Whether the last byte separates user information from the host. -/
  atEnd : Bool := false

/-- The most colons that an address in brackets may have. -/
def maxColons : Nat := 8

/-- Goes on by one byte of an authority. -/
def Seen.next (seen : Seen) (c : Char) : Option Seen :=
  let seen := { seen with atEnd := c == '@' }
  if c = ':' then
    if seen.colons < maxColons then some { seen with colons := seen.colons + 1 } else none
  else if c = '[' then
    if seen.percent || seen.opened then none else some { seen with opened := true }
  else if c = ']' then
    if !seen.opened || seen.closed then none
    else some { seen with closed := true, colons := 0, percent := false }
  else if c = '@' then some { seen with colons := 0, percent := false }
  else if c = '%' then some { seen with percent := true }
  else if isAuthorityByte c then some seen
  else none

/-- Whether an authority may end here. -/
def Seen.isComplete (seen : Seen) : Bool :=
  seen.opened == seen.closed && seen.colons ≤ 1 && !seen.atEnd && !seen.percent

/-- Whether bytes are an authority. -/
def isAuthority (cs : Bytes) : Bool :=
  match cs.foldlM Seen.next {} with
  | some seen => seen.isComplete
  | none => false

/-!
## Addresses
-/

/-- Whether a byte may stand in a scheme. -/
def isSchemeByte (c : Char) : Bool := c.isAlphanum || ['+', '-', '.', '~'].contains c

/-- What stands after the scheme of an address, if it has one: a scheme and the length of it. -/
def afterScheme? (cs : Bytes) : Option (Nat × Bytes) :=
  let scheme := cs.takeWhile isSchemeByte
  match cs.drop scheme.length with
  | ':' :: '/' :: '/' :: rest => some (scheme.length, rest)
  | _ => none

/-- Whether bytes are an authority that is not empty, with a path after it. -/
def isAbsolute (cs : Bytes) : Bool :=
  let authority := cs.takeWhile (!endsAuthority ·)
  authority ≠ [] && isAuthority authority && isPath (cs.drop authority.length)

/-- Whether a text is the address of a server. -/
def isValid (s : String) : Bool :=
  let cs := bytes s
  cs ≠ [] && cs.length ≤ maxLength &&
    match cs with
    | ['*'] => true
    | '/' :: _ => isPath cs
    | _ =>
      match if cs.length ≤ 3 then none else afterScheme? cs with
      | some (length, rest) => length ≤ maxSchemeLength && isAbsolute rest
      | none => isAuthority cs

end ScopeComposer.Uri
