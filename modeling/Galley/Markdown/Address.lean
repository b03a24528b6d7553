import Galley.Text.Casing
import Galley.Text.Escape

/-!
Addresses as they are written into pages: characters that an address cannot hold are written as
their bytes in percent signs, and an address whose scheme is not known to be safe is left out.
-/

set_option autoImplicit false
set_option relaxedAutoImplicit false

namespace Galley.Markdown

/-- ASCII characters that stand for themselves in an address. -/
def isAddressChar (c : Char) : Bool :=
  c == '!' || c == '#' || c == '$' || ('&' ≤ c && c ≤ ';') || c == '=' || ('?' ≤ c && c ≤ 'Z') ||
    c == '_' || ('a' ≤ c && c ≤ 'z') || c == '~'

/-- A byte after a percent sign. -/
def percentByte (b : UInt8) : List Char :=
  let digit (n : Nat) : Char := (Nat.digitChar n).toUpper
  ['%', digit (b.toNat / 16), digit (b.toNat % 16)]

/-- A character as its bytes. -/
def percentEncoded (c : Char) : List Char :=
  (String.singleton c).toUTF8.toList.flatMap percentByte

/-- An address in ASCII; `skip` counts characters of an encoded byte that are passed on. -/
def normalizeFrom : Nat → List Char → List Char
  | _, [] => []
  | skip + 1, c :: rest => c :: normalizeFrom skip rest
  | 0, c :: rest =>
    match c, rest with
    | '%', a :: b :: _ =>
      if Text.isAlnum a && Text.isAlnum b then c :: normalizeFrom 2 rest
      else percentEncoded c ++ normalizeFrom 0 rest
    | _, _ =>
      (if c.toNat < 0x80 && isAddressChar c then [c] else percentEncoded c) ++ normalizeFrom 0 rest

/-- A character of a page, where the null character cannot stand. -/
def shownChar (c : Char) : Char :=
  if c.toNat == 0 then Char.ofNat 0xFFFD else c

/-- Text of a page. -/
def shown (s : List Char) : List Char :=
  Text.escapeAttribute (s.map shownChar)

/-- An address as it is written into a page. -/
def shownAddress (url : List Char) : List Char :=
  shown (normalizeFrom 0 url)

/-- Schemes of links. -/
def linkSchemes : List String := ["http", "https", "irc", "ircs", "mailto", "xmpp"]

/-- Schemes of images. -/
def imageSchemes : List String := ["http", "https"]

/-- An address as it is written into a page, or nothing if its scheme is not among the given
ones. -/
def safeAddress (schemes : List String) (url : List Char) : List Char :=
  let value := shownAddress url
  let scheme := value.takeWhile fun c => !(c == ':' || c == '?' || c == '#' || c == '/')
  if value[scheme.length]? == some ':' &&
      !schemes.contains (String.ofList (Text.lower scheme)) then []
  else value

end Galley.Markdown
