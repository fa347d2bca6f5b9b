import Overseer.Text.Digits
import Overseer.Text.Parts
import Overseer.Text.Utf8

/-!
# Requests

A request as it comes in: a method, a target with a path and a query, and a body.

The query is taken apart into names and values, with what stands for other characters in it.
-/

namespace Overseer.Web

/-- A request. -/
structure Request where
  method : String
  /-- The path and, behind a question mark, the query. -/
  target : String
  contentType : Option String
  body : String
deriving DecidableEq

namespace Request

/-- The path of the target. -/
def path (r : Request) : String :=
  String.ofList (r.target.toList.takeWhile fun c => c != '?' && c != '#')

/-- The query of the target. -/
def query (r : Request) : List Char :=
  ((r.target.toList.takeWhile (· != '#')).dropWhile (· != '?')).drop 1

/-- The bytes that a part of a query stands for: a plus is a blank, and two hexadecimal digits
behind a percent sign are a byte. -/
def decodePart : List UInt8 → List UInt8
  | [] => []
  | 0x2B :: bytes => 0x20 :: decodePart bytes
  | 0x25 :: a :: b :: bytes =>
    let digits := [Char.ofNat a.toNat, Char.ofNat b.toNat]
    if digits.all (Text.isDigitIn 16) then
      UInt8.ofNat (Text.numberIn 16 digits) :: decodePart bytes
    else 0x25 :: decodePart (a :: b :: bytes)
  | b :: bytes => b :: decodePart bytes

/-- The text that a part of a query stands for. -/
def partText (s : List Char) : String :=
  String.ofList (Text.decodeLossy (decodePart (Text.encode (String.ofList s))))

/-- The names and values of the query.  A part without an equals sign has an empty value, and an
empty part is none. -/
def queryPairs (r : Request) : List (String × String) :=
  ((Text.splitAtMarks (· == '&') r.query).filter (!·.isEmpty)).map fun part =>
    let name := part.takeWhile (· != '=')
    (partText name, partText (part.drop (name.length + 1)))

/-- Whether the content type says that the body is JSON. Parameters behind the type do not matter,
and neither does the case of letters. -/
def isJson (r : Request) : Bool :=
  match r.contentType with
  | none => false
  | some text =>
    let lower := text.toList.map Char.toLower
    let essence := (lower.takeWhile (· != ';')).reverse.dropWhile (· == ' ') |>.reverse
    let start := "application/".toList
    start.isPrefixOf essence &&
      let subtype := essence.drop start.length
      subtype == "json".toList ||
        ("+json".toList.isSuffixOf subtype && "+json".length < subtype.length)

end Request

end Overseer.Web
