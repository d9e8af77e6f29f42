/-!
# UUID texts

A UUID is written as 32 hexadecimal digits, either in one run or in five groups with
hyphens between them. The grouped form may stand in braces or behind `urn:uuid:` in any
case.
-/

namespace RouteTree.Uuid

/-- A hexadecimal digit of either case. -/
def isHex (c : Char) : Bool := c.isDigit || ('a' ≤ c && c ≤ 'f') || ('A' ≤ c && c ≤ 'F')

/-- Sizes of the five groups. -/
def groupSizes : List Nat := [8, 4, 4, 4, 12]

/-- Whether the characters are groups of hexadecimal digits of the given sizes with
single hyphens between them. -/
def isGrouped : List Nat → List Char → Bool
  | [], cs => cs.isEmpty
  | [size], cs => cs.length == size && cs.all isHex
  | size :: sizes, cs =>
    let group := cs.take size
    group.length == size && group.all isHex &&
      match cs.drop size with
      | '-' :: rest => isGrouped sizes rest
      | _ => false

/-- Five groups with hyphens between them. -/
def isHyphenated (cs : List Char) : Bool := isGrouped groupSizes cs

/-- Thirty-two digits in one run. -/
def isSimple (cs : List Char) : Bool := cs.length == 32 && cs.all isHex

/-- What stands in front of a grouped form in a uniform resource name. -/
def urnLead : List Char := "urn:uuid:".toList

/-- Whether the text is a UUID in one of its forms. -/
def accepts (text : String) : Bool :=
  let cs := text.toList
  isSimple cs || isHyphenated cs ||
    ((cs.take 9).map Char.toLower == urnLead && isHyphenated (cs.drop 9)) ||
    (match cs with
      | '\x7b' :: rest => rest.getLast? == some '\x7d' && isHyphenated rest.dropLast
      | _ => false)

end RouteTree.Uuid
