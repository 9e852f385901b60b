import ProxySync.Net.Domain.Marks
/-!
# Directions of writing

A domain name with a letter that is written from right to left has to read the same whichever way
the text around it runs. The tables say nothing of characters that no mapped name holds.

* `Direction.isReadable`: whether a label keeps its order.
* `Direction.areReadable`: the same of all labels of a name.
-/
namespace ProxySync.Net.Domain

/-- The part of a character in the direction of a text. -/
inductive Direction where
  | leftToRight | rightToLeft | arabicLetter | arabicNumber | europeanNumber | numberSign
  | separator | terminator | neutral | boundary | mark
deriving DecidableEq

namespace Direction

/-- Marks that are written from left to right. -/
def leftToRightMarks : List Nat := [0xcbf, 0xcc6, 0x11a07, 0x11a08, 0x11c3f]

/-- The directions of all characters but nonspacing marks and those from left to right. -/
def directions : CharTable Direction := .ofClasses [
  (.rightToLeft, [
    "5BE-5F4 7C0-7F5 7FA-85E 10800-1091B 10920-10B35 10B40-10CFF 10D4A-10D4F 10D6F-10D8F",
    "10E80-10EB1 10F00-10F27 10F70-10FF6 1E800-1E95F"]),
  (.arabicLetter, [
    "608 60B 60D 61B-64A 66D-6D5 6E5-6E6 6EE-6EF 6FA-7B1 860-8C9 FBB2-FBC2 FE73 10D00-10D23",
    "10EC2-10EC7 10F30-10F59 1EC71-1ED3D"]),
  (.arabicNumber, [
    "660-669 66B-66C 10D30-10D49 10E60-10E7E"]),
  (.europeanNumber, [
    "30-39 6F0-6F9 102E1-102FB"]),
  (.numberSign, [
    "2B 2D 2212"]),
  (.separator, [
    "2C 2E-2F 3A 60C 2044"]),
  (.terminator, [
    "23-25 A2-A5 B0-B1 58F 609-60A 66A 9F2-9F3 9FB AF1 BF9 E3F 17DB 2030-2032 20A0-20C1 212E 2213",
    "A838-A839 11FDD-11FE0 1E2FF"]),
  (.neutral, [
    "21-22 26-2A 3B-60 7B-A1 A6-AE B6-D7 F7 2B9-2BA 2C2-2CF 2D2-2ED 2EF-2FF 375 3F6 58A-58E",
    "606-607 60E-60F 6DE 6E9 7F6-7F9 BF3-BF8 BFA C78-C7E F3A-F3D 1390-1399 1400 169B-169C",
    "17F0-180A 1940-1945 19DE-19FF 2010-2027 2035-2043 2045-205E 2104-2129 213A-214D 218A-2211",
    "2214-2335 237B-2394 2396-26AB 26AD-27FF 2900-2BFF 2CE5-2CEA 2CF9-2CFF 2E00-3004 3008-3020",
    "3030 3037 303D-303F 30A0 30FB 31C0-31E5 4DC0-4DFF A490-A4C6 A60D-A60F A673-A67F A700-A721",
    "A788 A828-A82B A874-A877 AB6A-AB6B FBC3-FE46 10101 10140-1018C 10190-101A0 1091F 10B39-10B3F",
    "10D6E 10ED0-10ED8 11052-11065 11660-1166C 11FD5-11FDC 11FE1-11FF1 16FE2 1CC00-1CEF0",
    "1D1E9-1D245 1D300-1D356 1EEF0-1F12F 1F16D-1F16F 1F1AD 1F260-1FBFA"]),
  (.boundary, [
    "200C-200D"])]

/-- The direction of a character. -/
def ofChar (c : Char) : Direction :=
  if c.toNat ∈ leftToRightMarks then .leftToRight
  else if Marks.isNonspacing c then .mark
  else (directions.find? c.toNat).getD .leftToRight

/-- Whether a character makes a text one that is also written from right to left. -/
def turns : Direction → Bool
  | .rightToLeft | .arabicLetter | .arabicNumber => true
  | _ => false

/-- What may stand in any label. -/
def fitsBoth : Direction → Bool
  | .europeanNumber | .numberSign | .separator | .terminator | .neutral | .boundary | .mark => true
  | _ => false

/-- The last of some directions that is not one of a mark. -/
def lastOf (ds : List Direction) : Option Direction := ds.reverse.find? (· ≠ .mark)

/-- Whether a label keeps its order, given the directions of its characters. A label from left to
right ends in a letter or a European digit and holds nothing from right to left. The reverse is
allowed any digits, but not both kinds. -/
def keepsOrder (ds : List Direction) : Bool :=
  match ds.head? with
  | none => true
  | some .leftToRight =>
    ds.all (fun d => d = .leftToRight || fitsBoth d) &&
      (lastOf ds).all (· ∈ [.leftToRight, .europeanNumber])
  | some .rightToLeft | some .arabicLetter =>
    ds.all (fun d => turns d || fitsBoth d) &&
      (lastOf ds).all (· ∈ [.rightToLeft, .arabicLetter, .arabicNumber, .europeanNumber]) &&
      !(.arabicNumber ∈ ds && .europeanNumber ∈ ds)
  | some _ => false

/-- Whether a label keeps its order. -/
def isReadable (label : List Char) : Bool := keepsOrder (label.map ofChar)

/-- Whether all labels keep their order; without anything from right to left they do. -/
def areReadable (labels : List (List Char)) : Bool :=
  !(labels.any fun label => label.any fun c => 0x80 ≤ c.toNat && (ofChar c).turns) ||
    labels.all isReadable

end Direction
end ProxySync.Net.Domain
