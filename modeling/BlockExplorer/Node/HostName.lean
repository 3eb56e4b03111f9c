import BlockExplorer.Text.HostLetter

/-!
Names of hosts in all scripts: labels between points. A label neither begins nor ends with a hyphen,
does not begin with a mark, holds letters of hosts only, and keeps to one direction of writing.
-/

namespace BlockExplorer.HostName

open CodePoint

def separators : List Nat := [0x2E, 0x3002, 0xFF0E, 0xFF61]

/-- The labels of a name. An empty one at the end does not count. -/
def labels (name : Text) : List Text :=
  let all := Text.split 0x2E (name.map fun c => if separators.contains c then 0x2E else c)
  if all.getLast? = some [] then all.dropLast else all

def hyphen : Nat := 0x2D

/-- Two hyphens behind the second character are kept for labels in another notation. -/
def hasGoodHyphens (label : Text) : Bool :=
  (label.drop 2).take 2 ≠ [hyphen, hyphen] && label.head? ≠ some hyphen &&
    label.getLast? ≠ some hyphen

/-- Whether a character that is no letter of hosts may stand between what is before it, from its
neighbour on, and what is behind it. -/
def fits (before : Text) (c : Nat) (behind : Text) : Bool :=
  let neighbour := before.head?.getD 0
  let next := behind.head?.getD 0
  if c = 0xB7 then neighbour = 0x6C && next = 0x6C
  else if c = 0x375 then isGreekLetter next
  else if c = 0x5F3 || c = 0x5F4 then isHebrewLetter neighbour
  else if c = 0x30FB then (before ++ behind).any isEasternLetter
  else if isArabicDigit c then !(before ++ behind).any isPersianDigit
  else if isPersianDigit c then !(before ++ behind).any isArabicDigit
  else if c = 0x200C || c = 0x200D then viramas.contains neighbour
  else false

/-- Whether all characters of a label may stand where they do; those before have been looked at. -/
def allFit (before : Text) : Text → Bool
  | [] => true
  | c :: behind => (isHostLetter c || fits before c behind) && allFit (c :: before) behind

/-- A label with characters of a right-to-left script begins with one, ends with one or with a
digit, holds none of another direction, and digits of one kind only. -/
def hasOneDirection (label : Text) : Bool :=
  let isAcross c := isRightToLeft c || isArabicNumber c
  let isEnding c := isAcross c || isEuropeanNumber c
  let isWithin c := isEnding c || isNeutral c || isHostMark c
  !label.any isAcross ||
    ((label.head?.map isRightToLeft).getD false && label.all isWithin &&
      ((label.reverse.find? fun c => !isHostMark c).map isEnding).getD false &&
      !(label.any isArabicNumber && label.any isEuropeanNumber))

def isPlainLabel (label : Text) : Bool :=
  !label.isEmpty && hasGoodHyphens label && !(label.head?.map isHostMark).getD false &&
    allFit [] label && hasOneDirection label

/-- The beginning of labels of other scripts that are written in ASCII. -/
def encodedMark : Text := Text.ofString "xn--"

def isLabel (label : Text) : Bool :=
  if label.all (· < 0x80) then
    label.length ≤ 63 &&
      if Text.startsWith label encodedMark then
        encodedMark.length < label.length && label.getLast? ≠ some hyphen
      else isPlainLabel label
  else isPlainLabel label

def isName (name : Text) : Bool := name.length ≤ 254 && (labels name).all isLabel

end BlockExplorer.HostName
