import PackageStore.Hostname.Label
import PackageStore.Hostname.Small

/-!
Contract: internationalised host names.

Owns: which host names consist of well-formed labels and are short enough, and what is wrong with a
name in ASCII that starts with the mark of a spelled label.
-/

set_option autoImplicit false

namespace PackageStore.Hostname

/-! ## Faults -/

/-- What is wrong with a name in ASCII. -/
inductive NameFault where
  | tooLong
  | label (fault : LabelFault)
deriving DecidableEq, Repr, Inhabited

def NameFault.message : NameFault → String
  | .tooLong => "Domain too long"
  | .label fault => fault.message

/-! ## Names -/

/-- The characters that separate labels. -/
def isSeparator (c : Char) : Bool :=
  c = '.' || c = '\u3002' || c = '\uff0e' || c = '\uff61'

/-- The labels of a name. One separator may stand at its end. -/
def labels (name : List Char) : List (List Char) :=
  let all := name.splitOnP isSeparator
  if all.getLast? == some [] then all.dropLast else all

/-- The most characters that a name has in ASCII, a separator at its end aside. -/
def maxLength : Nat := 253

/-- Whether a name consists of well-formed labels and is short enough. -/
def isName (name : List Char) : Bool :=
  if maxLength + 1 < name.length then false
  else
    match (labels name).mapM labelLength? with
    | some lengths =>
        !lengths.isEmpty && lengths.foldl (· + ·) 0 + (lengths.length - 1) ≤ maxLength
    | none => false

/-- Whether a host is an internationalised name when it is read in small letters. -/
def isInternational (host : List Char) : Bool :=
  isName (small host)

/-- What is wrong with a host in small ASCII letters, as far as its labels are looked at: that is so
when it starts with the mark of a spelled label. -/
def spelledFault? (host : List Char) : Option NameFault :=
  if !spellingMark.isPrefixOf host then none
  else if maxLength + 1 < host.length then some .tooLong
  else ((labels host).findSome? plainFault?).map .label

end PackageStore.Hostname
