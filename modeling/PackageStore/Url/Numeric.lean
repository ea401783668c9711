import PackageStore.Number.Numeral

/-!
Contract: hosts that are given by number.

Owns: which hosts are taken for numbers, and which of them are: four decimal numbers below 256
without leading zeros, or eight groups of hexadecimal digits of which a run of zeros may be left
out, the last two perhaps in the decimal form.
-/

set_option autoImplicit false

namespace PackageStore.Url

open PackageStore.Number (isAsciiDigit ofDigits)

/-! ## Four numbers -/

/-- Whether a host is taken for four numbers: four runs of digits with dots between them. -/
def looksQuad (host : List Char) : Bool :=
  let runs := host.splitOnP (· == '.')
  runs.length == 4 && runs.all fun run => !run.isEmpty && run.all isAsciiDigit

/-- Whether a text is one number of four. -/
def isOctet (text : List Char) : Bool :=
  !text.isEmpty && text.all isAsciiDigit && text.length ≤ 3
    && (text == ['0'] || text.head? != some '0')
    && ofDigits (text.map fun c => c.toNat - 48) ≤ 255

def isQuad (host : List Char) : Bool :=
  let numbers := host.splitOnP (· == '.')
  numbers.length == 4 && numbers.all isOctet

/-! ## Eight groups -/

def isHexDigit (c : Char) : Bool :=
  isAsciiDigit c || ('a' ≤ c && c ≤ 'f') || ('A' ≤ c && c ≤ 'F')

/-- Whether a text is one group. -/
def isGroup (text : List Char) : Bool :=
  !text.isEmpty && text.length ≤ 4 && text.all isHexDigit

/-- The groups of an address, with two zeros for the last numbers if they have the decimal form. An
empty group marks where zeros are left out. -/
def groups? (address : List Char) : Option (List (List Char)) :=
  let groups := address.splitOnP (· == ':')
  let last := groups.getLastD []
  if last.contains '.' then
    if isQuad last then some (groups.dropLast ++ [['0'], ['0']]) else none
  else some groups

/-- The groups on one side of the zeros that are left out; none if the address ends there. -/
def side (groups : List (List Char)) : List (List Char) :=
  if groups == [[]] then [] else groups

/-- Whether groups make an address: eight of them, or fewer around one gap. -/
def areGroups (groups : List (List Char)) : Bool :=
  match groups with
  | [] => false
  | first :: rest =>
      let front := first :: rest.dropLast.takeWhile (!·.isEmpty)
      let back := groups.drop (front.length + 1)
      if front.length + 1 < groups.length then
        let shown := side front ++ side back
        shown.length ≤ 7 && shown.all isGroup
      else groups.length == 8 && groups.all isGroup

/-- Whether a text is an address of eight groups. A percent sign may set off a zone, which is not
empty and holds no other one. -/
def isGrouped (text : List Char) : Bool :=
  let zone := text.dropWhile (· != '%')
  let zoneFits := zone.isEmpty || (1 < zone.length && !(zone.drop 1).contains '%')
  let address := text.takeWhile (· != '%')
  zoneFits && 2 ≤ address.count ':' && (groups? address).any areGroups

end PackageStore.Url
