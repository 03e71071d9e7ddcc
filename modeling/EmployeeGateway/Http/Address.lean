/-!
# IP address literals

`Ipv4.valid` accepts the dotted form of an IPv4 address: exactly four parts
between dots, each of one to three ASCII digits, no leading zero unless the
part is `0`, and each at most 255.

`Ipv6.valid` accepts the colon form of an IPv6 address: an optional zone
after the first `%` (not empty, holding no second `%`); no `/`; at least
three parts between colons, where a last part holding a dot is an IPv4
address standing for two groups, and then at most nine; groups of one to four
hex digits; and at most one empty part between the ends (the `::` that stands
for a run of at least one zero group), next to which alone the first or last
part may be empty. Without `::` there are exactly eight groups.
-/

namespace EmployeeGateway

namespace Ipv4

/-- Is the text one part of a dotted IPv4 address? -/
def validPart (p : List Char) : Bool :=
  !p.isEmpty && p.all Char.isDigit && p.length ≤ 3 && (p == ['0'] || p.head? != some '0') &&
    p.foldl (fun n c => n * 10 + (c.toNat - 48)) 0 ≤ 255

/-- Is the text a dotted IPv4 address? -/
def validChars (cs : List Char) : Bool :=
  let parts := cs.splitOn '.'
  parts.length == 4 && parts.all validPart

/-- Is the text a dotted IPv4 address? -/
def valid (s : String) : Bool := validChars s.toList

end Ipv4

namespace Ipv6

/-- Is the text a group of at most four hex digits (not empty)? -/
def validGroup (g : List Char) : Bool :=
  !g.isEmpty && g.length ≤ 4 &&
    g.all fun c => c.isDigit || ('a' ≤ c && c ≤ 'f') || ('A' ≤ c && c ≤ 'F')

/-- Are the parts between colons, an IPv4 tail already replaced by two
groups, an IPv6 address? With one empty inner part `k` (the `::`), an empty
first part needs `k = 1` and an empty last part `k` one before the last; the
groups on both sides are at most seven. Without one, there are eight groups. -/
def validParts (parts : List (List Char)) : Bool :=
  let n := parts.length
  let firstEmpty := (parts.headD []).isEmpty
  let lastEmpty := (parts.getLastD []).isEmpty
  let skips := (List.range (n - 2)).filter fun i => (parts.getD (i + 1) []).isEmpty
  if n < 3 || 9 < n then false
  else
    match skips with
    | [] => n == 8 && parts.all validGroup
    | [i] =>
      let k := i + 1
      let before := if firstEmpty then k - 1 else k
      let after := if lastEmpty then n - k - 2 else n - k - 1
      (!firstEmpty || k == 1) && (!lastEmpty || k + 2 == n) && before + after ≤ 7 &&
        parts.all fun p => p.isEmpty || validGroup p
    | _ => false

/-- Is the text an IPv6 address without a zone? -/
def validAddress (cs : List Char) : Bool :=
  let parts := cs.splitOn ':'
  if parts.length < 3 then false
  else
    let lastPart := parts.getLastD []
    if lastPart.contains '.' then
      Ipv4.validChars lastPart && validParts (parts.dropLast ++ [['0'], ['0']])
    else validParts parts

/-- Is the text an IPv6 address, with an optional zone? -/
def valid (s : String) : Bool :=
  let cs := s.toList
  if cs.contains '/' then false
  else
    let addr := cs.takeWhile (· != '%')
    match cs.dropWhile (· != '%') with
    | [] => validAddress addr
    | _ :: zone => !zone.isEmpty && !zone.contains '%' && validAddress addr

end Ipv6

end EmployeeGateway
