/-!
# Socket addresses

A socket address is an IPv4 address with a port, `a.b.c.d:port`, or an IPv6
address in brackets with an optional numeric scope and a port,
`[addr%scope]:port`. IPv4 parts are decimal numbers up to 255 without leading
zeros; ports are decimal numbers below 65536, leading zeros allowed. An IPv6
address has eight groups of up to four hexadecimal digits, or fewer around
one `::` that stands for at least one zero group, and may end in an embedded
IPv4 address.

`Ip.text` writes an address canonically: IPv4 in decimal; IPv6 in lower-case
hexadecimal without leading zeros, the first longest run of two or more zero
groups replaced by `::`, and an IPv4-mapped address as `::ffff:a.b.c.d`.
-/

namespace Turnstile.Net

/-- An IP address. -/
inductive Ip where
  | v4 (octets : List Nat)
  | v6 (groups : List Nat)
  deriving DecidableEq, Repr

/-- A parse step: a value and the unread rest, or nothing. -/
abbrev Step (α : Type) := List Char → Option (α × List Char)

/-- The value of a digit in a radix. -/
def digitIn (radix : Nat) (c : Char) : Option Nat :=
  if '0' ≤ c ∧ c ≤ '9' then some (c.toNat - '0'.toNat)
  else if radix = 16 ∧ 'a' ≤ c ∧ c ≤ 'f' then some (c.toNat - 'a'.toNat + 10)
  else if radix = 16 ∧ 'A' ≤ c ∧ c ≤ 'F' then some (c.toNat - 'A'.toNat + 10)
  else none

/-- A run of digits: its count and value. -/
def digitRun (radix : Nat) : List Char → Nat × Nat × List Char
  | [] => (0, 0, [])
  | c :: cs =>
    match digitIn radix c with
    | none => (0, 0, c :: cs)
    | some d =>
      let (n, v, rest) := digitRun radix cs
      (n + 1, d * Nat.pow radix n + v, rest)

/-- A number of at most `maxDigits` digits (if given) below `bound`; `zeroLead` allows
leading zeros. -/
def number (radix : Nat) (maxDigits : Option Nat) (bound : Nat) (zeroLead : Bool) : Step Nat :=
  fun cs =>
    let (n, v, rest) := digitRun radix cs
    if n = 0 then none
    else if (match maxDigits with | some m => decide (n > m) | none => false) then none
    else if v ≥ bound then none
    else if !zeroLead ∧ cs.head? = some '0' ∧ n > 1 then none
    else some (v, rest)

/-- One expected character. -/
def char (c : Char) : Step Unit
  | d :: rest => if c = d then some ((), rest) else none
  | [] => none

/-- An IPv4 address. -/
def ipv4 : Step (List Nat) := fun cs => do
  let part := number 10 (some 3) 256 false
  let (a, cs) ← part cs
  let ((), cs) ← char '.' cs
  let (b, cs) ← part cs
  let ((), cs) ← char '.' cs
  let (c, cs) ← part cs
  let ((), cs) ← char '.' cs
  let (d, cs) ← part cs
  pure ([a, b, c, d], cs)

/-- Up to `limit` colon-separated groups, the last two possibly an embedded IPv4 address;
the groups read and whether they ended in an IPv4 address. -/
def groups (limit : Nat) : List Char → List Nat × Bool × List Char :=
  go 0
where
  /-- Reads group `i` on. -/
  go (i : Nat) (cs : List Char) : List Nat × Bool × List Char :=
    if _h : i < limit then
      let sep : Step Unit := fun cs => if i > 0 then char ':' cs else some ((), cs)
      let v4 : Option (List Nat × List Char) :=
        if i + 1 < limit then (do let ((), r) ← sep cs; ipv4 r) else none
      match v4 with
      | some ([a, b, c, d], rest) => ([a * 256 + b, c * 256 + d], true, rest)
      | _ =>
        match (do let ((), r) ← sep cs; number 16 (some 4) 65536 true r) with
        | some (g, rest) =>
          let (more, v4end, rest') := go (i + 1) rest
          (g :: more, v4end, rest')
        | none => ([], false, cs)
    else ([], false, cs)
  termination_by limit - i

/-- An IPv6 address. -/
def ipv6 : Step (List Nat) := fun cs =>
  let (head, headV4, rest) := groups 8 cs
  if head.length = 8 then some (head, rest)
  else if headV4 then none
  else do
    let ((), rest) ← char ':' rest
    let ((), rest) ← char ':' rest
    let (tail, _, rest) := groups (8 - (head.length + 1)) rest
    pure (head ++ List.replicate (8 - head.length - tail.length) 0 ++ tail, rest)

/-- A port after its colon. -/
def port : Step Nat := fun cs => do
  let ((), cs) ← char ':' cs
  number 10 none 65536 true cs

/-- The IP address of a socket address text, if the whole text is one. -/
def socketIp (s : String) : Option Ip :=
  let cs := s.toList
  let asV4 : Option (Ip × List Char) := do
    let (ip, r) ← ipv4 cs
    let (_, r) ← port r
    pure (.v4 ip, r)
  let asV6 : Option (Ip × List Char) := do
    let ((), r) ← char '[' cs
    let (ip, r) ← ipv6 r
    let r := match (do let ((), r') ← char '%' r; number 10 none (Nat.pow 2 32) true r') with
      | some (_, r') => r'
      | none => r
    let ((), r) ← char ']' r
    let (_, r) ← port r
    pure (.v6 ip, r)
  match asV4 <|> asV6 with
  | some (ip, []) => some ip
  | _ => none

/-- Lower-case hexadecimal without leading zeros. -/
def hex (n : Nat) : String := String.ofList (Nat.toDigits 16 n)

/-- The start and length of the first longest run of zeros. -/
def longestZeroRun (gs : List Nat) : Nat × Nat :=
  let (best, _, _) := gs.foldl (fun (acc : (Nat × Nat) × (Nat × Nat) × Nat) g =>
    let (best, cur, i) := acc
    if g = 0 then
      let cur := if cur.2 = 0 then (i, 1) else (cur.1, cur.2 + 1)
      let best := if cur.2 > best.2 then cur else best
      (best, cur, i + 1)
    else (best, (0, 0), i + 1)) ((0, 0), (0, 0), 0)
  best

/-- The canonical text of an address. -/
def Ip.text : Ip → String
  | .v4 os => ".".intercalate (os.map toString)
  | .v6 gs =>
    match gs with
    | [0, 0, 0, 0, 0, 0xffff, a, b] =>
      "::ffff:" ++ ".".intercalate ([a / 256, a % 256, b / 256, b % 256].map toString)
    | _ =>
      let (start, len) := longestZeroRun gs
      if len > 1 then
        ":".intercalate ((gs.take start).map hex) ++ "::" ++
          ":".intercalate ((gs.drop (start + len)).map hex)
      else ":".intercalate (gs.map hex)

end Turnstile.Net
