import ContentCoding.Zstd.PrefixStreams

/-!
# Literals of a block

A block starts with the bytes that its sequences do not copy. They are given as
they are, as one byte repeated, or in a prefix code, which the block gives first
or takes over from the block before.
-/

namespace ContentCoding.Zstd

/-- The most bytes a block can decode to. -/
def maxBlock : Nat := 131072

/-- The literals of a block, the code for those of the next one, and the bytes after
them. -/
structure Literals where
  /-- The literals. -/
  bytes : Bytes
  /-- The latest prefix code. -/
  table : Option PrefixTable
  /-- What follows in the block. -/
  rest : Bytes

namespace Literals

/-- How literals are given. -/
structure Header where
  /-- Raw, repeated, coded with a new code, or coded with the code before. -/
  kind : Nat
  /-- The bytes that the header takes. -/
  size : Nat
  /-- The number of literals. -/
  count : Nat
  /-- The bytes that coded literals take. -/
  coded : Nat := 0
  /-- Whether coded literals are in one stream and not in four. -/
  single : Bool := true

/-- Read the header at the front of a block. -/
def header? (bytes : Bytes) : Option Header :=
  match bytes with
  | [] => none
  | first :: _ =>
    let kind := first.toNat % 4
    let form := first.toNat / 4 % 4
    let fields (size : Nat) (make : Nat → Header) : Option Header :=
      if bytes.length < size then none else some (make (Bytes.valueLE (bytes.take size)))
    if kind < 2 then
      if form = 1 then fields 2 fun value => { kind, size := 2, count := value / 16 }
      else if form = 3 then fields 3 fun value => { kind, size := 3, count := value / 16 }
      else fields 1 fun value => { kind, size := 1, count := value / 8 }
    else
      let width := if form < 2 then 10 else if form = 2 then 14 else 18
      let size := if form < 2 then 3 else if form = 2 then 4 else 5
      fields size fun value =>
        { kind, size
          count := value / 16 % twoTo width
          coded := value / twoTo (4 + width) % twoTo width
          single := form = 0 }

/-- Decode coded literals after their header. -/
def readCoded (table : Option PrefixTable) (header : Header) (rest : Bytes) :
    Except Damage Literals := do
  let (coded, rest) := rest.splitAt header.coded
  let (table, streams) ←
    if header.kind = 2 then do
      let (table, streams) ← PrefixTable.read coded
      let paired := !header.single && PrefixTable.favorsPairs header.count coded.length
      pure ({ table with paired }, streams)
    else
      match table with
      | some table => .ok (table, coded)
      | none => .error .tables
  let literals ←
    if header.single then table.decode header.count streams
    else table.decodeFour header.count streams
  return ⟨literals, some table, rest⟩

/-- Decode the literals at the front of a block. A block has at least two bytes, and at least
five if its literals are coded. There are at most `limit` literals, and there has to be room
for them. -/
def read (limit room : Nat) (table : Option PrefixTable) (bytes : Bytes) :
    Except Damage Literals :=
  let kind := (bytes.headD 0).toNat % 4
  if bytes.length < 2 then .error .data
  else if kind = 3 && table.isNone then .error .tables
  else if 2 ≤ kind && bytes.length < 5 then .error .data
  else
    match header? bytes with
    | none => .error .data
    | some header =>
      let rest := bytes.drop header.size
      if kind = 1 && rest.isEmpty || limit < header.count then .error .data
      else if 2 ≤ kind && !header.single && header.count < 6 then .error .literals
      else if 2 ≤ kind && rest.length < header.coded then .error .data
      else if room < header.count then .error .room
      else if kind = 0 then
        if rest.length < header.count then .error .data
        else .ok ⟨rest.take header.count, table, rest.drop header.count⟩
      else if kind = 1 then .ok ⟨List.replicate header.count (rest.headD 0), table, rest.drop 1⟩
      else if header.count = 0 then .error .data
      else readCoded table header rest

end Literals

end ContentCoding.Zstd
