import ContentCoding.Amount
import ContentCoding.Brotli.BlockSplit
import ContentCoding.Brotli.CodeWriter
import ContentCoding.Brotli.Splitting

/-!
# Writing block types and context maps

The codes for block types and block lengths are made from the blocks that there are. The
types are written as far as possible relative to the last two.
-/

namespace ContentCoding.Brotli

/-- A number from 1 to 256. -/
def smallCountFields (count : Nat) : List BitField :=
  if count = 1 then [⟨1, 0⟩]
  else
    let bits := (count - 1).log2
    [⟨1, 1⟩, ⟨3, bits⟩, ⟨bits, count - 1 - twoTo bits⟩]

/-- The symbol for a block type after the last one and the one before. -/
def typeSymbol (last before type : Nat) : Nat :=
  if type = last + 1 then 1 else if type = before then 0 else type + 2

/-- The symbols for the types of blocks after the first one. -/
def typeSymbols : (last before : Nat) → List BlockRun → List Nat
  | _, _, [] => []
  | last, before, block :: rest =>
    typeSymbol last before block.type :: typeSymbols block.type last rest

/-- Count symbols up to a number of them. -/
def countsOf (alphabet : Nat) (symbols : List Nat) : List Nat :=
  (symbols.foldl (fun counts symbol => counts.modify symbol (· + 1))
    (Array.replicate alphabet 0)).toList

/-- How the blocks of one kind of element are written. -/
structure BlockWriter where
  /-- What gives the codes and begins the first block. -/
  description : List BitField
  /-- The fields that begin the blocks that are to come, with their types and lengths. -/
  coming : List (List BitField × BlockRun)
  /-- The type of the present block. -/
  type : Nat := 0
  /-- How many elements of the present block are left. -/
  left : Nat := 0

namespace BlockWriter

/-- Make codes for blocks. -/
def make (divided : Divided) : BlockWriter :=
  match divided.blocks with
  | [] => ⟨smallCountFields 1, [], 0, 0⟩
  | first :: rest =>
    if divided.types ≤ 1 then ⟨smallCountFields 1, [], 0, first.length⟩
    else
      let types := typeSymbols first.type 1 rest
      let lengthIndex (block : BlockRun) : Nat := Span.indexIn blockLengthSpans block.length
      let typeCode := writeCode (countsOf (divided.types + 2) types)
      let lengthCode := writeCode (countsOf 26 (divided.blocks.map lengthIndex))
      let length (block : BlockRun) : List BitField :=
        [lengthCode.words.getD (lengthIndex block) default,
          (blockLengthSpans.getD (lengthIndex block) default).field block.length]
      ⟨smallCountFields divided.types ++ typeCode.description ++ lengthCode.description ++
          length first,
        (types.zip rest).map fun (type, block) =>
          (typeCode.words.getD type default :: length block, block),
        first.type, first.length⟩

/-- Go on to the next element, with the fields that begin a new block, if there is one. -/
def next : BlockWriter → List BitField × BlockWriter
  | ⟨description, coming, type, 0⟩ =>
    match coming with
    | [] => ([], ⟨description, [], type, 0⟩)
    | (fields, block) :: coming => (fields, ⟨description, coming, block.type, block.length - 1⟩)
  | ⟨description, coming, type, left + 1⟩ => ([], ⟨description, coming, type, left⟩)

end BlockWriter

/-- A context map in which each type has one code in all contexts, of which there are a power
of two. -/
def plainMapFields (types contextBits : Nat) : List BitField :=
  if types = 1 then smallCountFields 1
  else
    let runs := contextBits - 1
    let counts := (List.range (types + runs)).map fun symbol =>
      if symbol = runs then types else if symbol = 0 || runs < symbol then 1 else 0
    let code := writeCode counts
    smallCountFields types ++ [⟨1, 1⟩, ⟨4, runs - 1⟩] ++ code.description ++
      (List.range types).flatMap (fun type =>
        [code.words.getD (if type = 0 then 0 else type + runs) default,
          code.words.getD runs default, ⟨runs, twoTo runs - 1⟩]) ++ [⟨1, 1⟩]

/-- For each value how far back it is in the list of values in the order of their last use. -/
def toRecency : (values : List Nat) → List Nat → List Nat
  | _, [] => []
  | values, value :: rest =>
    let place := values.idxOf value
    place :: toRecency (value :: values.eraseIdx place) rest

/-- An entry of a context map, or a run of zeros. -/
structure MapItem where
  /-- The symbol. -/
  symbol : Nat
  /-- What of the length of a run the symbol does not tell. -/
  more : BitField := ⟨0, 0⟩

/-- A run of zeros, with so many steps to go. -/
def zeroItems (runs : Nat) : (steps : Nat) → (count : Nat) → List MapItem
  | 0, _ => []
  | steps + 1, count =>
    if count = 0 then []
    else if count < twoTo (runs + 1) then
      [⟨count.log2, ⟨count.log2, count - twoTo count.log2⟩⟩]
    else
      ⟨runs, ⟨runs, twoTo runs - 1⟩⟩ :: zeroItems runs steps (count - (twoTo (runs + 1) - 1))

/-- A context map with at least two codes. -/
def mapFields (codes : Nat) (entries : List Nat) : List BitField :=
  let parts := (toRecency (List.range codes) entries).splitBy fun first second =>
    (first = 0) = (second = 0)
  let zeros := parts.filter fun part => part.headD 0 = 0
  let longest := (zeros.map List.length).foldl max 0
  let runs := min longest.log2 6
  let items : List MapItem := parts.flatMap fun part =>
    if part.headD 0 = 0 then zeroItems runs part.length part.length
    else part.map fun place => ⟨place + runs, ⟨0, 0⟩⟩
  let code := writeCode (countsOf (codes + runs) (items.map MapItem.symbol))
  let runFields : List BitField := if runs = 0 then [⟨1, 0⟩] else [⟨1, 1⟩, ⟨4, runs - 1⟩]
  smallCountFields codes ++ runFields ++ code.description ++
    items.flatMap (fun item => [code.words.getD item.symbol default, item.more]) ++ [⟨1, 1⟩]

end ContentCoding.Brotli
