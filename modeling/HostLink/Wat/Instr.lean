/-
Instructions in the text format, and the expressions made of them.

An expression is written flat, in the order of the binary form, or folded, with an
instruction in front of its operands.  `Items.expr` brings both into flat order.
What an instruction refers to inside its function (a label, a local, the type of a
block) stays open there and is settled by `Op.encode`.
-/
import HostLink.LittleEndian
import HostLink.Wat.Signature
import HostLink.Wasm.Instr
import HostLink.Wasm.Writer

namespace HostLink
namespace Wat

open Wasm (Bytes Writer.unsigned Writer.signed)

/-! ## Numbers -/

namespace FloatForm

/-- The pattern of a number in a format.  One too large to be finite has none.  Of the
payload of a NaN, which has 64 bits, those that fit count, and they may not all be
zero.  A binary exponent has 32 bits unless the number is zero, and so has the place of
the leading digit. -/
def bits? (fmt : Ieee.Format) (negative : Bool) : FloatForm → Option Nat
  | infinity => some (fmt.infinityBits negative)
  | nan none => some (fmt.nanBits + if negative then fmt.signBit else 0)
  | nan (some payload) =>
    let kept := payload % Nat.pow 2 fmt.fraction
    if kept = 0 ∨ payload ≥ UInt64.size then none else some (fmt.infinityBits negative + kept)
  | decimal digits places exponent => fmt.ofDecimal? negative digits (exponent - places)
  | hexadecimal digits places exponent =>
    if digits = 0 then fmt.ofDyadic? negative 0 0
    else
      let lowest := exponent - 4 * places
      if isWord exponent && isWord (lowest + digits.log2) then fmt.ofDyadic? negative digits lowest
      else none
where
  isWord (n : Int) : Bool := -(Nat.pow 2 31) ≤ n && n < Nat.pow 2 31

end FloatForm

namespace Items

def float (fmt : Ieee.Format) : Items Nat
  | .atom (.integer negative n) :: rest =>
    (fmt.ofDecimal? negative n 0).map fun bits => (bits, rest)
  | .atom (.float negative form) :: rest =>
    (form.bits? fmt negative).map fun bits => (bits, rest)
  | _ => none

/-- The shapes of a vector: the number of lanes, the bytes of a lane, and how a lane
is written. -/
def vectorShapes : List (String × Nat × Nat × Items Nat) :=
  [("i8x16", 16, 1, word 8), ("i16x8", 8, 2, word 16), ("i32x4", 4, 4, word 32),
   ("i64x2", 2, 8, word 64), ("f32x4", 4, 4, float Ieee.binary32),
   ("f64x2", 2, 8, float Ieee.binary64)]

def times {α : Type} (item : Items α) : Nat → Items (List α)
  | 0 => pure []
  | n + 1 => do
    let first ← item
    let rest ← times item n
    pure (first :: rest)

def vector : Items Bytes := do
  match vectorShapes.lookup (← keyword) with
  | some (lanes, width, lane) => List.flatMap (LittleEndian.encode width) <$> times lane lanes
  | none => fail

def signedWord (width : Nat) : Items Int := do
  let n ← word width
  pure (if n < Nat.pow 2 (width - 1) then n else (n : Int) - Nat.pow 2 width)

end Items

/-! ## Instructions -/

/-- An instruction of a function: its bytes, or an opcode with what only the
function around it can settle. -/
inductive Op where
  | plain (bytes : Bytes)
  | enter (opcode : UInt8) (label : Option String) (type : TypeUse)
  | otherwise (label : Option String)
  | leave (label : Option String)
  | branch (opcode : UInt8) (label : Ref)
  | branchTable (labels : List Ref) (last : Ref)
  | onVariable (opcode : UInt8) (index : Ref)
  deriving Repr

namespace Op

def ifOpcode : UInt8 := 0x04

def elseOpcode : UInt8 := 0x05

def endOpcode : UInt8 := 0x0b

def referencePrefix : UInt8 := 0xfb

end Op

namespace Items

/-- An attribute of a memory access, a number of 64 bits behind its name and a `=`. -/
def attribute? (name : String) : Items (Option Nat) := do
  match ← nextKeyword? with
  | none => pure none
  | some text =>
    let mark := (name ++ "=").toList
    if mark.isPrefixOf text.toList then
      let _ ← keyword
      match Token.number? (text.toList.drop mark.length) with
      | some (.integer false n) => if n < UInt64.size then pure (some n) else fail
      | _ => fail
    else pure none

/-- The immediate of a memory access; the alignment is a power of two, written as
such and encoded by its logarithm. -/
def memArg (names : Names) (natural : Nat) : Items Bytes := do
  let memory := (← indexIn? names .memory).getD 0
  let offset := (← attribute? "offset").getD 0
  let align := (← attribute? "align").getD natural
  if align ≠ Nat.pow 2 align.log2 then fail
  pure (Writer.unsigned (align.log2 + if memory = 0 then 0 else 64) ++
    (if memory = 0 then [] else Writer.unsigned memory) ++ Writer.unsigned offset)

/-- The instructions whose immediate, if any, is the index of a thing of the module,
or stands for itself. -/
def moduleOps (names : Names) : List (String × UInt8 × Items Bytes) :=
  let nothing : Items Bytes := pure []
  let index (space : Space) : Items Bytes := Writer.unsigned <$> indexIn names space
  let memory : Items Bytes := do pure (Writer.unsigned ((← indexIn? names .memory).getD 0))
  [("unreachable", 0x00, nothing), ("nop", 0x01, nothing), ("return", 0x0f, nothing),
   ("drop", 0x1a, nothing), ("call", 0x10, index .func),
   ("global.get", 0x23, index .global), ("global.set", 0x24, index .global),
   ("memory.size", 0x3f, memory), ("memory.grow", 0x40, memory),
   ("i32.const", 0x41, Writer.signed <$> signedWord 32),
   ("i64.const", 0x42, Writer.signed <$> signedWord 64),
   ("f32.const", 0x43, LittleEndian.encode 4 <$> float Ieee.binary32),
   ("f64.const", 0x44, LittleEndian.encode 8 <$> float Ieee.binary64),
   ("v128.const", 0xfd, (12 :: ·) <$> vector),
   ("ref.null", 0xd0, Wasm.Writer.heapType <$> heapType names),
   ("ref.func", 0xd2, index .func)]

/-- The instructions behind the prefix of garbage-collected types that may occur in a
constant expression. -/
def referenceOps (names : Names) : List (String × Nat × Items Bytes) :=
  let nothing : Items Bytes := pure []
  let type : Items Bytes := Writer.unsigned <$> indexIn names .type
  let typeAndCount : Items Bytes := do
    let type ← type
    let count ← unsigned 32
    pure (type ++ Writer.unsigned count)
  [("struct.new", 0, type), ("struct.new_default", 1, type), ("array.new", 6, type),
   ("array.new_default", 7, type), ("array.new_fixed", 8, typeAndCount),
   ("any.convert_extern", 26, nothing), ("extern.convert_any", 27, nothing),
   ("ref.i31", 28, nothing)]

/-- The loads and stores by mnemonic: the opcode and the natural alignment. -/
def accessOps : List (String × UInt8 × Nat) :=
  Wasm.accesses.zipIdx.map fun (access, i) =>
    (access.mnemonic, Wasm.firstAccess + UInt8.ofNat i, access.width)

def functionOps (names : Names) : List (String × Items Op) :=
  let enter (opcode : UInt8) : Items Op := do
    let label ← id?
    let type ← typeUse names false
    pure (.enter opcode label type)
  let branch (opcode : UInt8) : Items Op := .branch opcode <$> ref
  let onVariable (opcode : UInt8) : Items Op := .onVariable opcode <$> ref
  [("block", enter 0x02), ("loop", enter 0x03), ("if", enter Op.ifOpcode),
   ("else", .otherwise <$> plainId?), ("end", .leave <$> plainId?),
   ("br", branch 0x0c), ("br_if", branch 0x0d),
   ("br_table", do
      let first ← ref
      let others ← many ref?
      pure (.branchTable ((first :: others).dropLast) ((first :: others).getLast (by simp)))),
   ("local.get", onVariable 0x20), ("local.set", onVariable 0x21), ("local.tee", onVariable 0x22)]

def op (names : Names) : Items Op := do
  let text ← keyword
  match (functionOps names).lookup text, (moduleOps names).lookup text, accessOps.lookup text,
      Wasm.numericOpcodes.lookup text, (referenceOps names).lookup text with
  | some reader, _, _, _, _ => reader
  | none, some (opcode, immediate), _, _, _ => do
    let immediate ← immediate
    pure (.plain (opcode :: immediate))
  | none, none, some (opcode, natural), _, _ => do
    let immediate ← memArg names natural
    pure (.plain (opcode :: immediate))
  | none, none, none, some opcode, _ => pure (.plain [opcode])
  | none, none, none, none, some (opcode, immediate) => do
    let immediate ← immediate
    pure (.plain (Op.referencePrefix :: Writer.unsigned opcode ++ immediate))
  | none, none, none, none, none => fail

/-- The arms of a folded condition: the operands up to the first arm, the first arm,
and the other one if there is one. -/
def arms (trees : List Tree) : Option (List Tree × List Tree × Option (List Tree)) :=
  let operands := trees.takeWhile fun tree => !tree.opens "then"
  if !operands.all Tree.isBracket then none
  else
    match trees.dropWhile fun tree => !tree.opens "then" with
    | [.list (_ :: first)] => some (operands, first, none)
    | [.list (_ :: first), .list (.atom (.keyword "else") :: second)] =>
      some (operands, first, some second)
    | _ => none

def branchHint : String := "metadata.code.branch_hint"

/-- The instructions of some trees in flat order, with fuel for as many trees as
there are.  A folded block is ended by its bracket, a folded condition has its
operands before it, and any other folded instruction follows its operands.  A hint,
which is zero or one, may stand anywhere and leaves nothing. -/
def flatten (names : Names) : Nat → List Tree → Option (List Op)
  | _, [] => some []
  | 0, _ => none
  | fuel + 1, .list inside :: rest => do
    let (first, operands) ← op names inside
    let others ← flatten names fuel rest
    match first with
    | .enter opcode label type =>
      if opcode = Op.ifOpcode then
        let (operands, first, second) ← arms operands
        let operands ← flatten names fuel operands
        let first ← flatten names fuel first
        let second ←
          match second with
          | none => some []
          | some second => (flatten names fuel second).map (.otherwise none :: ·)
        pure (operands ++ .enter opcode label type :: first ++ second ++ .leave none :: others)
      else
        let body ← flatten names fuel operands
        pure (.enter opcode label type :: body ++ .leave none :: others)
    | first =>
      let operands ← flatten names fuel operands
      pure (operands ++ first :: others)
  | fuel + 1, .note name (.atom (.string hint) :: inside) :: rest =>
    if name = branchHint ∧ (hint = [0] ∨ hint = [1]) then do
      let inside ← flatten names fuel inside
      let others ← flatten names fuel rest
      pure (inside ++ others)
    else none
  | fuel + 1, trees => do
    let (first, rest) ← op names trees
    let others ← flatten names fuel rest
    pure (first :: others)

/-- All that is left, as an expression. -/
def expr (names : Names) : Items (List Op) := do
  let trees ← remaining
  match flatten names (Tree.sizes trees + 1) trees with
  | some ops => pure ops
  | none => fail

/-- An instruction in a bracket whose operands are all in brackets too, with fuel for
as many brackets as there are.  Blocks are no exception, so none has an end. -/
def operationWithin (names : Names) : Nat → Tree → Option (List Op)
  | fuel + 1, .list inside => do
    let (first, operands) ← op names inside
    let operands ← operands.mapM (operationWithin names fuel)
    pure (operands.flatten ++ [first])
  | _, _ => none

/-- One instruction in a bracket, with its operands in brackets. -/
def operation (names : Names) : Items (List Op) := do
  let inside ← list
  match operationWithin names (Tree.sizes inside + 1) (.list inside) with
  | some ops => pure ops
  | none => fail

/-- One instruction in a bracket, in front of the expression for its operands. -/
def folded (names : Names) : Items (List Op) := do
  let inside : Items (List Op) := do
    let first ← op names
    let operands ← expr names
    pure (operands ++ [first])
  match whole inside (← list) with
  | some ops => pure ops
  | none => fail

end Items

/-! ## Encoding -/

/-- What the instructions of a function refer to beside the module: its types and
the names of its variables. -/
structure Frame where
  types : List TypeSlot
  names : List (Option String)

namespace Op

/-- Whether the type of a block is written as an index into the types. -/
def needsType (type : TypeUse) : Bool :=
  type.index.isSome || !type.params.isEmpty || type.results.length > 1

def typeUses : Op → List TypeUse
  | enter _ _ type => if needsType type then [type] else []
  | _ => []

def blockType (types : List TypeSlot) (type : TypeUse) : Option Bytes :=
  if needsType type then (type.resolve? types).map fun index => Writer.signed index
  else
    match type.results with
    | [] => some [0x40]
    | result :: _ => some (Wasm.Writer.valType result)

/-- The depth of a label among those around an instruction, the innermost first. -/
def depth? (labels : List (Option String)) : Ref → Option Nat
  | .index n => some n
  | .name text => labels.idxOf? (some text)

/-- Whether the label repeated at an arm or at the end is the one of its block; where
no block is open, any label will do. -/
def labelAgrees (labels : List (Option String)) (label : Option String) : Bool :=
  label.isNone || labels.head?.all (· == label)

/-- The bytes of an instruction under the given labels, and the labels after it. -/
def encode (frame : Frame) (labels : List (Option String)) :
    Op → Option (Bytes × List (Option String))
  | plain bytes => some (bytes, labels)
  | enter opcode label type =>
    (blockType frame.types type).map fun bytes => (opcode :: bytes, label :: labels)
  | otherwise label =>
    if labelAgrees labels label then some ([elseOpcode], labels) else none
  | leave label =>
    if labelAgrees labels label then some ([endOpcode], labels.drop 1) else none
  | branch opcode label =>
    (depth? labels label).map fun n => (opcode :: Writer.unsigned n, labels)
  | branchTable targets last => do
    let targets ← targets.mapM (depth? labels)
    let last ← depth? labels last
    pure (0x0e :: Wasm.Writer.list Writer.unsigned targets ++ Writer.unsigned last, labels)
  | onVariable opcode ref =>
    (depth? frame.names ref).map fun n => (opcode :: Writer.unsigned n, labels)

def encodeAll (frame : Frame) : List (Option String) → List Op → Option Bytes
  | _, [] => some []
  | labels, first :: rest => do
    let (bytes, labels) ← encode frame labels first
    let others ← encodeAll frame labels rest
    pure (bytes ++ others)

def encodeExpr (frame : Frame) (ops : List Op) : Option Bytes :=
  (encodeAll frame [] ops).map (· ++ [endOpcode])

end Op
end Wat
end HostLink
