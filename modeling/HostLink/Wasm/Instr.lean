/-
Instructions and their binary form.

Every opcode is known by the shape of its immediates, so that an expression can
be told apart from undecodable bytes.  The instructions with a typing rule of
their own have a constructor; the numeric ones share one that carries their
operand and result types; the rest decode to `other`.
-/
import HostLink.Wasm.Reader

namespace HostLink
namespace Wasm

/-- The type of a block: at most one result, or the signature with an index. -/
inductive BlockType where
  | empty
  | value (type : ValType)
  | signature (type : Nat)
  deriving DecidableEq, Repr

/-- The immediate of a memory access: the alignment as a power of two, the
memory, and the offset. -/
structure MemArg where
  align : Nat
  memory : Nat
  offset : Nat
  deriving DecidableEq, Repr

inductive Instr where
  | unreachable
  | nop
  | block (type : BlockType)
  | loop (type : BlockType)
  | ifThen (type : BlockType)
  | elseArm
  | blockEnd
  | br (label : Nat)
  | brIf (label : Nat)
  | brTable (labels : List Nat) (otherwise : Nat)
  | ret
  | call (func : Nat)
  | drop
  | localGet (index : Nat)
  | localSet (index : Nat)
  | localTee (index : Nat)
  | globalGet (index : Nat)
  | globalSet (index : Nat)
  | load (type : ValType) (width : Nat) (arg : MemArg)
  | store (type : ValType) (width : Nat) (arg : MemArg)
  | memorySize (memory : Nat)
  | memoryGrow (memory : Nat)
  | const (type : ValType)
  | numeric (opcode : UInt8) (params results : List ValType)
  | refNull (heap : HeapType)
  | refFunc (func : Nat)
  | refI31
  | anyOfExtern
  | externOfAny
  | other
  deriving DecidableEq, Repr

/-! ## The numeric instructions -/

/-- A run of consecutive opcodes of one signature, with their mnemonics. -/
structure OpcodeRun where
  first : UInt8
  params : List ValType
  results : List ValType
  mnemonics : List String

/-- The instructions that take and give numbers and have no immediates, by runs
of one signature. -/
def numericRuns : List OpcodeRun :=
  [⟨0x45, [.i32], [.i32], ["i32.eqz"]⟩,
   ⟨0x46, [.i32, .i32], [.i32], ["i32.eq", "i32.ne", "i32.lt_s", "i32.lt_u", "i32.gt_s",
     "i32.gt_u", "i32.le_s", "i32.le_u", "i32.ge_s", "i32.ge_u"]⟩,
   ⟨0x50, [.i64], [.i32], ["i64.eqz"]⟩,
   ⟨0x51, [.i64, .i64], [.i32], ["i64.eq", "i64.ne", "i64.lt_s", "i64.lt_u", "i64.gt_s",
     "i64.gt_u", "i64.le_s", "i64.le_u", "i64.ge_s", "i64.ge_u"]⟩,
   ⟨0x5b, [.f32, .f32], [.i32], ["f32.eq", "f32.ne", "f32.lt", "f32.gt", "f32.le", "f32.ge"]⟩,
   ⟨0x61, [.f64, .f64], [.i32], ["f64.eq", "f64.ne", "f64.lt", "f64.gt", "f64.le", "f64.ge"]⟩,
   ⟨0x67, [.i32], [.i32], ["i32.clz", "i32.ctz", "i32.popcnt"]⟩,
   ⟨0x6a, [.i32, .i32], [.i32], ["i32.add", "i32.sub", "i32.mul", "i32.div_s", "i32.div_u",
     "i32.rem_s", "i32.rem_u", "i32.and", "i32.or", "i32.xor", "i32.shl", "i32.shr_s",
     "i32.shr_u", "i32.rotl", "i32.rotr"]⟩,
   ⟨0x79, [.i64], [.i64], ["i64.clz", "i64.ctz", "i64.popcnt"]⟩,
   ⟨0x7c, [.i64, .i64], [.i64], ["i64.add", "i64.sub", "i64.mul", "i64.div_s", "i64.div_u",
     "i64.rem_s", "i64.rem_u", "i64.and", "i64.or", "i64.xor", "i64.shl", "i64.shr_s",
     "i64.shr_u", "i64.rotl", "i64.rotr"]⟩,
   ⟨0x8b, [.f32], [.f32], ["f32.abs", "f32.neg", "f32.ceil", "f32.floor", "f32.trunc",
     "f32.nearest", "f32.sqrt"]⟩,
   ⟨0x92, [.f32, .f32], [.f32], ["f32.add", "f32.sub", "f32.mul", "f32.div", "f32.min",
     "f32.max", "f32.copysign"]⟩,
   ⟨0x99, [.f64], [.f64], ["f64.abs", "f64.neg", "f64.ceil", "f64.floor", "f64.trunc",
     "f64.nearest", "f64.sqrt"]⟩,
   ⟨0xa0, [.f64, .f64], [.f64], ["f64.add", "f64.sub", "f64.mul", "f64.div", "f64.min",
     "f64.max", "f64.copysign"]⟩,
   ⟨0xa7, [.i64], [.i32], ["i32.wrap_i64"]⟩,
   ⟨0xa8, [.f32], [.i32], ["i32.trunc_f32_s", "i32.trunc_f32_u"]⟩,
   ⟨0xaa, [.f64], [.i32], ["i32.trunc_f64_s", "i32.trunc_f64_u"]⟩,
   ⟨0xac, [.i32], [.i64], ["i64.extend_i32_s", "i64.extend_i32_u"]⟩,
   ⟨0xae, [.f32], [.i64], ["i64.trunc_f32_s", "i64.trunc_f32_u"]⟩,
   ⟨0xb0, [.f64], [.i64], ["i64.trunc_f64_s", "i64.trunc_f64_u"]⟩,
   ⟨0xb2, [.i32], [.f32], ["f32.convert_i32_s", "f32.convert_i32_u"]⟩,
   ⟨0xb4, [.i64], [.f32], ["f32.convert_i64_s", "f32.convert_i64_u"]⟩,
   ⟨0xb6, [.f64], [.f32], ["f32.demote_f64"]⟩,
   ⟨0xb7, [.i32], [.f64], ["f64.convert_i32_s", "f64.convert_i32_u"]⟩,
   ⟨0xb9, [.i64], [.f64], ["f64.convert_i64_s", "f64.convert_i64_u"]⟩,
   ⟨0xbb, [.f32], [.f64], ["f64.promote_f32"]⟩,
   ⟨0xbc, [.f32], [.i32], ["i32.reinterpret_f32"]⟩,
   ⟨0xbd, [.f64], [.i64], ["i64.reinterpret_f64"]⟩,
   ⟨0xbe, [.i32], [.f32], ["f32.reinterpret_i32"]⟩,
   ⟨0xbf, [.i64], [.f64], ["f64.reinterpret_i64"]⟩,
   ⟨0xc0, [.i32], [.i32], ["i32.extend8_s", "i32.extend16_s"]⟩,
   ⟨0xc2, [.i64], [.i64], ["i64.extend8_s", "i64.extend16_s", "i64.extend32_s"]⟩]

def numeric? (opcode : UInt8) : Option Instr :=
  (numericRuns.find? fun run =>
    run.first ≤ opcode && opcode.toNat < run.first.toNat + run.mnemonics.length).map
    fun run => .numeric opcode run.params run.results

def numericOpcodes : List (String × UInt8) :=
  numericRuns.flatMap fun run =>
    run.mnemonics.zipIdx.map fun (mnemonic, i) => (mnemonic, run.first + UInt8.ofNat i)

/-! ## Memory accesses -/

/-- A load or store: its mnemonic, its value type, and the bytes it moves. -/
structure Access where
  mnemonic : String
  isStore : Bool
  type : ValType
  width : Nat

/-- The loads and stores in the order of their opcodes, the first being `0x28`. -/
def accesses : List Access :=
  [⟨"i32.load", false, .i32, 4⟩, ⟨"i64.load", false, .i64, 8⟩, ⟨"f32.load", false, .f32, 4⟩,
   ⟨"f64.load", false, .f64, 8⟩, ⟨"i32.load8_s", false, .i32, 1⟩, ⟨"i32.load8_u", false, .i32, 1⟩,
   ⟨"i32.load16_s", false, .i32, 2⟩, ⟨"i32.load16_u", false, .i32, 2⟩,
   ⟨"i64.load8_s", false, .i64, 1⟩, ⟨"i64.load8_u", false, .i64, 1⟩,
   ⟨"i64.load16_s", false, .i64, 2⟩, ⟨"i64.load16_u", false, .i64, 2⟩,
   ⟨"i64.load32_s", false, .i64, 4⟩, ⟨"i64.load32_u", false, .i64, 4⟩,
   ⟨"i32.store", true, .i32, 4⟩, ⟨"i64.store", true, .i64, 8⟩, ⟨"f32.store", true, .f32, 4⟩,
   ⟨"f64.store", true, .f64, 8⟩, ⟨"i32.store8", true, .i32, 1⟩, ⟨"i32.store16", true, .i32, 2⟩,
   ⟨"i64.store8", true, .i64, 1⟩, ⟨"i64.store16", true, .i64, 2⟩, ⟨"i64.store32", true, .i64, 4⟩]

def firstAccess : UInt8 := 0x28

def access? (opcode : UInt8) : Option Access :=
  if opcode < firstAccess then none else accesses[(opcode - firstAccess).toNat]?

namespace Reader

/-! ## Immediates -/

/-- The empty type, a value type, or a type index as a signed integer. -/
def blockType : Reader BlockType := do
  let first ← peek
  if first = 0x40 then
    let _ ← byte
    pure .empty
  else if 0x40 < first ∧ first < 0x80 then
    .value <$> valType
  else
    let index ← signed 33
    if 0 ≤ index then pure (.signature index.toNat) else fail

/-- A memory access.  Bit six of the alignment announces a memory index. -/
def memArg : Reader MemArg := do
  let flags ← u32
  let memory ← if flags.testBit 6 then u32 else pure 0
  let align := if flags.testBit 6 then flags - 64 else flags
  if align ≥ 64 then fail
  let offset ← u64
  pure { align := align, memory := memory, offset := offset }

/-- The most labels of a branch table. -/
def maxBranchTable : Nat := 65520

def brTable : Reader Instr := do
  let labels ← many u32 (← size maxBranchTable)
  let otherwise ← u32
  pure (.brTable labels otherwise)

/-- Reads and forgets each of the items. -/
def skip (items : List (Reader Unit)) : Reader Instr := do
  for item in items do item
  pure .other

def ignore {α : Type} (item : Reader α) : Reader Unit := do
  let _ ← item
  pure ()

def catchClause : Reader Unit := do
  let kind ← byte
  if kind ≥ 4 then fail
  if kind < 2 then ignore u32
  ignore u32

def handlerClause : Reader Unit := do
  let kind ← byte
  if kind ≥ 2 then fail
  ignore u32
  if kind = 0 then ignore u32

def gcInstr : Reader Instr := do
  let opcode ← u32
  let index := ignore u32
  let heap := ignore heapType
  if opcode = 0 ∨ opcode = 1 ∨ opcode = 6 ∨ opcode = 7 ∨ opcode = 16 ∨
      (11 ≤ opcode ∧ opcode ≤ 14) then skip [index]
  else if (2 ≤ opcode ∧ opcode ≤ 5) ∨ (8 ≤ opcode ∧ opcode ≤ 10) ∨
      (17 ≤ opcode ∧ opcode ≤ 19) then skip [index, index]
  else if 20 ≤ opcode ∧ opcode ≤ 23 then skip [heap]
  else if opcode = 24 ∨ opcode = 25 then
    if (← byte) ≥ 4 then fail
    skip [index, heap, heap]
  else if opcode = 26 then pure .anyOfExtern
  else if opcode = 27 then pure .externOfAny
  else if opcode = 28 then pure .refI31
  else if opcode = 15 ∨ opcode = 29 ∨ opcode = 30 then skip []
  else fail

def bulkInstr : Reader Instr := do
  let opcode ← u32
  let index := ignore u32
  if opcode < 8 ∨ (19 ≤ opcode ∧ opcode ≤ 22) then skip []
  else if opcode = 8 ∨ opcode = 10 ∨ opcode = 12 ∨ opcode = 14 then skip [index, index]
  else if opcode ≤ 18 then skip [index]
  else fail

/-- Codes without an instruction among the vector operations. -/
def vectorGaps : List Nat :=
  [154, 162, 165, 166, 175, 176, 178, 179, 180, 187, 194, 197, 198, 207, 208, 210, 211, 212,
   226, 238]

/-- The number of a lane, of which there are `count`. -/
def lane (count : Nat) : Reader Unit := do
  if (← byte).toNat ≥ count then fail

/-- The number of lanes of the vectors that opcodes 21 to 34 take lanes from or put
lanes into. -/
def laneCounts : List Nat := [16, 16, 16, 8, 8, 8, 4, 4, 2, 2, 4, 4, 2, 2]

/-- The same for opcodes 84 to 91, which load or store a lane. -/
def accessLaneCounts : List Nat := [16, 8, 4, 2, 16, 8, 4, 2]

def vectorInstr : Reader Instr := do
  let opcode ← u32
  let access := ignore memArg
  if opcode ≤ 11 ∨ opcode = 92 ∨ opcode = 93 then skip [access]
  else if opcode = 12 then
    let _ ← take 16
    pure (.const .v128)
  else if opcode = 13 then
    -- A shuffle picks from the lanes of two vectors.
    skip (List.replicate 16 (lane 32))
  else if 21 ≤ opcode ∧ opcode ≤ 34 then skip [lane (laneCounts.getD (opcode - 21) 0)]
  else if 84 ≤ opcode ∧ opcode ≤ 91 then
    skip [access, lane (accessLaneCounts.getD (opcode - 84) 0)]
  else if opcode ≤ 275 ∧ ¬ vectorGaps.contains opcode then skip []
  else fail

def ordering : Reader Unit := do
  if (← byte) > 1 then fail

/-- The opcodes behind the prefix of atomic operations: on memories, on globals and
tables, on fields of structures, and on arrays. -/
def atomicInstr : Reader Instr := do
  let opcode ← u32
  let index := ignore u32
  if opcode = 3 then
    if (← byte) ≠ 0 then fail
    skip []
  else if opcode < 3 ∨ (16 ≤ opcode ∧ opcode ≤ 78) then skip [ignore memArg]
  else if (79 ≤ opcode ∧ opcode ≤ 91) ∨ (103 ≤ opcode ∧ opcode ≤ 113) then
    skip [ordering, index]
  else if 92 ≤ opcode ∧ opcode ≤ 102 then skip [ordering, index, index]
  else if opcode = 114 then skip []
  else fail

/-- The opcodes with a constructor of their own, numeric ones and memory accesses
apart. -/
def controlInstr : UInt8 → Option (Reader Instr)
  | 0x00 => some (pure .unreachable)
  | 0x01 => some (pure .nop)
  | 0x02 => some (.block <$> blockType)
  | 0x03 => some (.loop <$> blockType)
  | 0x04 => some (.ifThen <$> blockType)
  | 0x05 => some (pure .elseArm)
  | 0x0b => some (pure .blockEnd)
  | 0x0c => some (.br <$> u32)
  | 0x0d => some (.brIf <$> u32)
  | 0x0e => some brTable
  | 0x0f => some (pure .ret)
  | 0x10 => some (.call <$> u32)
  | 0x1a => some (pure .drop)
  | 0x20 => some (.localGet <$> u32)
  | 0x21 => some (.localSet <$> u32)
  | 0x22 => some (.localTee <$> u32)
  | 0x23 => some (.globalGet <$> u32)
  | 0x24 => some (.globalSet <$> u32)
  | 0x3f => some (.memorySize <$> u32)
  | 0x40 => some (.memoryGrow <$> u32)
  | 0x41 => some (do ignore (signed 32); pure (.const .i32))
  | 0x42 => some (do ignore (signed 64); pure (.const .i64))
  | 0x43 => some (do ignore (take 4); pure (.const .f32))
  | 0x44 => some (do ignore (take 8); pure (.const .f64))
  | 0xd0 => some (.refNull <$> heapType)
  | 0xd2 => some (.refFunc <$> u32)
  | _ => none

/-- The opcodes that only have their immediates read. -/
def otherInstr (opcode : UInt8) : Reader Instr :=
  let index := ignore u32
  if opcode = 0x06 then skip [ignore blockType]
  else if [0x0a, 0x19, 0x1b, 0xd1, 0xd3, 0xd4].contains opcode then skip []
  else if [0x07, 0x08, 0x09, 0x12, 0x14, 0x15, 0x18, 0x25, 0x26, 0xd5, 0xd6, 0xe0,
      0xe2].contains opcode then skip [index]
  else if [0x11, 0x13, 0xe1, 0xe5].contains opcode then skip [index, index]
  else if opcode = 0x1c then do
    if (← u32) ≠ 1 then fail
    skip [ignore valType]
  else if opcode = 0x1f then do
    ignore blockType
    ignore (many catchClause (← u32))
    skip []
  else if opcode = 0xe3 then do
    index
    ignore (many handlerClause (← u32))
    skip []
  else if opcode = 0xe4 then do
    index
    index
    ignore (many handlerClause (← u32))
    skip []
  else if opcode = 0xfb then gcInstr
  else if opcode = 0xfc then bulkInstr
  else if opcode = 0xfd then vectorInstr
  else if opcode = 0xfe then atomicInstr
  else fail

def instr : Reader Instr := do
  let opcode ← byte
  match controlInstr opcode, numeric? opcode, access? opcode with
  | some reader, _, _ => reader
  | none, some numeric, _ => pure numeric
  | none, none, some access =>
    let arg ← memArg
    pure (if access.isStore then .store access.type access.width arg
      else .load access.type access.width arg)
  | none, none, none => otherInstr opcode

/-- A constant expression: instructions up to the first end, which is dropped.  Each
takes a byte at least, so the number of bytes bounds their number. -/
def expr : Nat → Reader (List Instr)
  | 0 => fail
  | bound + 1 => do
    match ← instr with
    | .blockEnd => pure []
    | first =>
      let rest ← expr bound
      pure (first :: rest)

def instrsWithin : Nat → Reader (List Instr)
  | 0 => fun bytes => if bytes.isEmpty then some ([], []) else none
  | fuel + 1 => fun bytes =>
    if bytes.isEmpty then some ([], [])
    else
      (do
        let first ← instr
        let rest ← instrsWithin fuel
        pure (first :: rest)) bytes

end Reader
end Wasm
end HostLink
