/-
Typing of instruction sequences.

The checker keeps a stack of open blocks, each with a stack of operand types of its
own: a block takes its parameters off the operands around it and never reaches below
them.  After an unconditional branch the operands of the current block are unknown,
and a missing operand counts as one of any type.  `Context.bodyTyped` checks a function body and
`Context.constTyped` a constant expression, which allows few instructions but
types them by the same rules.
-/
import HostLink.Wasm.Section

namespace HostLink
namespace Wasm

/-- What instructions can refer to.  `declared` are the functions named outside of
bodies, the only ones a body may take a reference to. -/
structure Context where
  types : Array FuncType := #[]
  functions : Array Nat := #[]
  tables : Array TableType := #[]
  memories : Array MemoryType := #[]
  globals : Array GlobalType := #[]
  declared : List Nat := []

namespace Context

/-! ## Well-formed types -/

/-- Whether a heap type may occur: its index exists, it is not shared, and it does
not belong to stack switching. -/
def validHeap (c : Context) : HeapType → Bool
  | .abstract shared heap => !shared && heap != .cont && heap != .noCont
  | .concrete index => index < c.types.size

def validType (c : Context) : ValType → Bool
  | .ref type => c.validHeap type.heap
  | _ => true

/-! ## Subtypes -/

/-- The subtype order on heap types.  Every indexed type is a function type, and
two indices with the same signature are the same type. -/
def heapSubtype (c : Context) : HeapType → HeapType → Bool
  | .abstract s below, .abstract t above => s == t && below.subtype above
  | .concrete _, .abstract shared above => !shared && above == .func
  | .abstract shared below, .concrete _ => !shared && below == .noFunc
  | .concrete i, .concrete j => i == j || c.types[i]? == c.types[j]?

def refSubtype (c : Context) (below above : RefType) : Bool :=
  (!below.nullable || above.nullable) && c.heapSubtype below.heap above.heap

def subtype (c : Context) : ValType → ValType → Bool
  | .ref below, .ref above => c.refSubtype below above
  | below, above => below == above

def subtypes (c : Context) (below above : List ValType) : Bool :=
  below.length == above.length && (below.zip above).all fun (x, y) => c.subtype x y

def signature? (c : Context) (func : Nat) : Option FuncType := do
  let type ← c.functions[func]?
  c.types[type]?

def indexType (index64 : Bool) : ValType := if index64 then .i64 else .i32

end Context

/-! ## The stacks -/

inductive BlockKind where
  | body
  | block
  | loop
  | ifThen
  | elseArm
  deriving DecidableEq, Repr

/-- An open block: what it takes and gives, the locals that were set before it, its
operand types with the top first, where `none` is a type not known, and whether control
cannot reach the current point. -/
structure Frame where
  kind : BlockKind
  start : List ValType
  finish : List ValType
  assigned : List Nat
  operands : List (Option ValType) := []
  unreachable : Bool := false

/-- The types a branch to the block has to supply. -/
def Frame.label (frame : Frame) : List ValType :=
  match frame.kind with
  | .loop => frame.start
  | _ => frame.finish

/-- The open blocks with the innermost first, and the locals without a default that
have been set. -/
structure Stacks where
  frames : List Frame := []
  assigned : List Nat := []

abbrev Check := StateT Stacks Option

namespace Check

def fail {α : Type} : Check α := fun _ => none

def require (condition : Bool) : Check Unit := if condition then pure () else fail

def ofOption {α : Type} : Option α → Check α
  | some a => pure a
  | none => fail

def frame : Check Frame := do ofOption (← get).frames.head?

def target (label : Nat) : Check Frame := do ofOption (← get).frames[label]?

def changeFrame (change : Frame → Frame) : Check Unit := fun s =>
  match s.frames with
  | [] => none
  | top :: rest => some ((), { s with frames := change top :: rest })

def push (type : ValType) : Check Unit :=
  changeFrame fun top => { top with operands := some type :: top.operands }

def pushAll : List ValType → Check Unit
  | [] => pure ()
  | type :: rest => do
    push type
    pushAll rest

/-- Takes the top operand, of whatever type. -/
def popAny : Check (Option ValType) := do
  let top ← frame
  match top.operands with
  | [] =>
    require top.unreachable
    pure none
  | type :: rest =>
    changeFrame fun top => { top with operands := rest }
    pure type

def pop (c : Context) (expected : ValType) : Check (Option ValType) := do
  match ← popAny with
  | none => pure none
  | some actual =>
    require (c.subtype actual expected)
    pure (some actual)

/-- Takes operands of the given types, the last on top, and returns them as found. -/
def popAll (c : Context) : List ValType → Check (List (Option ValType))
  | [] => pure []
  | type :: rest => do
    let others ← popAll c rest
    let first ← pop c type
    pure (first :: others)

/-- Checks the operands against the types and leaves them. -/
def expect (c : Context) (types : List ValType) : Check Unit := do
  let found ← popAll c types
  changeFrame fun top => { top with operands := found.reverse ++ top.operands }

/-- Nothing after this point of the block is reached. -/
def setUnreachable : Check Unit :=
  changeFrame fun top => { top with operands := [], unreachable := true }

def openBlock (kind : BlockKind) (start finish : List ValType) : Check Unit := do
  modify fun s => { s with
    frames := { kind := kind, start := start, finish := finish, assigned := s.assigned } ::
      s.frames }
  pushAll start

/-- Closes the innermost block, which has to leave its results and nothing else. -/
def closeBlock (c : Context) : Check Frame := do
  let _ ← popAll c (← frame).finish
  let top ← frame
  require top.operands.isEmpty
  modify fun s => { s with frames := s.frames.drop 1, assigned := top.assigned }
  pure top

/-- Sets a local, which matters only if it has no default. -/
def setLocal (c : Context) (index : Nat) (type : ValType) : Check Unit := do
  let _ ← pop c type
  modify fun s =>
    if type.hasDefault || s.assigned.contains index then s
    else { s with assigned := index :: s.assigned }

end Check

namespace Context

open Check

def blockSignature? (c : Context) : BlockType → Option FuncType
  | .empty => some { params := [], results := [] }
  | .value type => if c.validType type then some { params := [], results := [type] } else none
  | .signature type => c.types[type]?

def enter (c : Context) (kind : BlockKind) (type : BlockType) : Check Unit := do
  let signature ← ofOption (c.blockSignature? type)
  let _ ← popAll c signature.params
  openBlock kind signature.params signature.results

/-- The address type of a memory access, which has to be aligned to at most its
width and to have an offset that fits the address. -/
def accessType (c : Context) (width : Nat) (arg : MemArg) : Check ValType := do
  let memory ← ofOption c.memories[arg.memory]?
  require (Nat.pow 2 arg.align ≤ width)
  require (memory.index64 || arg.offset < UInt32.size)
  pure (indexType memory.index64)

/-- The typing rule of each instruction.  `locals` are the types of parameters and
locals. -/
def step (c : Context) (locals : Array ValType) : Instr → Check Unit
  | .unreachable => setUnreachable
  | .nop => ignoreFrame
  | .block type => c.enter .block type
  | .loop type => c.enter .loop type
  | .ifThen type => do
    let _ ← pop c .i32
    c.enter .ifThen type
  | .elseArm => do
    let top ← closeBlock c
    require (top.kind == .ifThen)
    openBlock .elseArm top.start top.finish
  | .blockEnd => do
    let top ← closeBlock c
    if top.kind = .ifThen then require (c.subtypes top.start top.finish)
    if !(← get).frames.isEmpty then pushAll top.finish
  | .br label => do
    let _ ← popAll c (← target label).label
    setUnreachable
  | .brIf label => do
    let _ ← pop c .i32
    let types := (← target label).label
    let _ ← popAll c types
    pushAll types
  | .brTable labels otherwise => do
    let _ ← pop c .i32
    let types := (← target otherwise).label
    for label in labels do
      let others := (← target label).label
      require (others.length == types.length)
      expect c others
    let _ ← popAll c types
    setUnreachable
  | .ret => do
    let outermost ← ofOption (← get).frames.getLast?
    let _ ← popAll c outermost.finish
    setUnreachable
  | .call func => do
    let signature ← ofOption (c.signature? func)
    let _ ← popAll c signature.params
    pushAll signature.results
  | .drop => do
    let _ ← popAny
  | .localGet index => do
    let type ← ofOption locals[index]?
    require (type.hasDefault || (← get).assigned.contains index)
    push type
  | .localSet index => do
    let type ← ofOption locals[index]?
    setLocal c index type
  | .localTee index => do
    let type ← ofOption locals[index]?
    setLocal c index type
    push type
  | .globalGet index => do
    let type ← ofOption c.globals[index]?
    push type.content
  | .globalSet index => do
    let type ← ofOption c.globals[index]?
    require type.mutable
    let _ ← pop c type.content
  | .load type width arg => do
    let _ ← pop c (← c.accessType width arg)
    push type
  | .store type width arg => do
    let address ← c.accessType width arg
    let _ ← pop c type
    let _ ← pop c address
  | .memorySize memory => do
    let memory ← ofOption c.memories[memory]?
    push (indexType memory.index64)
  | .memoryGrow memory => do
    let memory ← ofOption c.memories[memory]?
    let _ ← pop c (indexType memory.index64)
    push (indexType memory.index64)
  | .const type => push type
  | .numeric _ params results => do
    let _ ← popAll c params
    pushAll results
  | .refNull heap => do
    require (c.validHeap heap)
    push (.ref { nullable := true, heap := heap })
  | .refFunc func => do
    let type ← ofOption c.functions[func]?
    require (c.declared.contains func)
    push (.ref { nullable := false, heap := .concrete type })
  | .refI31 => do
    let _ ← pop c .i32
    push (.ref { nullable := false, heap := .abstract false .i31 })
  | .anyOfExtern => convert .external .any
  | .externOfAny => convert .any .external
  | .other => fail
where
  /-- A reference of another kind that is as nullable as the one it is made from. -/
  convert (source result : AbstractHeap) : Check Unit := do
    let found ← pop c (.ref { nullable := true, heap := .abstract false source })
    let nullable :=
      match found with
      | some (.ref type) => type.nullable
      | _ => false
    push (.ref { nullable := nullable, heap := .abstract false result })
  /-- Even an instruction without effect needs an open block. -/
  ignoreFrame : Check Unit := do
    let _ ← frame

/-- Every instruction in order, each inside an open block. -/
def steps (c : Context) (locals : Array ValType) : List Instr → Check Unit
  | [] => pure ()
  | first :: rest => do
    let _ ← frame
    c.step locals first
    steps c locals rest

/-- Whether the instructions, which include the final end, make up a body with the
given results. -/
def sequenceTyped (c : Context) (locals : Array ValType) (assigned : List Nat)
    (results : List ValType) (instrs : List Instr) : Bool :=
  let start : Stacks :=
    { frames := [{ kind := .body, start := [], finish := results, assigned := assigned }],
      assigned := assigned }
  match c.steps locals instrs start with
  | some (_, left) => left.frames.isEmpty
  | none => false

/-- The most parameters and locals of a function together. -/
def maxLocals : Nat := 50000

/-- A function body: the locals by runs of one type, and the instructions. -/
def readBody : Reader (List (Nat × ValType) × List Instr) := do
  let runs ← Reader.many
    (do
      let n ← Reader.u32
      let type ← Reader.valType
      pure (n, type))
    (← Reader.u32)
  let instrs ← fun bytes => Reader.instrsWithin bytes.length bytes
  pure (runs, instrs)

def bodyTyped (c : Context) (signature : FuncType) (body : Bytes) : Bool :=
  match readBody body with
  | none => false
  | some ((runs, instrs), _) =>
    runs.foldl (fun count run => count + run.1) signature.params.length ≤ maxLocals &&
      runs.all (fun run => c.validType run.2) &&
      c.sequenceTyped
        (signature.params ++ runs.flatMap fun run => List.replicate run.1 run.2).toArray
        (List.range signature.params.length) signature.results instrs

/-- Whether an instruction may occur in a constant expression: constants,
references, immutable globals, and integer sums, differences and products. -/
def isConst (c : Context) : Instr → Bool
  | .const _ | .refNull _ | .refFunc _ | .refI31 | .anyOfExtern | .externOfAny => true
  | .globalGet index => c.globals[index]?.any fun type => !type.mutable
  | .numeric opcode _ _ => [0x6a, 0x6b, 0x6c, 0x7c, 0x7d, 0x7e].contains opcode
  | _ => false

def constTyped (c : Context) (type : ValType) (instrs : List Instr) : Bool :=
  instrs.all c.isConst && c.sequenceTyped #[] [] [type] (instrs ++ [.blockEnd])

end Context
end Wasm
end HostLink
