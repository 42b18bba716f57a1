/-
The operation codes of method code and the kind of operand each of them takes.

A code is one octet, or two with `0xFE` in front, written `0xFE00` and up. `operandKind?` gives the kind of the operand that
follows a code and nothing for a code that is not defined.
-/
namespace Unbundle.Code

/-- what follows an operation code -/
inductive OperandKind where
  | none
  /-- a signed integer of that many octets -/
  | integer (width : Nat)
  /-- a metadata token of four octets -/
  | token
  /-- a count and that many jump distances, four octets each -/
  | table
  deriving DecidableEq, Repr

/-- the codes of one octet -/
def shortKind? (code : Nat) : Option OperandKind :=
  if code ≤ 0x0D then some .none                        -- nop to stloc.3
  else if code ≤ 0x13 then some (.integer 1)            -- ldarg.s to stloc.s
  else if code ≤ 0x1E then some .none                   -- ldnull to ldc.i4.8
  else if code = 0x1F then some (.integer 1)            -- ldc.i4.s
  else if code = 0x20 then some (.integer 4)            -- ldc.i4
  else if code = 0x21 then some (.integer 8)            -- ldc.i8
  else if code = 0x22 then some (.integer 4)            -- ldc.r4
  else if code = 0x23 then some (.integer 8)            -- ldc.r8
  else if code = 0x24 then none
  else if code ≤ 0x26 then some .none                   -- dup, pop
  else if code ≤ 0x29 then some .token                  -- jmp, call, calli
  else if code = 0x2A then some .none                   -- ret
  else if code ≤ 0x37 then some (.integer 1)            -- short branches
  else if code ≤ 0x44 then some (.integer 4)            -- long branches
  else if code = 0x45 then some .table                  -- switch
  else if code ≤ 0x6E then some .none                   -- indirect access, arithmetic, conversions
  else if code ≤ 0x75 then some .token                  -- callvirt to isinst
  else if code = 0x76 then some .none                   -- conv.r.un
  else if code ≤ 0x78 then none
  else if code = 0x79 then some .token                  -- unbox
  else if code = 0x7A then some .none                   -- throw
  else if code ≤ 0x81 then some .token                  -- ldfld to stobj
  else if code ≤ 0x8B then some .none                   -- checked unsigned conversions
  else if code ≤ 0x8D then some .token                  -- box, newarr
  else if code = 0x8E then some .none                   -- ldlen
  else if code = 0x8F then some .token                  -- ldelema
  else if code ≤ 0xA2 then some .none                   -- typed array elements
  else if code ≤ 0xA5 then some .token                  -- ldelem, stelem, unbox.any
  else if code ≤ 0xB2 then none
  else if code ≤ 0xBA then some .none                   -- checked conversions
  else if code ≤ 0xC1 then none
  else if code = 0xC2 then some .token                  -- refanyval
  else if code = 0xC3 then some .none                   -- ckfinite
  else if code = 0xC6 then some .token                  -- mkrefany
  else if code = 0xD0 then some .token                  -- ldtoken
  else if code < 0xD0 then none
  else if code ≤ 0xDC then some .none                   -- conv.u2 to endfinally
  else if code = 0xDD then some (.integer 4)            -- leave
  else if code = 0xDE then some (.integer 1)            -- leave.s
  else if code ≤ 0xE0 then some .none                   -- stind.i, conv.u
  else none

/-- the codes of two octets, by their second octet -/
def longKind? (second : Nat) : Option OperandKind :=
  if second ≤ 0x05 then some .none                      -- arglist, comparisons
  else if second ≤ 0x07 then some .token                -- ldftn, ldvirtftn
  else if second = 0x08 then none
  else if second ≤ 0x0E then some (.integer 2)          -- ldarg to stloc
  else if second = 0x0F then some .none                 -- localloc
  else if second = 0x10 then none
  else if second = 0x11 then some .none                 -- endfilter
  else if second = 0x12 then some (.integer 1)          -- unaligned.
  else if second ≤ 0x14 then some .none                 -- volatile., tail.
  else if second ≤ 0x16 then some .token                -- initobj, constrained.
  else if second ≤ 0x18 then some .none                 -- cpblk, initblk
  else if second = 0x19 then some (.integer 1)          -- no.
  else if second = 0x1A then some .none                 -- rethrow
  else if second = 0x1B then none
  else if second = 0x1C then some .token                -- sizeof
  else if second ≤ 0x1E then some .none                 -- refanytype, readonly.
  else none

/-- the octet that opens a code of two octets -/
def escape : UInt8 := 0xFE

/-- the kind of operand that a code takes, if the code is defined -/
def operandKind? (opcode : Nat) : Option OperandKind :=
  if opcode < 0xFE00 then if opcode < 0xFE then shortKind? opcode else none
  else longKind? (opcode - 0xFE00)

/-- the code that makes an object by calling a constructor -/
def newObject : Nat := 0x73

end Unbundle.Code
