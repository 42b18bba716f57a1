import Unbundle.Module.Basic
import Unbundle.Code.Instruction
/-
What the tokens in method code stand for.

A token is a table number and a row number. Tokens of tables that name no member or type, and rows that do not exist, stand
for nothing. Of several members with one token the latest counts.
-/
namespace Unbundle

/-- what a token stands for -/
inductive Entity where
  | type (sig : TypeSig)
  | field (id : FieldId)
  | method (id : MethodId)
  | member (ref : MemberRef)
  deriving Repr

namespace Table

-- The metadata tables, by number, whose rows tokens in code may name.

def typeRef : Nat := 0x01
def typeDef : Nat := 0x02
def field : Nat := 0x04
def method : Nat := 0x06
def memberRef : Nat := 0x0A
def typeSpec : Nat := 0x1B

/-- the token of a row of a table; rows count from 1 -/
def token (table row : Nat) : Nat := table * 0x1000000 + row

end Table

/-- the place of the last entry of a pool that satisfies `p` -/
def lastPlace? {α : Type} (p : α → Bool) (pool : Array α) : Option Nat :=
  (List.range pool.size).reverse.find? fun i => pool[i]?.any p

namespace Module

/-- an entry of a pool whose rows count from 1 -/
def row? {α : Type} (pool : Array α) (row : Nat) : Option α := if row = 0 then none else pool[row - 1]?

/-- what a token stands for, if anything -/
def entity? (m : Module) (token : Nat) : Except TypeFault (Option Entity) :=
  let table := token / 0x1000000
  let row := token % 0x1000000
  if table = Table.method then .ok ((lastPlace? (·.token = token) m.methods).map .method)
  else if table = Table.field then .ok ((lastPlace? (·.token = token) m.fields).map .field)
  else if table = Table.typeDef then
    .ok (if 0 < row ∧ row ≤ m.definitions.size then some (.type (.defined (row - 1))) else none)
  else if table = Table.typeRef then .ok ((row? m.typeReferences row).map .type)
  else if table = Table.typeSpec then
    match row? m.typeSpecs row with
    | some (.ok sig) => .ok (sig.map .type)
    | some (.error e) => .error e
    | none => .ok none
  else if table = Table.memberRef then
    match row? m.memberReferences row with
    | some (.ok ref) => .ok (some (.member ref))
    | some (.error e) => .error e
    | none => .ok none
  else .ok none

/-- what the operand of an instruction stands for, if it is a token that stands for something -/
def operandEntity? (m : Module) (operand : Code.Operand) : Except TypeFault (Option Entity) :=
  match operand with
  | .token t => m.entity? t
  | _ => .ok none

end Module

end Unbundle
