/-! # Opcodes

A request starts with one ASCII digit that names it and fixes the length of what follows. Responses
repeat the digit of the request that they answer.
-/

namespace WatchedStore.Wire

/-- Bytes of every text field on the wire. -/
def fieldSize : Nat := 40

/-- What a client can ask for. -/
inductive Opcode
  | connect
  | disconnect
  | subscribe
  | unsubscribe
deriving DecidableEq, Repr

namespace Opcode

/-- The digit that stands for an opcode. -/
def byte : Opcode → UInt8
  | connect => 0x31
  | disconnect => 0x32
  | subscribe => 0x33
  | unsubscribe => 0x34

/-- The opcode that a byte stands for. -/
def ofByte? (b : UInt8) : Option Opcode :=
  if b = 0x31 then some connect
  else if b = 0x32 then some disconnect
  else if b = 0x33 then some subscribe
  else if b = 0x34 then some unsubscribe
  else none

/-- The length of the payload behind an opcode on the request channel. -/
def payloadLength : Opcode → Nat
  | connect => 3 * fieldSize
  | disconnect => 0
  | subscribe => fieldSize
  | unsubscribe => fieldSize

/-- The name of an opcode in messages. -/
def name : Opcode → String
  | connect => "Connect"
  | disconnect => "Disconnect"
  | subscribe => "Subscribe"
  | unsubscribe => "Unsubscribe"

theorem ofByte?_eq_some_iff {b : UInt8} {opcode : Opcode} :
    ofByte? b = some opcode ↔ b = opcode.byte := by
  constructor
  · intro h
    unfold ofByte? at h
    repeat' split at h
    all_goals cases opcode <;> simp_all [byte]
  · rintro rfl
    cases opcode <;> rfl

@[simp] theorem ofByte?_byte (opcode : Opcode) : ofByte? opcode.byte = some opcode :=
  ofByte?_eq_some_iff.2 rfl

end Opcode

end WatchedStore.Wire
