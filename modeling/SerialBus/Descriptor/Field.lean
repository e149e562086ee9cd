import SerialBus.Text.Digits

/-! The enumerations that endpoint addresses, attributes and request types pack into bits. -/

namespace SerialBus

/-- Which way data flows, seen from the host. -/
inductive Direction
  | toDevice
  | toHost
  deriving DecidableEq, Repr, Inhabited

inductive TransferType
  | control
  | isochronous
  | bulk
  | interrupt
  deriving DecidableEq, Repr, Inhabited

/-- Who defined a control request. -/
inductive RequestKind
  | standard
  | classSpecific
  | vendor
  | reserved
  deriving DecidableEq, Repr, Inhabited

/-- What a control request addresses. -/
inductive Recipient
  | device
  | interface
  | endpoint
  | other
  deriving DecidableEq, Repr, Inhabited

/-- The direction is bit 7 of an endpoint address and of a request type. -/
def Direction.code : Direction → UInt8
  | .toDevice => 0x00
  | .toHost => 0x80

def Direction.isToHost (d : Direction) : Bool := d == .toHost

def TransferType.code : TransferType → UInt8
  | .control => 0
  | .isochronous => 1
  | .bulk => 2
  | .interrupt => 3

def TransferType.text : TransferType → String
  | .control => "Control"
  | .isochronous => "Isochronous"
  | .bulk => "Bulk"
  | .interrupt => "Interrupt"

def RequestKind.code : RequestKind → UInt8
  | .standard => 0
  | .classSpecific => 1
  | .vendor => 2
  | .reserved => 3

def Recipient.code : Recipient → UInt8
  | .device => 0
  | .interface => 1
  | .endpoint => 2
  | .other => 3

def TransferType.ofCode? : UInt8 → Option TransferType
  | 0 => some .control
  | 1 => some .isochronous
  | 2 => some .bulk
  | 3 => some .interrupt
  | _ => none

def RequestKind.ofCode? : UInt8 → Option RequestKind
  | 0 => some .standard
  | 1 => some .classSpecific
  | 2 => some .vendor
  | 3 => some .reserved
  | _ => none

def Recipient.ofCode? : UInt8 → Option Recipient
  | 0 => some .device
  | 1 => some .interface
  | 2 => some .endpoint
  | 3 => some .other
  | _ => none

/-- Bit 7 of a byte as a direction. -/
def directionBit (byte : UInt8) : Direction :=
  if byte &&& 0x80 != 0 then .toHost else .toDevice

/-- The endpoint number is bits 0 to 3 of an endpoint address. -/
def endpointNumber (address : UInt8) : UInt8 := address &&& 0x0F

def endpointDirection (address : UInt8) : Direction := directionBit address

/-- The transfer type is bits 0 and 1 of an endpoint's attributes. -/
def transferTypeOf (attributes : UInt8) : TransferType :=
  match attributes &&& 0x03 with
  | 0 => .control
  | 1 => .isochronous
  | 2 => .bulk
  | _ => .interrupt

def requestDirection (requestType : UInt8) : Direction := directionBit requestType

/-- The kind of a request is bits 5 and 6 of its request type. -/
def requestKind (requestType : UInt8) : RequestKind :=
  match (requestType &&& 0x60) >>> 5 with
  | 0 => .standard
  | 1 => .classSpecific
  | 2 => .vendor
  | _ => .reserved

/-- The recipient of a request is bits 0 and 1 of its request type. -/
def requestRecipient (requestType : UInt8) : Recipient :=
  match requestType &&& 0x03 with
  | 0 => .device
  | 1 => .interface
  | 2 => .endpoint
  | _ => .other

/-- The request type byte of a control request. -/
def requestType (direction : Direction) (kind : RequestKind) (recipient : Recipient) : UInt8 :=
  recipient.code ||| (kind.code <<< 5) ||| direction.code

/-! What the bits say in numbers. -/

/-- A property of all bytes, checked one by one. -/
theorem forall_byte {p : UInt8 → Prop} (h : ∀ n : Fin 256, p (.ofFin n)) (b : UInt8) : p b :=
  h b.toFin

theorem directionBit_eq_toHost_iff (byte : UInt8) :
    directionBit byte = .toHost ↔ 128 ≤ byte.toNat := by
  have hbyte : ∀ b : UInt8, directionBit b = .toHost ↔ 128 ≤ b.toNat :=
    forall_byte (by decide +kernel)
  exact hbyte byte

theorem toNat_endpointNumber (address : UInt8) :
    (endpointNumber address).toNat = address.toNat % 16 := by
  have hand : (endpointNumber address).toNat = address.toNat &&& 15 :=
    UInt8.toNat_and address 15
  rw [hand]
  exact Nat.and_two_pow_sub_one_eq_mod address.toNat 4

theorem code_transferTypeOf (attributes : UInt8) :
    (transferTypeOf attributes).code.toNat = attributes.toNat % 4 := by
  have hbyte : ∀ b : UInt8, (transferTypeOf b).code.toNat = b.toNat % 4 :=
    forall_byte (by decide +kernel)
  exact hbyte attributes

theorem code_requestKind (requestType : UInt8) :
    (requestKind requestType).code.toNat = requestType.toNat / 32 % 4 := by
  have hbyte : ∀ b : UInt8, (requestKind b).code.toNat = b.toNat / 32 % 4 :=
    forall_byte (by decide +kernel)
  exact hbyte requestType

theorem code_requestRecipient (requestType : UInt8) :
    (requestRecipient requestType).code.toNat = requestType.toNat % 4 := by
  have hbyte : ∀ b : UInt8, (requestRecipient b).code.toNat = b.toNat % 4 :=
    forall_byte (by decide +kernel)
  exact hbyte requestType

theorem requestDirection_requestType (d : Direction) (k : RequestKind) (r : Recipient) :
    requestDirection (requestType d k r) = d := by
  cases d <;> cases k <;> cases r <;> decide

theorem requestKind_requestType (d : Direction) (k : RequestKind) (r : Recipient) :
    requestKind (requestType d k r) = k := by
  cases d <;> cases k <;> cases r <;> decide

theorem requestRecipient_requestType (d : Direction) (k : RequestKind) (r : Recipient) :
    requestRecipient (requestType d k r) = r := by
  cases d <;> cases k <;> cases r <;> decide

end SerialBus
