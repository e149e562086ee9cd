import SerialBus.Backend.Basic
import SerialBus.Loopback.Device

/-!
A bus in memory. Each endpoint number of a device is one queue, so that bytes sent to 0x01 are
received from 0x81, and each device keeps the data of the last vendor request.
-/

namespace SerialBus.Loopback

/-- The operations of the bus that are counted and can be made to fail. -/
inductive Method
  | enumerateDevices
  | getDeviceDescriptor
  | getConfigurationDescriptor
  | getInterfaceDescriptor
  | getEndpointDescriptor
  | openDevice
  | closeDevice
  | setConfiguration
  | getConfiguration
  | claimInterface
  | releaseInterface
  | setInterfaceAltsetting
  | bulkTransfer
  | interruptTransfer
  | isochronousTransfer
  | ctrlTransfer
  | resetDevice
  | isKernelDriverActive
  | detachKernelDriver
  | attachKernelDriver
  | clearHalt
  deriving DecidableEq, Repr, Inhabited

namespace Method

def all : List Method :=
  [enumerateDevices, getDeviceDescriptor, getConfigurationDescriptor, getInterfaceDescriptor,
   getEndpointDescriptor, openDevice, closeDevice, setConfiguration, getConfiguration,
   claimInterface, releaseInterface, setInterfaceAltsetting, bulkTransfer, interruptTransfer,
   isochronousTransfer, ctrlTransfer, resetDevice, isKernelDriverActive, detachKernelDriver,
   attachKernelDriver, clearHalt]

def name : Method → String
  | enumerateDevices => "enumerate_devices"
  | getDeviceDescriptor => "get_device_descriptor"
  | getConfigurationDescriptor => "get_configuration_descriptor"
  | getInterfaceDescriptor => "get_interface_descriptor"
  | getEndpointDescriptor => "get_endpoint_descriptor"
  | openDevice => "open_device"
  | closeDevice => "close_device"
  | setConfiguration => "set_configuration"
  | getConfiguration => "get_configuration"
  | claimInterface => "claim_interface"
  | releaseInterface => "release_interface"
  | setInterfaceAltsetting => "set_interface_altsetting"
  | bulkTransfer => "bulk_transfer"
  | interruptTransfer => "interrupt_transfer"
  | isochronousTransfer => "isochronous_transfer"
  | ctrlTransfer => "ctrl_transfer"
  | resetDevice => "reset_device"
  | isKernelDriverActive => "is_kernel_driver_active"
  | detachKernelDriver => "detach_kernel_driver"
  | attachKernelDriver => "attach_kernel_driver"
  | clearHalt => "clear_halt"

def ofName? (s : String) : Option Method := all.find? (·.name == s)

def rank : Method → Nat := Method.ctorIdx

instance : Ranked Method := ⟨rank, fun {a b} h => by cases a <;> cases b <;> first | rfl | cases h⟩

end Method

/-- An open handle: its device, its claims and the alternates selected through it. -/
structure Handle where
  device : DeviceId
  claimed : ByteSet
  alternates : Table UInt8 UInt8
  deriving DecidableEq

/-- A device on the bus. -/
structure DeviceState where
  spec : Device
  activeConfiguration : UInt8
  /-- The bytes queued for each endpoint number. -/
  pipes : Table UInt8 (List UInt8)
  controlBuffer : List UInt8
  halted : ByteSet
  kernelDrivers : ByteSet
  deriving DecidableEq

namespace DeviceState

def ofSpec (spec : Device) : DeviceState where
  spec
  activeConfiguration := spec.initialConfiguration
  pipes := ∅
  controlBuffer := []
  halted := ∅
  kernelDrivers := spec.kernelDrivers

def active? (d : DeviceState) : Option Configuration :=
  d.spec.configurationByValue? d.activeConfiguration

/-- The alternate of the active configuration with the two protocol numbers. -/
def alternate? (d : DeviceState) (number alternate : UInt8) : Option Alternate := do
  let c ← d.active?
  c.alternates.find? fun a =>
    a.descriptor.interfaceNumber == number && a.descriptor.alternateSetting == alternate

def endpoint? (d : DeviceState) (number alternate address : UInt8) : Option EndpointDescriptor := do
  let a ← d.alternate? number alternate
  a.endpoints.find? fun e => e.endpointAddress == address

/-- The bytes queued for an endpoint number. -/
def queue (d : DeviceState) (number : UInt8) : List UInt8 := (d.pipes.get? number).getD []

end DeviceState

structure Bus where
  devices : List DeviceState
  handles : Table HandleId Handle
  nextHandle : Nat
  calls : Table Method Nat
  failures : Table Method TransportFailure
  /-- The timeout in ms of the last transfer. -/
  lastTimeout : Option Nat
  deriving DecidableEq

namespace Bus

def ofDevices (devices : List Device) : Bus where
  devices := devices.map DeviceState.ofSpec
  handles := ∅
  nextHandle := 1
  calls := ∅
  failures := ∅
  lastTimeout := none

/-- How often the method was called. -/
def callCount (b : Bus) (m : Method) : Nat := (b.calls.get? m).getD 0

def resetCalls (b : Bus) : Bus := { b with calls := ∅ }

/-- From now on each call of the method fails. -/
def failOn (b : Bus) (m : Method) (kind : TransportFailure) : Bus :=
  { b with failures := b.failures.insert m kind }

def clearFailures (b : Bus) : Bus := { b with failures := ∅ }

def openHandles (b : Bus) : Nat := b.handles.size

/-- The numbers claimed on any handle of the device, in order, once for each handle. -/
def claimedInterfaces (b : Bus) (id : DeviceId) : List UInt8 :=
  let handles := b.handles.entries.filter fun e => e.2.device == id
  (handles.flatMap fun e => e.2.claimed.keys).mergeSort

def device? (b : Bus) (id : DeviceId) : Option DeviceState := b.devices[id.number]?

def activeConfiguration? (b : Bus) (id : DeviceId) : Option UInt8 :=
  (b.device? id).map DeviceState.activeConfiguration

def isHalted (b : Bus) (id : DeviceId) (endpoint : UInt8) : Bool :=
  (b.device? id).any fun d => d.halted.contains endpoint

/-- The bus with `f` applied to one of its devices. -/
def modifyDevice (b : Bus) (id : DeviceId) (f : DeviceState → DeviceState) : Bus :=
  { b with devices := b.devices.modify id.number f }

def modifyHandle (b : Bus) (h : HandleId) (f : Handle → Handle) : Bus :=
  { b with handles := b.handles.modify h f }

end Bus

/-! The failures of the bus carry the numbers of libusb. -/

def invalidParam : UsbError := .transport .invalidParam (some (-2))

def noDevice : UsbError := .transport .noDevice (some (-4))

def notFound : UsbError := .transport .notFound (some (-5))

def busy : UsbError := .transport .busy (some (-6))

def timedOut : UsbError := .transport .timeout (some (-7))

def stalled : UsbError := .transport .pipe (some (-9))

/-- A stall is told from other errors by its kind and its number. -/
theorem eq_stalled_iff {e : UsbError} :
    e = stalled ↔ e.transportKind? = some .pipe ∧ e.code? = some (-9) := by
  cases e <;> simp [stalled, UsbError.transportKind?, UsbError.code?]

namespace Bus

/-- Counts the call, then fails if the method was made to fail. -/
def enter (m : Method) : Action Bus Unit := do
  modify fun b => { b with calls := b.calls.insert m (b.callCount m + 1) }
  match (← get).failures.get? m with
  | some kind => throw (.transport kind none)
  | none => pure ()

def device (id : DeviceId) : Action Bus DeviceState := do
  match (← get).device? id with
  | some d => pure d
  | none => throw noDevice

def handle (h : HandleId) : Action Bus Handle := do
  match (← get).handles.get? h with
  | some h => pure h
  | none => throw invalidParam

def configurationAt (id : DeviceId) (config : UInt8) : Action Bus Configuration := do
  match (← device id).spec.configurations[config.toNat]? with
  | some c => pure c
  | none => throw (.invalidDescriptorIndex .configuration config)

def alternateAt (id : DeviceId) (interface alternate config : UInt8) : Action Bus Alternate := do
  let c ← configurationAt id config
  match c.interfaces[interface.toNat]? with
  | none => throw (.invalidDescriptorIndex .interface interface)
  | some alternates =>
    match alternates[alternate.toNat]? with
    | some a => pure a
    | none => throw (.invalidDescriptorIndex .alternateSetting alternate)

end Bus

end SerialBus.Loopback
