import SerialBus.Proofs.Profile.Disposal
import SerialBus.Proofs.Profile.Selections

/-! Runs of a device on a loopback bus where nothing is made to fail: each request is answered as
the profile of the device says, whatever came before it. -/
namespace SerialBus.Loopback

open SerialBus.Action Session
open Profile (Represents)

/-- The replies to requests one after another, and what they leave. -/
def Request.run : List Request → Attachment Bus → List (Except UsbError Reply) × Attachment Bus
  | [], a => ([], a)
  | r :: rest, a =>
    let act : DeviceAction Bus Reply := r.call.perform
    let (replies, b) := run rest (after act a)
    (outcome act a :: replies, b)

namespace Profile

/-- The replies that a profile foresees, and the profile afterwards. -/
def run : List Request → Profile → List (Except UsbError Reply) × Profile
  | [], p => ([], p)
  | r :: rest, p =>
    let (reply, q) := p.answer r
    let (replies, q) := run rest q
    (reply :: replies, q)

/-- What no request changes of a device. -/
theorem spec_answer (p : Profile) (r : Request) : (p.answer r).2.state.spec = p.state.spec := by
  cases r with
  | setConfiguration value =>
    change (p.setConfiguration value).2.state.spec = _
    unfold setConfiguration
    cases p.chosen value <;> rfl
  | setAlternate interface alternate =>
    change (p.setAlternate interface alternate).2.state.spec = _
    unfold setAlternate
    cases p.alternate interface with
    | error e => rfl
    | ok al =>
      dsimp only
      split <;> rfl
  | write endpoint data interface timeout =>
    change (p.write endpoint data interface).2.state.spec = _
    unfold write
    cases p.endpoint interface endpoint with
    | error e => rfl
    | ok u =>
      dsimp only
      split <;> rfl
  | read endpoint length interface timeout =>
    change (p.read endpoint length interface).2.state.spec = _
    unfold read
    cases p.endpoint interface endpoint with
    | error e => rfl
    | ok u =>
      dsimp only
      split
      · split <;> rfl
      · rfl
  | claim | setHalt | clearHaltFeature | clearHalt | reset | dispose => rfl

section

variable {id : DeviceId} {p : Profile}

theorem gives_unitReply {act : DeviceAction Bus Unit} {r : Except UsbError Unit × Profile}
    (h : Gives (Represents id p) act r.1 (Represents id r.2)) :
    Gives (Represents id p) (unitReply act) (r.1.map fun _ => .unit) (Represents id r.2) :=
  h.map fun _ => Reply.unit

/-- One request. -/
theorem gives_answer (hregular : p.state.spec.Regular) (hfits : p.state.spec.Fits) (r : Request) :
    Gives (Represents id p) (r.call.perform : DeviceAction Bus Reply) (p.answer r).1
      (Represents id (p.answer r).2) := by
  cases r with
  | setConfiguration value => exact gives_unitReply (gives_setConfiguration hregular hfits value)
  | setAlternate interface alternate =>
    exact gives_unitReply (gives_setAlternate hregular hfits interface alternate)
  | claim interface => exact gives_unitReply (r := (_, p)) (gives_claim hregular interface)
  | write endpoint data interface timeout =>
    exact (gives_write hregular hfits endpoint data interface timeout).map Reply.number
  | read endpoint length interface timeout =>
    exact (gives_read hregular hfits endpoint length interface timeout).map Reply.bytes
  | setHalt endpoint => exact gives_unitReply (r := (.ok (), _)) (gives_setHalt endpoint)
  | clearHaltFeature endpoint =>
    exact gives_unitReply (r := (.ok (), _)) (gives_clearHalt endpoint)
  | clearHalt endpoint => exact gives_unitReply (r := (.ok (), _)) (gives_clearHalt endpoint)
  | reset => exact gives_unitReply (r := (.ok (), _)) gives_reset
  | dispose => exact gives_unitReply (r := (.ok (), _)) gives_dispose

/-- A whole run. -/
theorem represents_run (hregular : p.state.spec.Regular) (hfits : p.state.spec.Fits)
    (requests : List Request) {a : Attachment Bus} (ha : Represents id p a) :
    (Request.run requests a).1 = (run requests p).1 ∧
      Represents id (run requests p).2 (Request.run requests a).2 ∧
      (run requests p).2.state.spec = p.state.spec := by
  induction requests generalizing p a with
  | nil => exact ⟨rfl, ha, rfl⟩
  | cons r rest ih =>
    obtain ⟨hreply, hb⟩ := gives_answer hregular hfits r a ha
    have hspec := p.spec_answer r
    obtain ⟨hreplies, hc, hrest⟩ := ih (hspec ▸ hregular) (hspec ▸ hfits) hb
    simp only [run, Request.run, hreply, hreplies]
    exact ⟨trivial, hc, hrest.trans hspec⟩

end

/-- A device that is read from a bus where nothing has happened is what its description says. -/
theorem represents_read {specs : List Device} {id : DeviceId} {spec : Device}
    (hspec : specs[id.number]? = some spec) :
    let act : Action Bus SerialBus.Device := SerialBus.Device.read id
    outcome act (.ofDevices specs) = .ok { id, descriptor := spec.descriptor } ∧
      Represents id (ofSpec spec)
        ⟨{ id, descriptor := spec.descriptor }, after act (.ofDevices specs)⟩ := by
  intro act
  have hstate : (Bus.ofDevices specs).device? id = some (.ofSpec spec) := by
    rw [Bus.device?, Bus.ofDevices, List.getElem?_map, hspec]
    rfl
  have hread : outcome (Bus.deviceDescriptor id) (.ofDevices specs) = .ok spec.descriptor := by
    rw [Bus.deviceDescriptor_eq_serve,
      (Bus.serve_of_working .getDeviceDescriptor none _ rfl).1, Bus.withDevice, hstate]
    rfl
  have hstart : Represents id (ofSpec spec)
      ⟨{ id, descriptor := spec.descriptor }, .ofDevices specs⟩ := by
    constructor
    case state => exact hstate
    case closed => exact fun _ => ⟨rfl, rfl⟩
    case opened => exact fun _ hopen => by cases hopen
    case selected => exact fun hselected => by cases hselected
    case active => exact fun _ hactive => by cases hactive
    case endpointTypes => exact fun _ _ hkind => by cases hkind
    all_goals rfl
  constructor
  · exact (outcome_bind_pure _ _ _).trans (congrArg _ hread)
  · have hafter : after act (.ofDevices specs) =
        after (Bus.deviceDescriptor id) (.ofDevices specs) := after_bind_pure _ _ _
    rw [hafter]
    exact hstart.atCore (Bus.core_deviceDescriptor id _)

/-- After any requests to a device that was built step by step, and read from a bus where nothing
fails, writes and reads are what the profile says of its active configuration, of the alternates
selected since, of its halts and of its queues; so were the replies to all the requests. -/
theorem transfers_after_requests {specs : List Device} {id : DeviceId} {spec : Device}
    (hspec : specs[id.number]? = some spec) (hassembled : spec.Assembled) (hfits : spec.Fits)
    (requests : List Request) :
    ∃ device, outcome (SerialBus.Device.read id) (Bus.ofDevices specs) = .ok device ∧
      let start : Attachment Bus :=
        ⟨device, after (SerialBus.Device.read id) (Bus.ofDevices specs)⟩
      let a := (Request.run requests start).2
      let p := (run requests (ofSpec spec)).2
      (Request.run requests start).1 = (run requests (ofSpec spec)).1 ∧
      (∀ endpoint data interface timeout,
        let act : DeviceAction Bus Nat :=
          SerialBus.Device.write endpoint data interface timeout
        outcome act a = (p.write endpoint data interface).1 ∧
          (after act a).bus.device? id = some (p.write endpoint data interface).2.state) ∧
      ∀ endpoint length interface timeout,
        let act : DeviceAction Bus (List UInt8) :=
          SerialBus.Device.receive endpoint length interface timeout
        outcome act a = (p.read endpoint length interface).1 ∧
          (after act a).bus.device? id = some (p.read endpoint length interface).2.state := by
  obtain ⟨ho, hstart⟩ := represents_read hspec
  refine ⟨_, ho, ?_⟩
  intro start a p
  have hregular : (ofSpec spec).state.spec.Regular := hassembled.regular
  obtain ⟨hreplies, ha, hsame⟩ := represents_run hregular hfits requests hstart
  have hp : p.state.spec = spec := hsame
  have hpregular : p.state.spec.Regular := hp ▸ hregular
  have hpfits : p.state.spec.Fits := hp ▸ hfits
  refine ⟨hreplies, fun endpoint data interface timeout => ?_,
    fun endpoint length interface timeout => ?_⟩
  · obtain ⟨hwrite, hb⟩ := gives_write hpregular hpfits endpoint data interface timeout a ha
    exact ⟨hwrite, hb.state⟩
  · obtain ⟨hread, hb⟩ := gives_read hpregular hpfits endpoint length interface timeout a ha
    exact ⟨hread, hb.state⟩

/-- A device whose only interface has bulk endpoints with two numbers, and in alternate 1 interrupt
endpoints with some of their addresses. -/
def twoAlternates : Device :=
  (Device.ofDescriptor {}).addConfiguration
    (((Configuration.ofDescriptor {}).addInterface {}
      [{ endpointAddress := 0x01 }, { endpointAddress := 0x81 }, { endpointAddress := 0x02 },
        { endpointAddress := 0x82 }]).addInterface
      { alternateSetting := 1 }
      [{ endpointAddress := 0x01, attributes := 3 }, { endpointAddress := 0x82, attributes := 3 }])

theorem assembled_twoAlternates : twoAlternates.Assembled :=
  .add (.empty _) (.add (.add (.empty _) _ _) _ _)

/-- The queue of endpoint number 1 outlives the selection of an alternate without 0x81, and bytes on
endpoint number 2 stay apart from it. -/
theorem transfers_after_requests_twoAlternates :
    ∃ device, outcome (SerialBus.Device.read ⟨0⟩) (Bus.ofDevices [twoAlternates]) = .ok device ∧
      let r := Request.run [.write 0x01 [1, 2] none none, .write 0x02 [7, 8] none none,
          .setAlternate none (some 1), .read 0x81 3 none none, .read 0x82 1 none none,
          .write 0x01 [3] (some 0) none, .dispose]
        ⟨device, after (SerialBus.Device.read ⟨0⟩) (Bus.ofDevices [twoAlternates])⟩
      r.1 = [.ok (.number 2), .ok (.number 2), .ok .unit, .error (.invalidEndpoint 0x81),
          .ok (.bytes [7]), .ok (.number 1), .ok .unit] ∧
        outcome (SerialBus.Device.receive 0x81 2 none none) r.2 = .ok [1, 2] ∧
        outcome (SerialBus.Device.receive 0x82 2 none none) r.2 = .ok [8] := by
  have hspec : [twoAlternates][(⟨0⟩ : DeviceId).number]? = some twoAlternates := rfl
  obtain ⟨device, ho, hreplies, -, hread⟩ := transfers_after_requests hspec assembled_twoAlternates
    (by decide) [.write 0x01 [1, 2] none none, .write 0x02 [7, 8] none none,
      .setAlternate none (some 1), .read 0x81 3 none none, .read 0x82 1 none none,
      .write 0x01 [3] (some 0) none, .dispose]
  exact ⟨device, ho, hreplies.trans rfl, (hread 0x81 2 none none).1.trans rfl,
    (hread 0x82 2 none none).1.trans rfl⟩

end Profile

end SerialBus.Loopback
