import LogicAnalyzer.Transfer.Transport

/-!
# Finding analyzers on the bus

An analyzer is recognised by the identifiers of its vendor and product.  A registry holds
the analyzers that the last scan of the bus found; opening one looks for it again, since it
may have been unplugged in between.

## Main definitions

* `BusDevice`, `AnalyzerInfo`: any device on the bus, and what is known of an analyzer
* `Registry`: the analyzers found by the last scan
* `Registry.scan`, `find`: looking for analyzers
* `DiscoveryError`: none was found
-/

namespace LogicAnalyzer

namespace Bus

/-- The identifier of the vendor. -/
def vendorId : UInt16 := 0x2961

/-- The identifier of the product. -/
def productId : UInt16 := 0x6689

end Bus

/-- What is known of an analyzer. -/
structure AnalyzerInfo where
  /-- The bus it is attached to. -/
  bus : UInt8
  address : UInt8
  /-- Its serial number, if it tells. -/
  serial : Option String := none
  /-- What it calls itself, if it tells. -/
  product : Option String := none
deriving DecidableEq, Repr

/-- How an analyzer is shown. -/
def AnalyzerInfo.describe (info : AnalyzerInfo) : String :=
  info.product.getD "LWLA" ++ s!" at {info.bus.toNat}.{info.address.toNat}" ++
    match info.serial with
    | some serial => " (serial " ++ serial ++ ")"
    | none => ""

/-- A device on the bus. -/
structure BusDevice where
  /-- The identifier of its vendor. -/
  vendorId : UInt16
  /-- The identifier of the product. -/
  productId : UInt16
  /-- What is known of it. -/
  info : AnalyzerInfo
deriving DecidableEq, Repr

/-- Whether a device is an analyzer. -/
def BusDevice.isAnalyzer (device : BusDevice) : Bool :=
  device.vendorId == Bus.vendorId && device.productId == Bus.productId

/-- No analyzer was found. -/
inductive DiscoveryError where
  /-- Not where it was looked for. -/
  | deviceNotFound (bus address : UInt8)
  | noDevices
deriving DecidableEq, Repr

/-- What a failed search is reported as. -/
def DiscoveryError.message : DiscoveryError → String
  | deviceNotFound bus address =>
    s!"No LWLA device found on bus {bus.toNat} address {address.toNat}"
  | noDevices => "No LWLA device connected"

/-- The analyzers that the last scan found. -/
structure Registry where
  /-- The analyzers, in the order of the bus. -/
  devices : List AnalyzerInfo := []
deriving DecidableEq, Repr

namespace Registry

/-- The analyzers among the devices on the bus. -/
def scan (attached : List BusDevice) : Registry :=
  ⟨(attached.filter BusDevice.isAnalyzer).map BusDevice.info⟩

/-- The analyzer at the place of a known one. -/
def find (attached : List BusDevice) (device : AnalyzerInfo) :
    Except DiscoveryError AnalyzerInfo :=
  match (scan attached).devices.find? fun info =>
      info.bus == device.bus && info.address == device.address with
  | some info => .ok info
  | none => .error (.deviceNotFound device.bus device.address)

end Registry

end LogicAnalyzer
