import CrossShell.Json.Typed
import CrossShell.Json.Value
import CrossShell.Platform
import CrossShell.Text.Split

/-!
Targets: the machines that an environment can be built for.

A target is an architecture, a vendor, an operating system and, on Linux, an ABI. `defect?` says
what is wrong with a combination; a `Target` carries the proof that nothing is. `parse` reads a
target from its triple, `triple` writes it.
-/

set_option autoImplicit false

namespace CrossShell

/-! ## Combinations -/

/-- The vendors that a Linux triple may name. -/
def linuxVendors : List String :=
  ["unknown", "pc"]

/-- The vendor that an operating system is listed with. -/
def Os.vendor : Os → String
  | .linux => "unknown"
  | .macos => "apple"
  | .windows => "w64"

namespace Target

/-- Why four fields do not make a target. -/
inductive Defect where
  /-- Linux has other vendors. -/
  | linuxVendor (vendor : String)
  /-- Linux needs an ABI. -/
  | missingAbi
  /-- The ABI is for other architectures. -/
  | foreignAbi (abi : Abi) (arch : Arch)
  /-- The operating system does not run on the architecture. -/
  | foreignArch (os : Os) (arch : Arch)
  /-- The operating system has another vendor. -/
  | otherVendor (os : Os) (vendor : String)
  /-- The operating system has no ABI field. -/
  | needlessAbi (os : Os) (abi : Abi)
  deriving DecidableEq, Repr

/-- The architectures that an operating system other than Linux runs on. -/
def runsOn : Os → Arch → Bool
  | .macos, arch => arch == .x86_64 || arch == .aarch64
  | .windows, arch => arch == .x86_64 || arch == .i686
  | .linux, _ => true

/-- The first thing that is wrong with a combination of fields, if anything is. -/
def defect? (arch : Arch) (vendor : String) (os : Os) (abi : Option Abi) : Option Defect :=
  match os with
  | .linux =>
    if vendor ∉ linuxVendors then some (.linuxVendor vendor)
    else match abi with
      | none => some .missingAbi
      | some abi => if arch.isArm32 ≠ abi.isEabihf then some (.foreignAbi abi arch) else none
  | os =>
    if !runsOn os arch then some (.foreignArch os arch)
    else if vendor ≠ os.vendor then some (.otherVendor os vendor)
    else abi.map (.needlessAbi os)

/-- The text of a defect. -/
def Defect.message : Defect → String
  | .linuxVendor vendor =>
    "vendor '" ++ vendor ++ "' is not valid for linux (expected one of: "
      ++ ", ".intercalate linuxVendors ++ ")"
  | .missingAbi => "linux targets need an ABI field"
  | .foreignAbi abi arch =>
    "ABI '" ++ abi.name ++ "' does not match " ++ arch.name ++ " (expected "
      ++ (if arch.isArm32 then "gnueabihf or musleabihf" else "gnu or musl") ++ ")"
  | .foreignArch os arch => os.tripleName ++ " does not run on " ++ arch.name
  | .otherVendor os vendor =>
    os.tripleName ++ " targets use vendor '" ++ os.vendor ++ "', not '" ++ vendor ++ "'"
  | .needlessAbi os abi =>
    os.tripleName ++ " targets take no ABI field, got '" ++ abi.name ++ "'"

end Target

/-- A machine that an environment can be built for. -/
structure Target where
  arch : Arch
  vendor : String
  os : Os
  abi : Option Abi
  /-- Nothing is wrong with the combination. -/
  sound : Target.defect? arch vendor os abi = none
  deriving DecidableEq

/-- A text or a combination that is no target. -/
structure TargetError where
  /-- The triple that was refused. -/
  triple : String
  reason : String
  deriving DecidableEq, Repr

/-- The text of the error. -/
def TargetError.message (e : TargetError) : String :=
  "unsupported target '" ++ e.triple ++ "': " ++ e.reason

namespace Target

/-! ## Triples -/

/-- The triple of four fields. -/
def tripleOf (arch : Arch) (vendor : String) (os : Os) (abi : Option Abi) : String :=
  arch.name ++ "-" ++ vendor ++ "-" ++ os.tripleName
    ++ match abi with
      | some abi => "-" ++ abi.name
      | none => ""

/-- The triple of a target. -/
def triple (t : Target) : String :=
  tripleOf t.arch t.vendor t.os t.abi

/-- The target with the given fields. -/
def ofFields (arch : Arch) (vendor : String) (os : Os) (abi : Option Abi) :
    Except TargetError Target :=
  match h : defect? arch vendor os abi with
  | none => .ok ⟨arch, vendor, os, abi, h⟩
  | some defect => .error ⟨tripleOf arch vendor os abi, defect.message⟩

/-- The fields of a triple as they are written. -/
def splitTriple (s : String) : List String :=
  (Text.fields '-' s.toList).map String.ofList

/-- Reads the fields of a triple. A field is looked up only when those before it in the order
architecture, operating system, ABI are known. -/
def parseFields (s arch vendor os : String) (abi : Option String) : Except TargetError Target :=
  match Arch.ofName? arch with
  | none => .error ⟨s, "unknown architecture '" ++ arch ++ "'"⟩
  | some arch =>
    match Os.ofTripleName? os with
    | none => .error ⟨s, "unknown operating system '" ++ os ++ "'"⟩
    | some os =>
      match abi with
      | none => ofFields arch vendor os none
      | some abi =>
        match Abi.ofName? abi with
        | none => .error ⟨s, "unknown ABI '" ++ abi ++ "'"⟩
        | some abi => ofFields arch vendor os (some abi)

/-- The target of a triple. -/
def parse (s : String) : Except TargetError Target :=
  match splitTriple s with
  | [arch, vendor, os, abi] => parseFields s arch vendor os (some abi)
  | [arch, vendor, os] => parseFields s arch vendor os none
  | pieces =>
    .error ⟨s, "expected arch-vendor-os[-abi], got " ++ toString pieces.length ++ " field(s)"⟩

/-! ## Listings -/

/-- The target of a combination with the vendor that its operating system is listed with. -/
def listed? (os : Os) (arch : Arch) (abi : Option Abi) : Option Target :=
  (ofFields arch os.vendor os abi).toOption

/-- Every target with its listed vendor, by operating system, then architecture, then ABI. -/
def supported : List Target :=
  Os.all.flatMap fun os =>
    Arch.all.flatMap fun arch =>
      (none :: Abi.all.map some).filterMap (listed? os arch)

/-- The target that a platform itself is. -/
def ofPlatform? (p : Platform) : Option Target :=
  listed? p.os p.arch p.abi

/-! ## Derived names -/

/-- What the names of the target's tools start with. -/
def toolPrefix (t : Target) : String :=
  t.triple ++ "-"

/-- The name of the target among those of Rust. -/
def rustTriple (t : Target) : String :=
  match t.os, t.abi with
  | .linux, some abi => t.arch.rustName ++ "-unknown-linux-" ++ abi.name
  | .linux, none => t.arch.rustName ++ "-unknown-linux-gnu"
  | .macos, _ => t.arch.rustName ++ "-apple-darwin"
  | .windows, _ => t.arch.rustName ++ "-pc-windows-gnu"

/-- The short name of the target's platform. -/
def system (t : Target) : String :=
  t.arch.name ++ "-" ++ t.os.name

/-- Whether programs for the target run on a host as they are. -/
def isNative (t : Target) (host : Platform) : Bool :=
  t.arch == host.arch && t.os == host.os && t.abi == host.abi

/-! ## JSON -/

/-- The target as JSON: its triple. -/
def toJson (t : Target) : Json :=
  .string t.triple

/-- A target in JSON. -/
def reader : Json.Reader Target := do
  let s ← Json.Reader.text
  match parse s with
  | .ok t => return t
  | .error e => Json.Reader.reject (.rejected e.message)

end Target

end CrossShell
