/-!
The vocabulary of platforms: architectures, operating systems and ABIs.

Each of the three is a closed set with one name per member, listed in `all`. A `Platform` is what
the machine that runs the library is known to be.
-/

set_option autoImplicit false

namespace CrossShell

/-! ## Architectures -/

/-- A CPU architecture that a target can have. -/
inductive Arch where
  | x86_64
  | i686
  | aarch64
  | armv6l
  | armv7l
  | riscv64
  | powerpc64le
  deriving DecidableEq, Repr

namespace Arch

/-- Every architecture, in the order of listings. -/
def all : List Arch :=
  [.x86_64, .i686, .aarch64, .armv6l, .armv7l, .riscv64, .powerpc64le]

theorem mem_all (a : Arch) : a ∈ all := by
  cases a <;> decide

/-- The name of an architecture in a triple. -/
def name : Arch → String
  | .x86_64 => "x86_64"
  | .i686 => "i686"
  | .aarch64 => "aarch64"
  | .armv6l => "armv6l"
  | .armv7l => "armv7l"
  | .riscv64 => "riscv64"
  | .powerpc64le => "powerpc64le"

/-- The architecture's name among the targets of Rust. -/
def rustName : Arch → String
  | .x86_64 => "x86_64"
  | .i686 => "i686"
  | .aarch64 => "aarch64"
  | .armv6l => "arm"
  | .armv7l => "armv7"
  | .riscv64 => "riscv64gc"
  | .powerpc64le => "powerpc64le"

/-- The architecture with a name. -/
def ofName? (s : String) : Option Arch :=
  all.find? fun a => a.name = s

/-- Whether the architecture is a 32-bit ARM, which has ABIs of its own. -/
def isArm32 : Arch → Bool
  | .armv6l | .armv7l => true
  | _ => false

@[simp]
theorem ofName?_name (a : Arch) : ofName? a.name = some a := by
  cases a <;> decide

end Arch

/-! ## Operating systems -/

/-- An operating system that a target can have. -/
inductive Os where
  | linux
  | macos
  | windows
  deriving DecidableEq, Repr

namespace Os

/-- Every operating system, in the order of listings. -/
def all : List Os :=
  [.linux, .macos, .windows]

theorem mem_all (o : Os) : o ∈ all := by
  cases o <;> decide

/-- The name of an operating system on its own. -/
def name : Os → String
  | .linux => "linux"
  | .macos => "darwin"
  | .windows => "windows"

/-- The name of an operating system in a triple. -/
def tripleName : Os → String
  | .linux => "linux"
  | .macos => "darwin"
  | .windows => "mingw32"

/-- The name of an operating system in JSON. -/
def jsonName : Os → String
  | .linux => "linux"
  | .macos => "macos"
  | .windows => "windows"

/-- The operating system with a name in triples. -/
def ofTripleName? (s : String) : Option Os :=
  all.find? fun o => o.tripleName = s

@[simp]
theorem ofTripleName?_tripleName (o : Os) : ofTripleName? o.tripleName = some o := by
  cases o <;> decide

end Os

/-! ## ABIs -/

/-- The last field of a Linux triple: the C library and the calling convention. -/
inductive Abi where
  | gnu
  | musl
  | gnueabihf
  | musleabihf
  deriving DecidableEq, Repr

namespace Abi

/-- Every ABI, in the order of listings. -/
def all : List Abi :=
  [.gnu, .musl, .gnueabihf, .musleabihf]

theorem mem_all (a : Abi) : a ∈ all := by
  cases a <;> decide

/-- The name of an ABI. -/
def name : Abi → String
  | .gnu => "gnu"
  | .musl => "musl"
  | .gnueabihf => "gnueabihf"
  | .musleabihf => "musleabihf"

/-- The ABI with a name. -/
def ofName? (s : String) : Option Abi :=
  all.find? fun a => a.name = s

/-- Whether the ABI is one of the hard-float ABIs of 32-bit ARM. -/
def isEabihf : Abi → Bool
  | .gnueabihf | .musleabihf => true
  | _ => false

@[simp]
theorem ofName?_name (a : Abi) : ofName? a.name = some a := by
  cases a <;> decide

end Abi

/-! ## Platforms -/

/-- What is known of a machine that programs run on. -/
structure Platform where
  arch : Arch
  os : Os
  abi : Option Abi
  deriving DecidableEq, Repr

/-- The short name of a platform, without vendor and ABI. -/
def Platform.system (p : Platform) : String :=
  p.arch.name ++ "-" ++ p.os.name

end CrossShell
