import CrossShell.Script.Value

/-!
The tables of config scripts.

A table keeps what is under the keys from one on in a row of slots, as far as the row goes, and all
else in nodes. Every key has a home among the nodes; nodes with one home form a chain, along which a
key is looked up. A table without a node for another key is laid out anew: it gets the largest row
of slots of which more than half are in use, and nodes for the rest.

The length of a table is a border: a number of items after which the next one is missing, or zero if
the first one is. A table with gaps has several borders. Which one is found depends on the layout
and on `limit`, which keeps the place among the slots where the last search ended.
-/

set_option autoImplicit false

namespace CrossShell.Script

open Number (Binary64)

/-- A node of a table. -/
structure Node where
  /-- The key that was put here last, or nil if none ever was. -/
  key : Value
  /-- What is under the key. -/
  value : Value
  /-- The next node of the chain. -/
  next : Option Nat
  deriving DecidableEq

/-- A node that was never in use. -/
def Node.unused : Node :=
  ⟨.nil, .nil, none⟩

/-- A table. -/
structure Table where
  /-- What is under the keys from one on. -/
  slots : List Value
  /-- The number of slots that the search for a border starts with. -/
  limit : Nat
  /-- What is under all other keys. There are none, or a power of two. -/
  nodes : List Node
  /-- Where the nodes end of which some may be unused. -/
  free : Nat
  deriving DecidableEq

namespace Table

/-- A table with nothing in it. -/
def empty : Table :=
  ⟨[], 0, [], 0⟩

/-- The table of the items of a list. -/
def ofList (items : List Value) : Table :=
  ⟨items, items.length, [], 0⟩

/-! ## Homes -/

/-- A number for a number that is no integer, from its exponent and its leading 31 bits. -/
def hashNumber : Binary64 → Nat
  | .infinite _ => 0
  | .finite negative mantissa exponent =>
    let width := mantissa.log2 + 1
    let leading := Int.ofNat (mantissa * Nat.pow 2 31 / Nat.pow 2 width)
    let sum := (if negative then -leading else leading) + exponent + Int.ofNat width
    let hash := (sum % Int.ofNat (Nat.pow 2 32)).toNat
    if hash < Nat.pow 2 31 then hash else Nat.pow 2 32 - 1 - hash

/-- A number for a sequence of bytes. -/
def hashBytes (bytes : List UInt8) : Nat :=
  bytes.foldl (fun hash b => (31 * hash + b.toNat) % Nat.pow 2 32) bytes.length

/-- A number for a function. -/
def hashFunction : Function → Nat
  | .insert => 0
  | .raise => 1
  | .print => 2
  | .exit => 3
  | .openFile => 4
  | .idle serial => 5 + serial
  | .library name => hashBytes name.toUTF8.toList

/-- The home of a key among a positive number of nodes. Numbers are spread by an odd divisor. -/
def home (count : Nat) (key : Value) : Nat :=
  let divisor := (count - 1) ||| 1
  match key with
  | .nil => 0
  | .bool value => value.toNat % count
  | .integer n => n.toUInt64.toNat % divisor
  | .number x => hashNumber x % divisor
  | .string bytes => hashBytes bytes % count
  | .table address => address % divisor
  | .function f => hashFunction f % divisor
  | .file serial => serial % divisor

/-! ## Looking -/

/-- The node of a key in the chain that starts with a node. No chain is longer than `fuel`. -/
def findFrom (nodes : List Node) (key : Value) : Nat → Nat → Option Nat
  | 0, _ => none
  | fuel + 1, i =>
    match nodes[i]? with
    | none => none
    | some node =>
      if node.key = key then some i
      else match node.next with
        | none => none
        | some j => findFrom nodes key fuel j

/-- The node of a key. -/
def nodeOf? (t : Table) (key : Value) : Option Nat :=
  findFrom t.nodes key t.nodes.length (home t.nodes.length key)

/-- The slot of a key. -/
def slotOf? (t : Table) (key : Value) : Option Nat :=
  match key with
  | .integer n =>
    if 1 ≤ n.toInt ∧ n.toInt ≤ t.slots.length then some (n.toInt.toNat - 1) else none
  | _ => none

/-- What a table has under a key. -/
def get (t : Table) (key : Value) : Value :=
  let key := key.asKey
  match t.slotOf? key with
  | some i => t.slots.getD i .nil
  | none =>
    match t.nodeOf? key with
    | some i => (t.nodes.getD i .unused).value
    | none => .nil

/-- The table after a look under a key. A slot behind the limit becomes the limit. -/
def touch (t : Table) (key : Value) : Table :=
  match t.slotOf? key.asKey with
  | some i => { t with limit := max t.limit (i + 1) }
  | none => t

/-- Every key that has a value, with the value. -/
def entries (t : Table) : List (Value × Value) :=
  ((t.slots.zipIdx 1).map fun (item, n) => (Value.integer (Int64.ofNat n), item)).filter
      (fun entry => entry.2 ≠ .nil)
    ++ (t.nodes.map fun node => (node.key, node.value)).filter fun entry => entry.2 ≠ .nil

/-! ## Putting -/

/-- The last unused node before a place. -/
def unusedBefore (nodes : List Node) : Nat → Option Nat
  | 0 => none
  | i + 1 => if (nodes.getD i .unused).key = .nil then some i else unusedBefore nodes i

/-- The node of a chain whose next one is at `place`. -/
def before (nodes : List Node) (place : Nat) : Nat → Nat → Nat
  | 0, i => i
  | fuel + 1, i =>
    match (nodes.getD i .unused).next with
    | none => i
    | some j => if j = place then i else before nodes place fuel j

/-- The table with a value under a key that it has no node of, if there is a node for it. The key
goes to its home. If that is in use by a key at home, the new one goes to an unused node of the same
chain; if by a key from elsewhere, that one has to move. -/
def addNode (t : Table) (key value : Value) : Option Table :=
  let count := t.nodes.length
  let place := home count key
  match t.nodes[place]? with
  | none => none
  | some there =>
    if there.value = .nil then
      some { t with nodes := t.nodes.set place { there with key := key, value := value } }
    else match unusedBefore t.nodes t.free with
      | none => none
      | some other =>
        let origin := home count there.key
        if origin = place then
          let nodes := t.nodes.set place { there with next := some other }
          some { t with nodes := nodes.set other ⟨key, value, there.next⟩, free := other }
        else
          let link := before t.nodes place count origin
          let linked := { t.nodes.getD link .unused with next := some other }
          let nodes := (t.nodes.set link linked).set other there
          some { t with nodes := nodes.set place ⟨key, value, none⟩, free := other }

/-- The table with a value under a key, if there is room for it. Nothing takes no room. -/
def place? (t : Table) (key value : Value) : Option Table :=
  match t.slotOf? key with
  | some i => some { t with slots := t.slots.set i value }
  | none =>
    match t.nodeOf? key with
    | some i =>
      let node := t.nodes.getD i .unused
      some { t with nodes := t.nodes.set i { node with value := value } }
    | none => if value = .nil then some t else t.addNode key value

/-- The least power of two that is not less than a number, or zero for zero. -/
def roundUp (n : Nat) : Nat :=
  if n = 0 then 0 else Nat.pow 2 ((n - 1).log2 + if n = 1 then 0 else 1)

/-- The table with another number of slots and of nodes. -/
def resize (t : Table) (slotCount nodeCount : Nat) : Table :=
  let nodeCount := roundUp nodeCount
  let kept := t.slots.take slotCount
  let bare : Table :=
    { slots := kept ++ List.replicate (slotCount - kept.length) .nil
      limit := slotCount
      nodes := List.replicate nodeCount .unused
      free := nodeCount }
  let lost := ((t.slots.zipIdx 1).drop slotCount).map fun (item, n) =>
    (Value.integer (Int64.ofNat n), item)
  let moved := lost ++ t.nodes.map fun node => (node.key, node.value)
  moved.foldl
    (fun t (key, value) => if value = .nil then t else (t.place? key value).getD t) bare

/-- The greatest power of two such that more than half of the numbers up to it are among `keys`, or
zero if there is none, and how many are. -/
def bestRow (keys : List Int) : Nat × Nat :=
  (List.range 32).foldl
    (fun best i =>
      let size := Nat.pow 2 i
      let used := keys.countP fun n => decide (1 ≤ n ∧ n ≤ Int.ofNat size)
      if size / 2 < used then (size, used) else best)
    (0, 0)

/-- The table laid out anew with room for another key. -/
def makeRoom (t : Table) (key : Value) : Table :=
  let keys := key :: t.entries.map (·.1)
  let (slotCount, used) := bestRow <| keys.filterMap fun key =>
    match key with
    | .integer n => some n.toInt
    | _ => none
  t.resize slotCount (keys.length - used)

/-- The table with a value under a key. Under a key with the value nil there is nothing. -/
def set (t : Table) (key value : Value) : Table :=
  let key := key.asKey
  let t := t.touch key
  match t.place? key value with
  | some t => t
  | none =>
    let t := t.makeRoom key
    (t.place? key value).getD t

/-- The table with the items of a list under the keys from `start + 1` on. -/
def storeItems (t : Table) (start : Nat) (items : List Value) : Table :=
  let stop := start + items.length
  let t := if t.slots.length < stop then t.resize stop t.nodes.length else t
  { t with slots := t.slots.take start ++ items ++ t.slots.drop stop }

/-- The table with a value under a text. -/
def setField (t : Table) (name : String) (value : Value) : Table :=
  t.set (.ofText name) value

/-- A new table with fields. -/
def ofFields (fields : List (String × Value)) : Table :=
  fields.foldl (fun t (name, value) => t.setField name value) empty

/-! ## Borders -/

/-- The greatest number that an item can have. -/
def lastNumber : Nat :=
  Nat.pow 2 63 - 1

/-- The item with a number. -/
def item (t : Table) (n : Nat) : Value :=
  if n ≤ lastNumber then t.get (.integer (Int64.ofNat n)) else .nil

/-- Whether a table has an item with a number. -/
def hasItem (t : Table) (n : Nat) : Bool :=
  t.item n != .nil

/-- Halves the interval from `low`, where `has` holds, to `high`, where it does not, until they are
neighbours, and answers the lower one. The interval is no longer than `fuel`. -/
def bisect (has : Nat → Bool) : Nat → Nat → Nat → Nat
  | 0, low, _ => low
  | fuel + 1, low, high =>
    if high - low ≤ 1 then low
    else
      let middle := (low + high) / 2
      if has middle then bisect has fuel middle high else bisect has fuel low middle

/-- Doubles `n` until `has` fails, then goes back by halves. It does not go beyond the last number,
which it reaches in less than `fuel` steps. -/
def double (has : Nat → Bool) : Nat → Nat → Nat
  | 0, n => n
  | fuel + 1, n =>
    let next := min (2 * n) lastNumber
    if !has next then bisect has next n next
    else if next = lastNumber then next
    else double has fuel next

/-- Whether a number is a power of two, or zero. -/
def isPowerOfTwo (n : Nat) : Bool :=
  n &&& (n - 1) == 0

/-- The border that is found, and the limit for the next search. A missing item at the limit means a
border before it; otherwise the border is searched behind the limit, first among the slots. The
limit moves to a border in the upper half of a row of slots whose number is a power of two. -/
def border (t : Table) : Nat × Nat :=
  let count := t.slots.length
  if t.limit ≠ 0 ∧ !t.hasItem t.limit then
    if 2 ≤ t.limit ∧ t.hasItem (t.limit - 1) then
      let found := t.limit - 1
      (found, if isPowerOfTwo count ∧ !isPowerOfTwo found then found else t.limit)
    else
      let found := bisect t.hasItem t.limit 0 t.limit
      (found, if isPowerOfTwo count ∧ count / 2 < found then found else t.limit)
  else if t.limit ≠ count ∧ !t.hasItem (t.limit + 1) then (t.limit, t.limit)
  else if t.limit ≠ count ∧ !t.hasItem count then
    let found := bisect t.hasItem count t.limit count
    (found, found)
  else if t.hasItem (count + 1) then (double t.hasItem 63 (max count 1), t.limit)
  else (count, t.limit)

/-- The length of a table. -/
def length (t : Table) : Nat :=
  t.border.1

/-- The table after a search for its length. -/
def measured (t : Table) : Table :=
  { t with limit := t.border.2 }

end Table

end CrossShell.Script
