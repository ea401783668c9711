/-!
Contract: the Keccak-256 hash of a byte string.

Owns: the permutation of 1600 bits as 25 lanes of 64, the sponge with a rate of 136 bytes, and the
padding that starts with the byte 1.
-/

namespace PackageStore.Keccak

/-- Lane `(x, y)` stands at `x + 5 * y`. -/
abbrev State := List UInt64

def lane (state : State) (x y : Nat) : UInt64 :=
  state.getD (x % 5 + 5 * (y % 5)) 0

/-- The state whose lane `(x, y)` is `f x y`. -/
def tabulate (f : Nat → Nat → UInt64) : State :=
  (List.range 25).map fun index => f (index % 5) (index / 5)

def rotateLeft (word : UInt64) (amount : Nat) : UInt64 :=
  if amount = 0 then word
  else (word <<< amount.toUInt64) ||| (word >>> (64 - amount).toUInt64)

/-- The rotation of each lane, in the order of the lanes. -/
def rotations : List Nat :=
  [0, 1, 62, 28, 27, 36, 44, 6, 55, 20, 3, 10, 43, 25, 39, 41, 45, 15, 21, 8, 18, 2, 61, 56, 14]

/-- The constant added to the first lane in each round. -/
def roundConstants : List UInt64 :=
  [0x0000000000000001, 0x0000000000008082, 0x800000000000808A, 0x8000000080008000,
    0x000000000000808B, 0x0000000080000001, 0x8000000080008081, 0x8000000000008009,
    0x000000000000008A, 0x0000000000000088, 0x0000000080008009, 0x000000008000000A,
    0x000000008000808B, 0x800000000000008B, 0x8000000000008089, 0x8000000000008003,
    0x8000000000008002, 0x8000000000000080, 0x000000000000800A, 0x800000008000000A,
    0x8000000080008081, 0x8000000000008080, 0x0000000080000001, 0x8000000080008008]

/-- Adds to every lane the parities of two neighbouring columns. -/
def theta (state : State) : State :=
  let parity := (List.range 5).map fun x =>
    lane state x 0 ^^^ lane state x 1 ^^^ lane state x 2 ^^^ lane state x 3 ^^^ lane state x 4
  let column (x : Nat) : UInt64 := parity.getD (x % 5) 0
  tabulate fun x y => lane state x y ^^^ column (x + 4) ^^^ rotateLeft (column (x + 1)) 1

/-- Rotates every lane and moves it to its new place. -/
def rhoPi (state : State) : State :=
  tabulate fun x y =>
    let source := (x + 3 * y) % 5
    rotateLeft (lane state source x) (rotations.getD (source + 5 * x) 0)

/-- Combines every lane with the next two of its row. -/
def chi (state : State) : State :=
  tabulate fun x y => lane state x y ^^^ (~~~(lane state (x + 1) y) &&& lane state (x + 2) y)

def iota (constant : UInt64) : State → State
  | first :: rest => (first ^^^ constant) :: rest
  | [] => []

def permute (state : State) : State :=
  roundConstants.foldl (fun state constant => iota constant (chi (rhoPi (theta state)))) state

/-- The bytes that one application of the permutation absorbs. -/
def rate : Nat := 136

/-- The message followed by the padding, a multiple of `rate` bytes long. -/
def padded (message : List UInt8) : List UInt8 :=
  let missing := rate - message.length % rate
  if missing = 1 then message ++ [0x81]
  else message ++ [0x01] ++ List.replicate (missing - 2) 0 ++ [0x80]

/-- The lane that eight bytes spell, the least significant first. -/
def laneOfBytes (bytes : List UInt8) : UInt64 :=
  bytes.foldr (fun byte word => (word <<< 8) ||| byte.toUInt64) 0

/-- Adds a block to the front lanes of the state. -/
def addBlock (state : State) (block : List UInt8) : State :=
  tabulate fun x y =>
    let index := x + 5 * y
    lane state x y ^^^ laneOfBytes ((block.drop (8 * index)).take 8)

/-- Absorbs `count` blocks. -/
def absorb (state : State) (message : List UInt8) : Nat → State
  | 0 => state
  | count + 1 => absorb (permute (addBlock state (message.take rate))) (message.drop rate) count

def bytesOfLane (word : UInt64) : List UInt8 :=
  (List.range 8).map fun index => (word >>> (8 * index).toUInt64).toUInt8

/-- The 32 bytes of the hash. -/
def hash256 (message : List UInt8) : List UInt8 :=
  let blocks := padded message
  let state := absorb (List.replicate 25 0) blocks (blocks.length / rate)
  (state.take 4).flatMap bytesOfLane

end PackageStore.Keccak
