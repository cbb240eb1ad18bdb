/-! A reproducible source of 64-bit draws: the ChaCha block function with twelve rounds, read two
words at a time, under a key that a small generator derives from one number. -/

namespace NoteBoard.ChaCha

abbrev Block := Vector UInt32 16

def rotate (word : UInt32) (amount : UInt32) : UInt32 :=
  (word <<< amount) ||| (word >>> (32 - amount))

def quarter (a b c d : Fin 16) (state : Block) : Block :=
  let state := state.set a (state[a] + state[b])
  let state := state.set d (rotate (state[d] ^^^ state[a]) 16)
  let state := state.set c (state[c] + state[d])
  let state := state.set b (rotate (state[b] ^^^ state[c]) 12)
  let state := state.set a (state[a] + state[b])
  let state := state.set d (rotate (state[d] ^^^ state[a]) 8)
  let state := state.set c (state[c] + state[d])
  state.set b (rotate (state[b] ^^^ state[c]) 7)

/-- A round over the columns and one over the diagonals. -/
def doubleRound (state : Block) : Block :=
  state |> quarter 0 4 8 12 |> quarter 1 5 9 13 |> quarter 2 6 10 14 |> quarter 3 7 11 15
    |> quarter 0 5 10 15 |> quarter 1 6 11 12 |> quarter 2 7 8 13 |> quarter 3 4 9 14

def doubleRounds : Nat := 6

abbrev Key := Vector UInt32 8

/-- The counter takes two words; the stream number after it is zero. -/
def initial (key : Key) (counter : Nat) : Block :=
  #v[0x61707865, 0x3320646E, 0x79622D32, 0x6B206574,
    key[0], key[1], key[2], key[3], key[4], key[5], key[6], key[7],
    UInt32.ofNat counter, UInt32.ofNat (counter / 0x100000000), 0, 0]

def block (key : Key) (counter : Nat) : Block :=
  let start := initial key counter
  let mixed := (List.range doubleRounds).foldl (fun state _ => doubleRound state) start
  Vector.zipWith (· + ·) mixed start

def word (key : Key) (index : Nat) : UInt32 :=
  (block key (index / 16)).get ⟨index % 16, Nat.mod_lt _ (by decide)⟩

/-- The draw at an index: two successive words, the low one first. -/
def draw (key : Key) (index : Nat) : UInt64 :=
  (word key (2 * index)).toUInt64 ||| ((word key (2 * index + 1)).toUInt64 <<< 32)

def seedStep (state : UInt64) : UInt64 := state * 6364136223846793005 + 11634580027462260723

/-- A step of the key generator: the state is shifted over itself and the upper half rotated by
its own top bits. -/
def seedWord (state : UInt64) : UInt32 :=
  let mixed := (((state >>> 18) ^^^ state) >>> 27).toUInt32
  let amount := (state >>> 59).toUInt32
  (mixed >>> amount) ||| (mixed <<< ((32 - amount) % 32))

def seedStates : Nat → UInt64 → List UInt64
  | 0, _ => []
  | count + 1, state => seedStep state :: seedStates count (seedStep state)

def key (seed : UInt64) : Key :=
  let words := ((seedStates 8 seed).map seedWord)
  Vector.ofFn fun i => words.getD i 0

def draws (seed : UInt64) : Nat → UInt64 := draw (key seed)

end NoteBoard.ChaCha
