import Rollout.Hash.Murmur128
import Rollout.Impression.Basic
import Rollout.Text.Units

namespace Rollout

def BloomFilter.wordsFor (numBits : UInt64) : Nat := (numBits.toNat + 63) / 64

structure BloomFilter where
  words : Array UInt64
  numBits : UInt64
  numHashes : UInt32
  maxElements : Nat
  errorRate : Float
  numBits_pos : 0 < numBits
  size_words : words.size = BloomFilter.wordsFor numBits
  deriving Repr

namespace BloomFilter

def ln2 : Float := Float.ofBits 0x3FE62E42FEFA39EF

def noBits (numBits : UInt64) : Array UInt64 := Array.replicate (wordsFor numBits) 0

theorem size_noBits (numBits : UInt64) : (noBits numBits).size = wordsFor numBits :=
  Array.size_replicate

/-- The number of bits that keeps the error rate at full load: `-n ln p / ln² 2`, rounded up. -/
def bitsFor (maxElements : Nat) (errorRate : Float) : UInt64 :=
  let n := maxElements.toUInt64.toFloat
  ((-n * errorRate.log) / (ln2 * ln2)).ceil.toUInt64

def hashesFor (maxElements : Nat) (numBits : UInt64) : UInt32 :=
  let n := maxElements.toUInt64.toFloat
  let hashes := ((numBits.toFloat / n) * ln2).ceil
  (if 1.0 < hashes then hashes else 1.0).toUInt32

/-- A filter cannot do without bits, as it takes remainders by their number. -/
def empty (numBits : UInt64) (numHashes : UInt32) (maxElements : Nat) (errorRate : Float) :
    BloomFilter :=
  if h : 0 < numBits then
    ⟨noBits numBits, numBits, numHashes, maxElements, errorRate, h, size_noBits numBits⟩
  else ⟨noBits 1, 1, numHashes, maxElements, errorRate, by decide, size_noBits 1⟩

def new (maxElements : Nat) (errorRate : Float) : Except SettingError BloomFilter :=
  if maxElements = 0 then .error .filterCapacity
  else if 0.0 < errorRate ∧ errorRate < 1.0 then
    let numBits := bitsFor maxElements errorRate
    .ok (empty numBits (hashesFor maxElements numBits) maxElements errorRate)
  else .error .filterErrorRate

def positions (f : BloomFilter) (item : String) : List UInt64 :=
  let hash := Hash.murmur128 (Text.bytes item) 0
  (List.range f.numHashes.toNat).map fun i =>
    (hash.low + (i + 1).toUInt64 * hash.high) % f.numBits

def mask (bit : UInt64) : UInt64 := 1 <<< (bit &&& 63)

def wordIndex (bit : UInt64) : Nat := (bit >>> 6).toNat

def setBit (words : Array UInt64) (bit : UInt64) : Array UInt64 :=
  words.modify (wordIndex bit) (· ||| mask bit)

theorem size_setBit (words : Array UInt64) (bit : UInt64) : (setBit words bit).size = words.size :=
  Array.size_modify

theorem size_foldl_setBit (words : Array UInt64) (bits : List UInt64) :
    (bits.foldl setBit words).size = words.size := by
  induction bits generalizing words with
  | nil => rfl
  | cons bit rest ih => rw [List.foldl_cons, ih, size_setBit]

def hasBit (words : Array UInt64) (bit : UInt64) : Bool :=
  match words[wordIndex bit]? with
  | some word => word &&& mask bit != 0
  | none => false

def add (f : BloomFilter) (item : String) : BloomFilter :=
  { f with
    words := (f.positions item).foldl setBit f.words
    size_words := (size_foldl_setBit f.words (f.positions item)).trans f.size_words }

def contains (f : BloomFilter) (item : String) : Bool :=
  (f.positions item).all (hasBit f.words)

def clear (f : BloomFilter) : BloomFilter :=
  { f with words := noBits f.numBits, size_words := size_noBits f.numBits }

end BloomFilter

end Rollout
