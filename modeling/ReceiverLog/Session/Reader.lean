import ReceiverLog.Event
import ReceiverLog.Decoder
import ReceiverLog.Files.FileContents

namespace ReceiverLog

/-! Reading a log in chunks. The reader remembers how far it has read, what a
decoder carries over, and the fix so far. -/

def chunkSize : Nat := 512

/-- What the consumer is called with for one sentence: its location or its
satellites, if it tells of them, and then the sentence itself. -/
abbrev Delivery := List Event

structure Reader where
  decoder : Decoder
  fix : Fix
  offset : Nat

structure Reading where
  reader : Reader
  deliveries : List Delivery
  malformed : Nat
  fault : Option FeedError

namespace Reader

def fresh : Reader := { decoder := .fresh, fix := .unknown, offset := 0 }

/-- The event of an accepted sentence, beside the sentence itself. -/
def reportOf (now : Int) (fix : Option Fix) : Sentence → Option Event
  | .satellitesInView data => some (.satellites data.satellites)
  | _ => fix.map fun fix => .location { fix, timestamp := now }

def delivery (now : Int) (fix : Option Fix) (sentence : Sentence) (raw : String) : Delivery :=
  (reportOf now fix sentence).toList ++ [.raw (.of now raw)]

/-- Merge outcomes into a fix: the fix after them, what is delivered, and how
many were malformed. -/
def hear (now : Int) (fix : Fix) : List Outcome → Fix × List Delivery × Nat
  | [] => (fix, [], 0)
  | .malformed _ :: rest =>
      let (final, deliveries, malformed) := hear now fix rest
      (final, deliveries, malformed + 1)
  | .sentence sentence raw :: rest =>
      let (merged, location) := fix.apply sentence
      let (final, deliveries, malformed) := hear now merged rest
      (final, delivery now location sentence raw :: deliveries, malformed)

/-- A buffer after a chunk was read into it. What the chunk does not cover is
left from before. -/
def fill (buffer chunk : List UInt8) : List UInt8 :=
  chunk ++ buffer.drop chunk.length

def emptyBuffer : List UInt8 := List.replicate chunkSize 0

/-- How much of a hole may be passed over in whole chunks. There is no start
marker in a hole, so it tells nothing when nothing has been carried over. -/
def passable (reader : Reader) (unread : FileContents) : Nat :=
  if reader.decoder.carry.isEmpty then unread.gap / chunkSize * chunkSize else 0

theorem passable_le_size (reader : Reader) (unread : FileContents) :
    reader.passable unread ≤ unread.size := by
  unfold passable
  split
  · exact Nat.le_trans (Nat.div_mul_le_self _ _) unread.gap_le_size
  · exact Nat.zero_le _

/-- Read what is unread to its end, one chunk after the other into one buffer. -/
def consume (now : Int) (reader : Reader) (buffer : List UInt8) (unread : FileContents) :
    Reading :=
  let passed := reader.passable unread
  if _ : 0 < passed then
    consume now { reader with offset := reader.offset + passed } emptyBuffer (unread.drop passed)
  else
    let chunk := unread.take chunkSize
    if _ : chunk = [] then { reader, deliveries := [], malformed := 0, fault := none }
    else
      let filled := fill buffer chunk
      match reader.decoder.feed filled chunk.length with
      | .error fault => { reader, deliveries := [], malformed := 0, fault := some fault }
      | .ok (outcomes, decoder) =>
          let (fix, deliveries, malformed) := hear now reader.fix outcomes
          let offset := reader.offset + chunk.length
          let later := consume now { decoder, fix, offset } filled (unread.drop chunkSize)
          { later with
            deliveries := deliveries ++ later.deliveries
            malformed := malformed + later.malformed }
termination_by unread.size
decreasing_by
  · have bound := reader.passable_le_size unread
    rw [FileContents.size_drop]
    omega
  · have some := List.length_pos_iff.mpr ‹¬unread.take chunkSize = []›
    rw [FileContents.length_take] at some
    rw [FileContents.size_drop]
    simp only [chunkSize] at *
    omega

def readOn (now : Int) (reader : Reader) (contents : FileContents) : Reading :=
  reader.consume now emptyBuffer (contents.drop reader.offset)

end Reader

end ReceiverLog
